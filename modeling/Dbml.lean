import Dbml.Text.Blank
import Dbml.Text.Alphanumeric
import Dbml.Text.Camel
import Dbml.Decimal.Layout
import Dbml.Json.Lexeme
import Dbml.Json.Printer
import Dbml.Json.Reader
import Dbml.Token.Basic
import Dbml.Token.Lexer
import Dbml.Schema.Action
import Dbml.Json.Record
import Dbml.Schema.Json
import Dbml.Event
import Dbml.Source.Grouping
import Dbml.Source.Header
import Dbml.Source.Column
import Dbml.Source.Scan
import Dbml.Linking
import Dbml.Source.Parse
import Dbml.Artifact
import Dbml.CommandLine.Arguments
import Dbml.CommandLine.Program
import Dbml.CommandLine.Workspace
import Dbml.Main
import Dbml.Schema.Edit
import Dbml.Proofs.Scan.Outcome
import Dbml.Proofs.Scan.Step
import Dbml.Proofs.Scan.BlockStack
import Dbml.Proofs.Scan.Lockstep
import Dbml.Proofs.Linking.ForeignKeys
import Dbml.Proofs.Linking.Identity
import Dbml.Proofs.Source.Statements
import Dbml.Proofs.Source.RoundTrip
import Dbml.Proofs.Linking.Junctions
import Dbml.Proofs.Linking.Frame
import Dbml.Proofs.Linking.Relations
import Dbml.Proofs.Schema.RoundTrip
import Dbml.Proofs.Linking.Columns
import Dbml.Proofs.Linking.Repetition
import Dbml.Proofs.Linking.ColumnNames
import Dbml.Proofs.Linking.ColumnTypes
import Dbml.Proofs.Linking.GivenReference
import Dbml.Proofs.Linking.InlineKeys
import Dbml.Proofs.Linking.CreatedTables
import Dbml.Proofs.Linking.EndpointTables
import Dbml.Proofs.Schema.OtherTables
import Dbml.Proofs.TypeOrm.Sides
import Dbml.Proofs.TypeOrm.PrimaryKeys
import Dbml.Proofs.Prisma.RelationFields
import Dbml.Proofs.TypeOrm.PropertyNames
import Dbml.Proofs.Prisma.FieldNames
import Dbml.Proofs.Prisma.KeysAndDefaults
import Dbml.Proofs.Scan.LexicalFailures
import Dbml.Proofs.TypeOrm.Files
import Dbml.Proofs.Prisma.Junctions
import Dbml.Proofs.Schema.MirroredRelations
import Dbml.Proofs.Source.Brackets
import Dbml.Proofs.Source.Grammar
import Dbml.Proofs.Scan.Layout
import Dbml.Proofs.Scan.StrictStatements
import Dbml.Proofs.Schema.EventCounts
import Dbml.Proofs.CommandLine.PartialWrites
import Dbml.Proofs.Token.Concatenation
import Dbml.Proofs.Source.Braces
import Dbml.Proofs.Source.Cuts
import Dbml.Proofs.Scan.Lines
import Dbml.Proofs.Scan.SplitLines
import Dbml.Proofs.Scan.BlockHeight
import Dbml.Proofs.Scan.MovedLines
import Dbml.Proofs.Scan.SkippedBlocks
import Dbml.Proofs.Source.RelationHeaders
import Dbml.Proofs.Source.SettingOrder
import Dbml.Proofs.Token.Readable
import Dbml.Proofs.Scan.TableLines
import Dbml.Proofs.Decimal.Range
import Dbml.Proofs.Decimal.Written
import Dbml.Proofs.Source.NumericDefaults
import Dbml.Proofs.TypeOrm.Imports
import Dbml.Proofs.TypeOrm.SelfReferences
import Dbml.Proofs.Prisma.KeyFields
import Dbml.Proofs.Schema.Notes
import Dbml.Proofs.Token.Rendering
import Dbml.Proofs.Token.Progress
