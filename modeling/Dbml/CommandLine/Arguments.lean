import Dbml.Artifact

/-!
# Arguments of the command

Arguments are taken from left to right, and the first one that is wrong or that asks for the version
or for help decides.  An option has its value in the next argument or in its own, there with or
without an equals sign.
-/

namespace Dbml.CommandLine

/-- What is wrong with the arguments. -/
inductive UsageError where
  | unknownOption (option : String)
  | missingValue (option : String)
  | unexpectedValue (option : String)
  | repeatedOption (option : String)
  | emptyValue (option : String)
  | secondInput (name : String)
  | unknownFormat (error : UnknownFormat)
  deriving DecidableEq, Repr

/-- The wording of an error. -/
def UsageError.message : UsageError → String
  | .unknownOption option => "error: unexpected argument '" ++ option ++ "' found"
  | .missingValue option => "error: a value is required for '" ++ option ++ "'"
  | .unexpectedValue option => "error: '" ++ option ++ "' takes no value"
  | .repeatedOption option => "error: '" ++ option ++ "' cannot be used multiple times"
  | .emptyValue option => "error: the value for '" ++ option ++ "' is empty"
  | .secondInput name => "error: unexpected argument '" ++ name ++ "' found"
  | .unknownFormat error => "error: " ++ error.message

/-- The arguments of a conversion.  What is missing has not been given. -/
structure Arguments where
  input : Option String := none
  format : Option OutputFormat := none
  output : Option String := none
  strict : Bool := false
  noComments : Bool := false
  provider : Option String := none
  deriving DecidableEq, Repr

namespace Arguments

/-- The way in which the input is read. -/
def mode (arguments : Arguments) : Mode :=
  if arguments.strict then .strict else .lenient

/-- The way in which code is generated. -/
def options (arguments : Arguments) : GeneratorOptions where
  comments := !arguments.noComments
  provider := arguments.provider

end Arguments

/-- The options that have a value. -/
inductive Setting where
  | format
  | output
  | provider
  deriving DecidableEq, Repr

/-- What arguments ask for. -/
inductive Command where
  | convert (arguments : Arguments)
  | version
  | help
  deriving DecidableEq, Repr

/-! ### Single arguments -/

/-- Arguments with one of the settings made. -/
def Arguments.set (arguments : Arguments) (setting : Setting) (value : String) :
    Except UsageError Arguments :=
  match setting with
  | .format =>
    if arguments.format.isSome then .error (.repeatedOption "--format")
    else
      match OutputFormat.ofName value with
      | .ok format => .ok { arguments with format := some format }
      | .error error => .error (.unknownFormat error)
  | .output =>
    if arguments.output.isSome then .error (.repeatedOption "--output")
    else if value.isEmpty then .error (.emptyValue "--output")
    else .ok { arguments with output := some value }
  | .provider =>
    if arguments.provider.isSome then .error (.repeatedOption "--provider")
    else .ok { arguments with provider := some value }

/-- Arguments with the input given. -/
def Arguments.setInput (arguments : Arguments) (name : String) : Except UsageError Arguments :=
  if arguments.input.isSome then .error (.secondInput name)
  else if name.isEmpty then .error (.emptyValue "INPUT")
  else .ok { arguments with input := some name }

/-- What one argument is. -/
inductive Item where
  | input (name : String)
  /-- An option, with its value if that is in the same argument. -/
  | setting (setting : Setting) (value : Option String)
  | strict
  | noComments
  | version
  | help
  /-- All further arguments are inputs. -/
  | endOfOptions
  | wrong (error : UsageError)
  deriving DecidableEq, Repr

/-- The option of a long name, and what follows an equals sign behind it. -/
def longItem (argument : String) (name : List Char) (value : Option String) : Item :=
  match String.ofList name with
  | "format" => .setting .format value
  | "output" => .setting .output value
  | "provider" => .setting .provider value
  | "strict" => if value.isSome then .wrong (.unexpectedValue argument) else .strict
  | "no-comments" => if value.isSome then .wrong (.unexpectedValue argument) else .noComments
  | "version" => if value.isSome then .wrong (.unexpectedValue argument) else .version
  | "help" => if value.isSome then .wrong (.unexpectedValue argument) else .help
  | _ => .wrong (.unknownOption argument)

/-- The value that stands directly behind an option of one letter. -/
def joinedValue : List Char → Option String
  | [] => none
  | '=' :: rest => some (String.ofList rest)
  | rest => some (String.ofList rest)

/-- The option of one letter, and what follows it. -/
def shortItem (argument : String) (letter : Char) (rest : List Char) : Item :=
  match letter with
  | 'f' => .setting .format (joinedValue rest)
  | 'o' => .setting .output (joinedValue rest)
  | 'V' => .version
  | 'h' => .help
  | _ => .wrong (.unknownOption argument)

/-- Reads one argument.  A hyphen alone is an input. -/
def item (argument : String) : Item :=
  match argument.toList with
  | ['-', '-'] => .endOfOptions
  | '-' :: '-' :: rest =>
    match rest.dropWhile (· ≠ '=') with
    | [] => longItem argument rest none
    | _ :: value => longItem argument (rest.takeWhile (· ≠ '=')) (some (String.ofList value))
  | '-' :: letter :: rest => shortItem argument letter rest
  | _ => .input argument

/-- An argument that may be the value of the option before it. -/
def isValue (argument : String) : Bool :=
  match item argument with
  | .input _ => true
  | _ => false

/-! ### All arguments -/

/-- Takes all arguments for inputs. -/
def parseInputs (arguments : Arguments) : List String → Except UsageError Command
  | [] => .ok (.convert arguments)
  | name :: rest => do parseInputs (← arguments.setInput name) rest

/-- Takes one argument after another. -/
def parseAfter (arguments : Arguments) : List String → Except UsageError Command
  | [] => .ok (.convert arguments)
  | argument :: rest =>
    match item argument with
    | .input name => do parseAfter (← arguments.setInput name) rest
    | .setting setting (some value) => do parseAfter (← arguments.set setting value) rest
    | .setting setting none =>
      match rest with
      | value :: rest =>
        if isValue value then do parseAfter (← arguments.set setting value) rest
        else .error (.missingValue argument)
      | [] => .error (.missingValue argument)
    | .strict =>
      if arguments.strict then .error (.repeatedOption argument)
      else parseAfter { arguments with strict := true } rest
    | .noComments =>
      if arguments.noComments then .error (.repeatedOption argument)
      else parseAfter { arguments with noComments := true } rest
    | .version => .ok .version
    | .help => .ok .help
    | .endOfOptions => parseInputs arguments rest
    | .wrong error => .error error

/-- What the arguments of the command ask for. -/
def parse (arguments : List String) : Except UsageError Command :=
  parseAfter {} arguments

end Dbml.CommandLine
