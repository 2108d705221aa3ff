import Dbml.Text.Case
import Dbml.Text.Cluster

/-!
# Camel case

An identifier is cut into words at separators and at changes of case or between letters and digits;
in camel case the words are joined, each one but the first with a capital.
-/

namespace Dbml.Text

namespace Cluster

/-- Underscores, hyphens and spaces separate words and are dropped. -/
def isSeparator (cluster : Cluster) : Bool :=
  cluster == ['_'] || cluster == ['-'] || cluster == [' ']

/-- In upper case, and not just without case. -/
def isUpper (cluster : Cluster) : Bool :=
  uppercase cluster != lowercase cluster && cluster == uppercase cluster

/-- In lower case, and not just without case. -/
def isLower (cluster : Cluster) : Bool :=
  uppercase cluster != lowercase cluster && cluster == lowercase cluster

/-- An ASCII digit. -/
def isDigit (cluster : Cluster) : Bool :=
  cluster.all Char.isDigit

end Cluster

/-- A word begins at `cluster`, seen from the clusters before and after it: at a change between
lower case, upper case and digits (but not from digits to no letter), and at the last of several
capitals when a small letter follows it. -/
def beginsWord (previous cluster : Cluster) (next : Option Cluster) : Bool :=
  (previous.isLower && cluster.isUpper) ||
  (previous.isUpper && cluster.isDigit) ||
  (previous.isDigit && cluster.isUpper) ||
  (previous.isDigit && cluster.isLower) ||
  (previous.isLower && cluster.isDigit) ||
  (previous.isUpper && cluster.isUpper && next.any Cluster.isLower)

/-- The words of an identifier, of which `word` is the one begun and `previous` the last cluster
read. -/
def identifierWordsAfter (word : List Char) (previous : Option Cluster) :
    List Cluster → List (List Char)
  | [] => [word]
  | cluster :: rest =>
    if cluster.isSeparator then word :: identifierWordsAfter [] (some cluster) rest
    else if previous.any (beginsWord · cluster rest.head?) then
      word :: identifierWordsAfter cluster (some cluster) rest
    else identifierWordsAfter (word ++ cluster) (some cluster) rest

/-- The non-empty words of an identifier. -/
def identifierWords (text : List Char) : List (List Char) :=
  (identifierWordsAfter [] none (clusters text)).filter fun word => !word.isEmpty

/-- A word with a capital first character and the rest in lower case. -/
def capitalized : List Char → List Char
  | [] => []
  | c :: rest => upper c ++ lowercase rest

/-- The words of an identifier in camel case: `user_profile` becomes `userProfile`. -/
def camelCase (text : List Char) : List Char :=
  match identifierWords text with
  | [] => []
  | word :: rest => lowercase word ++ rest.flatMap capitalized

end Dbml.Text
