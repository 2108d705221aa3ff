import Dbml.Text.ClusterTables

/-!
# Clusters

A cluster is a group of characters that a reader sees as one: a letter with the marks on it, a
carriage return with its line feed, the parts of a Hangul syllable, the consonants of an Indic
conjunct, two pictographs held together by a joiner.  The rules are those of Unicode text
segmentation for extended clusters.
-/

namespace Dbml.Text

/-- Characters that are read as one. -/
abbrev Cluster := List Char

/-- The parts of a Hangul syllable. -/
inductive Jamo where
  | leading
  | vowel
  | trailing
  deriving DecidableEq

/-- Within a syllable a part is followed by one of its own kind or of the next. -/
def Jamo.mayPrecede : Jamo → Jamo → Bool
  | .leading, .leading | .leading, .vowel => true
  | .vowel, .vowel | .vowel, .trailing => true
  | .trailing, .trailing => true
  | _, _ => false

/-- What a character contributes to the breaks next to it. -/
inductive ClusterClass where
  | control
  | extend
  | joiner
  | spacingMark
  | prepended
  | pictograph
  /-- One of the two letters that make up a flag. -/
  | regionalIndicator
  /-- A Hangul syllable or a stretch of one, with its first and its last part. -/
  | hangul (first last : Jamo)
  /-- A consonant that may be part of a conjunct. -/
  | consonant
  | other
  deriving DecidableEq

/-- The first and the last part of a stretch of a Hangul syllable.  Whole syllables are in an order
in which every twenty-eighth has no trailing part. -/
def hangulParts? (c : Char) : Option (Jamo × Jamo) :=
  if leadingJamoRanges.has c then some (.leading, .leading)
  else if vowelJamoRanges.has c then some (.vowel, .vowel)
  else if trailingJamoRanges.has c then some (.trailing, .trailing)
  else if hangulSyllableRanges.has c then
    some (.leading, if (c.toNat - 0xAC00) % 28 = 0 then .vowel else .trailing)
  else none

/-- The class of a character.  All of ASCII past the controls is in no class. -/
def clusterClass (c : Char) : ClusterClass :=
  if 0x20 ≤ c.toNat && c.toNat < 0x7F then .other
  else if c.toNat = 0x200D then .joiner
  else if controlRanges.has c then .control
  else if extendRanges.has c then .extend
  else if spacingMarkRanges.has c then .spacingMark
  else if prependRanges.has c then .prepended
  else if pictographRanges.has c then .pictograph
  else if regionalIndicatorRanges.has c then .regionalIndicator
  else if conjunctConsonantRanges.has c then .consonant
  else
    match hangulParts? c with
    | some (first, last) => .hangul first last
    | none => .other

/-- A pictograph with marks on it, read backwards. -/
def endsInPictograph (before : List Char) : Bool :=
  match before.dropWhile (clusterClass · = .extend) with
  | c :: _ => clusterClass c = .pictograph
  | [] => false

/-- A mark that may stand between the consonants of a conjunct: any but the one that keeps letters
apart. -/
def isConjunctMark (c : Char) : Bool :=
  (clusterClass c = .extend || clusterClass c = .joiner) && c.toNat ≠ 0x200C

/-- A consonant with marks on it of which at least one links it to a consonant that follows, read
backwards. -/
def awaitsConsonant (before : List Char) : Bool :=
  (before.takeWhile isConjunctMark).any conjunctLinkerRanges.has &&
    (before.dropWhile isConjunctMark).head?.any (clusterClass · = .consonant)

/-- Regional indicators at the end of a cluster, read backwards, of which one has no partner yet. -/
def awaitsIndicator (before : List Char) : Bool :=
  (before.takeWhile (clusterClass · = .regionalIndicator)).length % 2 = 1

/-- The character `c` belongs to the cluster whose characters so far, last one first, are
`before`. -/
def joinsCluster (before : Cluster) (c : Char) : Bool :=
  match before with
  | [] => true
  | last :: earlier =>
    match clusterClass last, clusterClass c with
    | .control, _ => last = '\r' && c = '\n'
    | _, .control => false
    | _, .extend | _, .joiner | _, .spacingMark => true
    | .prepended, _ => true
    | .joiner, .pictograph => endsInPictograph earlier
    | .regionalIndicator, .regionalIndicator => awaitsIndicator before
    | .hangul _ part, .hangul next _ => part.mayPrecede next
    | _, .consonant => awaitsConsonant before
    | _, _ => false

/-- The clusters of a text that goes on after the characters `before` of an unfinished one. -/
def clustersAfter (before : Cluster) : List Char → List Cluster
  | [] => if before.isEmpty then [] else [before.reverse]
  | c :: rest =>
    if joinsCluster before c then clustersAfter (c :: before) rest
    else before.reverse :: clustersAfter [c] rest

/-- The clusters of a text. -/
def clusters (text : List Char) : List Cluster :=
  clustersAfter [] text

end Dbml.Text
