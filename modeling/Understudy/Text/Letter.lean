import Understudy.Text.CaseData
import Understudy.Text.Category

/-!
# Letters and their case

Classes of characters and the mappings between upper and lower case. On ASCII they are given
directly; beyond it they come from the character tables, where the case of one character may be
several.

## Main definitions

* `isAlphabetic`, `isAlphanumeric`, `isUppercase`, `isBlank`: the classes
* `upper`, `lower`: the upper and the lower case of a character
* `caseOrbits`: the groups of characters that differ in case only
-/

namespace Understudy.Text

/-- Whether a character is below 128. -/
def isAscii (c : Char) : Bool :=
  c.toNat < 128

/-- Whether a character is a letter or otherwise alphabetic. -/
def isAlphabetic (c : Char) : Bool :=
  if isAscii c then c.isAlpha else alphabetic.mem c

/-- Whether a character is alphabetic or a number of any kind. -/
def isAlphanumeric (c : Char) : Bool :=
  if isAscii c then c.isAlphanum else alphabetic.mem c || numeric.mem c

/-- Whether a character is upper case. -/
def isUppercase (c : Char) : Bool :=
  if isAscii c then c.isUpper else uppercase.mem c

/-- Whether a character is white space: the blanks and line ends of ASCII, among them the vertical
tab and the form feed, and those beyond it. -/
def isBlank (c : Char) : Bool :=
  if isAscii c then c == ' ' || (9 ≤ c.toNat && c.toNat ≤ 13) else blank.mem c

/-- A run of a case mapping: `first`, `last`, `step` and the image of `first`. -/
structure CaseRun where
  first : Nat
  last : Nat
  step : Nat
  target : Nat

/-- The hexadecimal numbers of a table entry, written between points. -/
def entryNumbers (entry : String) : List Nat :=
  (entry.splitOn ".").filterMap fun part => ofHex? part.toList

/-- The runs a table lists. -/
def caseRuns (lines : List String) : List CaseRun :=
  (tableEntries lines).filterMap fun entry =>
    match entryNumbers entry with
    | [first, last, step, target] => some ⟨first, last, step, target⟩
    | _ => none

/-- The expansions a table lists: a code point and the characters it maps to. -/
def caseExpansions (lines : List String) : List (Nat × List Char) :=
  (tableEntries lines).filterMap fun entry =>
    match entryNumbers entry with
    | source :: targets => some (source, targets.map Char.ofNat)
    | [] => none

/-- The image of a code point under a run, if the run covers it. -/
def CaseRun.image? (run : CaseRun) (code : Nat) : Option Nat :=
  if run.first ≤ code ∧ code ≤ run.last ∧ (code - run.first) % run.step = 0 then
    some (run.target + (code - run.first))
  else none

/-- The image of a character under a case mapping; a character it does not list stays. -/
def mapCase (runs : List CaseRun) (expansions : List (Nat × List Char)) (c : Char) : List Char :=
  match expansions.lookup c.toNat with
  | some image => image
  | none =>
    match runs.findSome? fun run => run.image? c.toNat with
    | some code => [Char.ofNat code]
    | none => [c]

/-- The runs of the upper-case mapping. -/
def upperTable : List CaseRun := caseRuns upperRuns

/-- The expansions of the upper-case mapping. -/
def upperExpansionTable : List (Nat × List Char) := caseExpansions upperExpansions

/-- The runs of the lower-case mapping. -/
def lowerTable : List CaseRun := caseRuns lowerRuns

/-- The expansions of the lower-case mapping. -/
def lowerExpansionTable : List (Nat × List Char) := caseExpansions lowerExpansions

/-- The upper case of a character. -/
def upper (c : Char) : List Char :=
  if isAscii c then [c.toUpper] else mapCase upperTable upperExpansionTable c

/-- The lower case of a character. -/
def lower (c : Char) : List Char :=
  if isAscii c then [c.toLower] else mapCase lowerTable lowerExpansionTable c

/-- The code points of a run with their images. -/
def CaseRun.pairs (run : CaseRun) : List (Nat × Nat) :=
  (List.range ((run.last - run.first) / run.step + 1)).map fun i =>
    (run.first + i * run.step, run.target + i * run.step)

/-- Groups neighbours with the same folding, in a list sorted by the folding. -/
def groupOrbits : List (Nat × Nat) → List (List Nat)
  | [] => []
  | (source, target) :: rest =>
    match groupOrbits rest with
    | [] => [[source, target]]
    | group :: groups =>
      if group.getLast? = some target then (source :: group) :: groups
      else [source, target] :: group :: groups

/-- The groups of characters that one simple case folding makes equal. -/
def caseOrbits : List (List Nat) :=
  groupOrbits (((caseRuns foldRuns).flatMap CaseRun.pairs).mergeSort fun a b => a.2 ≤ b.2)

/-- The set with all characters that differ from its members in case only. -/
def CharSet.closeCase (set : CharSet) : CharSet :=
  CharSet.ofRanges (set.ranges ++ (caseOrbits.filter fun orbit =>
    orbit.any fun code => CharSet.inRanges code set.ranges).flatMap fun orbit =>
      orbit.map fun code => (code, code))

/-- The text without its leading and trailing white space. -/
def trim (text : String) : String :=
  String.ofList ((text.toList.dropWhile isBlank).reverse.dropWhile isBlank).reverse

end Understudy.Text
