import Understudy.Text.BinaryData
import Understudy.Text.CategoryData
import Understudy.Text.CharSet
import Understudy.Text.Hex
import Understudy.Text.PropertyData
import Understudy.Text.ScriptData
import Understudy.Text.ScriptExtensionData

/-!
# Character properties

Sets of characters named by the character database: general categories, scripts, and the properties
of letters that are made of them. Each set is read from its table once.

## Main definitions

* `categorySet`, `scriptSet`: the characters of a general category, of a script
* `scriptUsers`: the characters that a script uses, with those that it shares
* `alphabetic`, `uppercase`, `lowercase`, `numeric`, `blank`, `printable`: sets built from them
-/

namespace Understudy.Text

/-- The entries of a table, in order. -/
def tableEntries (lines : List String) : List String :=
  lines.flatMap fun line => line.splitOn " "

/-- The number that a hexadecimal table entry starts with, and the letters after it. -/
def readRun (entry : String) : Nat × String :=
  let digits := entry.toList.takeWhile fun c => c.isDigit || ('a' ≤ c && c ≤ 'f')
  ((hexFrom? 0 digits).getD 0, String.ofList (entry.toList.drop digits.length))

/-- Closes each run at the start of the next one and the last at the last code point. -/
def closeRuns : List (Nat × String) → List (String × Nat × Nat)
  | [] => []
  | [(start, name)] => [(name, start, CharSet.top)]
  | (start, name) :: (next, name') :: rest =>
    (name, start, next - 1) :: closeRuns ((next, name') :: rest)

/-- The general category of every code point, as named ranges. -/
def categoryRanges : List (String × Nat × Nat) :=
  closeRuns ((tableEntries categoryRuns).map readRun)

/-- The script code of every code point, as named ranges. -/
def scriptRanges : List (String × Nat × Nat) :=
  closeRuns ((tableEntries scriptRuns).map readRun)

/-- The ranges whose name passes a test. -/
def rangesNamed (test : String → Bool) (named : List (String × Nat × Nat)) : CharSet :=
  CharSet.ofRanges (named.filterMap fun entry => if test entry.1 then some entry.2 else none)

/-- The characters whose general category is one of some two-letter codes. -/
def categorySet (codes : List String) : CharSet :=
  rangesNamed (fun code => codes.contains code) categoryRanges

/-- The characters of a script, given by its four-letter code. -/
def scriptSet (code : String) : CharSet :=
  rangesNamed (fun other => other == code) scriptRanges

/-- The set a table of ranges lists. -/
def listedSet (lines : List String) : CharSet :=
  CharSet.ofRanges ((tableEntries lines).filterMap fun entry =>
    match entry.splitOn "." with
    | [low, high] => do some (← ofHex? low.toList, ← ofHex? high.toList)
    | _ => none)

/-- The characters of a listed yes-or-no property, by one of its names; none if it is not listed. -/
def listedProperty? (name : String) : Option CharSet :=
  (binaryProperties.find? fun entry => (entry.1.splitOn ".").contains name).map fun entry =>
    listedSet entry.2

/-- The characters of a listed yes-or-no property. -/
def listed (name : String) : CharSet :=
  (listedProperty? name).getD CharSet.empty

/-- The characters that are listed with the scripts that use them. -/
def sharedCharacters : CharSet :=
  listedSet (scriptExtensions.flatMap Prod.snd)

/-- The characters that a script uses, given by its four-letter code. The list of those that several
scripts use overrides the script of a character. -/
def scriptUsers (code : String) : CharSet :=
  let shared := scriptExtensions.filter fun entry => (entry.1.splitOn ".").contains code
  ((scriptSet code).sdiff sharedCharacters).union (listedSet (shared.flatMap Prod.snd))

/-- The letters of all kinds. -/
def letters : CharSet :=
  categorySet ["Lu", "Ll", "Lt", "Lm", "Lo"]

/-- The letters, letter numbers and other alphabetic characters. -/
def alphabetic : CharSet :=
  (letters.union (categorySet ["Nl"])).union (listedSet otherAlphabetic)

/-- The upper-case characters. -/
def uppercase : CharSet :=
  (categorySet ["Lu"]).union (listedSet otherUppercase)

/-- The lower-case characters. -/
def lowercase : CharSet :=
  (categorySet ["Ll"]).union (listedSet otherLowercase)

/-- The decimal digits, letter numbers and other numbers. -/
def numeric : CharSet :=
  categorySet ["Nd", "Nl", "No"]

/-- The white space. -/
def blank : CharSet :=
  listedSet whiteSpace

/-- The characters that extend the grapheme before them. -/
def graphemeExtenders : CharSet :=
  (categorySet ["Mn", "Me"]).union (listedSet otherExtenders)

/-- The characters that show as themselves: the space, and all that are assigned, no control,
format or private-use character, and no separator. -/
def printable : CharSet :=
  (categorySet ["Cc", "Cf", "Cn", "Co", "Cs", "Zl", "Zp", "Zs"]).compl.union (CharSet.single ' ')

end Understudy.Text
