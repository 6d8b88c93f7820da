import Understudy.Text.AgeData
import Understudy.Text.Letter
import Understudy.Text.Segmentation

/-!
# Properties by name

The yes-or-no properties of characters and the ages of characters, by their names. Some properties
are listed; the others are made of general categories and of each other. Names are given in lower
case without separators.

## Main definitions

* `binaryProperty?`: the characters that have a yes-or-no property
* `ageSet?`: the characters of a version and of those before it
-/

namespace Understudy.Text

/-! ## Identifiers -/

/-- The characters that only serve the structure of patterns. -/
def patternCharacters : CharSet :=
  (listed "patsyn").union (listed "patws")

/-- The characters an identifier may start with. -/
def identifierStart : CharSet :=
  ((letters.union (categorySet ["Nl"])).union (listed "oids")).sdiff patternCharacters

/-- The characters an identifier may hold. -/
def identifierPart : CharSet :=
  ((identifierStart.union (categorySet ["Mn", "Mc", "Nd", "Pc"])).union (listed "oidc")).sdiff
    patternCharacters

/-- Characters that compatibility mappings take out of identifiers. -/
def unstableInside : CharSet :=
  CharSet.ofRanges [(0x37a, 0x37a), (0x309b, 0x309c), (0xfc5e, 0xfc63), (0xfdfa, 0xfdfb),
    (0xfe70, 0xfe70), (0xfe72, 0xfe72), (0xfe74, 0xfe74), (0xfe76, 0xfe76), (0xfe78, 0xfe78),
    (0xfe7a, 0xfe7a), (0xfe7c, 0xfe7c), (0xfe7e, 0xfe7e)]

/-- Characters that compatibility mappings take from the start of identifiers. -/
def unstableAtStart : CharSet :=
  unstableInside.union (CharSet.ofRanges [(0xe33, 0xe33), (0xeb3, 0xeb3), (0xff9e, 0xff9f)])

/-! ## Case -/

/-- The characters that a case mapping changes. -/
def changedBy (runs : List CaseRun) (expansions : List (Nat × List Char)) : CharSet :=
  CharSet.ofRanges (runs.flatMap (fun run => run.pairs.map fun pair => (pair.1, pair.1)) ++
    expansions.map fun entry => (entry.1, entry.1))

/-- The characters that lower case changes. -/
def changedByLower : CharSet :=
  changedBy lowerTable lowerExpansionTable

/-- The characters that upper case changes. -/
def changedByUpper : CharSet :=
  changedBy upperTable upperExpansionTable

/-- The characters that title case changes: as upper case does, but for the title-case letters and
the Georgian ones; and the capital digraphs. -/
def changedByTitle : CharSet :=
  let kept := (categorySet ["Lt"]).union (CharSet.ofRanges [(0x10d0, 0x10fa), (0x10fd, 0x10ff)])
  (changedByUpper.sdiff kept).union
    (CharSet.ofRanges [(0x1c4, 0x1c4), (0x1c7, 0x1c7), (0x1ca, 0x1ca), (0x1f1, 0x1f1)])

/-- The characters that case folding changes: as lower case does, but for the Cherokee capitals; and
those that fold to several characters or to another small letter. -/
def changedByFolding : CharSet :=
  (changedByLower.sdiff (CharSet.ofRanges [(0x13a0, 0x13f5)])).union
    (CharSet.ofRanges [(0xb5, 0xb5), (0xdf, 0xdf), (0x149, 0x149), (0x17f, 0x17f), (0x345, 0x345),
      (0x3c2, 0x3c2), (0x3d0, 0x3d1), (0x3d5, 0x3d6), (0x3f0, 0x3f1), (0x3f5, 0x3f5),
      (0x587, 0x587), (0x13f8, 0x13fd), (0x1c80, 0x1c88), (0x1e9a, 0x1e9b), (0x1f80, 0x1f87),
      (0x1f90, 0x1f97), (0x1fa0, 0x1fa7), (0x1fb2, 0x1fb4), (0x1fb7, 0x1fb7), (0x1fc2, 0x1fc4),
      (0x1fc7, 0x1fc7), (0x1ff2, 0x1ff4), (0x1ff7, 0x1ff7), (0xab70, 0xabbf), (0xfb00, 0xfb06),
      (0xfb13, 0xfb17)])

/-- The characters that case mappings pass over. -/
def caseIgnorable : CharSet :=
  (((categorySet ["Mn", "Me", "Cf", "Lm", "Sk"]).union midLetter).union midNumLet).union
    (CharSet.single '\'')

/-! ## Display -/

/-- The characters that are not shown where a font lacks them. -/
def ignorable : CharSet :=
  (((listed "odi").union (categorySet ["Cf"])).union (listed "vs")).sdiff
    ((blank.union (listed "pcm")).union (CharSet.ofRanges [(0xfff9, 0xfffb), (0x13430, 0x1343f)]))

/-- The characters that a grapheme may start with and that are shown. -/
def graphemeBases : CharSet :=
  ((categorySet ["Cc", "Cf", "Cs", "Co", "Cn", "Zl", "Zp"]).union graphemeExtenders).compl

/-- The mathematical characters. -/
def mathematical : CharSet :=
  (categorySet ["Sm"]).union (listedSet otherMathematical)

/-- The set of a yes-or-no property. -/
def binaryProperty? (name : String) : Option CharSet :=
  match name with
  | "alpha" | "alphabetic" => some alphabetic
  | "oalpha" | "otheralphabetic" => some (listedSet otherAlphabetic)
  | "upper" | "uppercase" => some uppercase
  | "oupper" | "otheruppercase" => some (listedSet otherUppercase)
  | "lower" | "lowercase" => some lowercase
  | "olower" | "otherlowercase" => some (listedSet otherLowercase)
  | "cased" => some ((lowercase.union uppercase).union (categorySet ["Lt"]))
  | "ci" | "caseignorable" => some caseIgnorable
  | "cwl" | "changeswhenlowercased" => some changedByLower
  | "cwu" | "changeswhenuppercased" => some changedByUpper
  | "cwt" | "changeswhentitlecased" => some changedByTitle
  | "cwcf" | "changeswhencasefolded" => some changedByFolding
  | "cwcm" | "changeswhencasemapped" =>
    some ((changedByLower.union changedByUpper).union changedByTitle)
  | "space" | "wspace" | "whitespace" => some blank
  | "math" => some mathematical
  | "omath" | "othermath" => some (listedSet otherMathematical)
  | "di" | "defaultignorablecodepoint" => some ignorable
  | "grbase" | "graphemebase" => some graphemeBases
  | "grext" | "graphemeextend" => some graphemeExtenders
  | "ogrext" | "othergraphemeextend" => some (listedSet otherExtenders)
  | "ids" | "idstart" => some identifierStart
  | "idc" | "idcontinue" => some identifierPart
  | "xids" | "xidstart" => some (identifierStart.sdiff unstableAtStart)
  | "xidc" | "xidcontinue" => some (identifierPart.sdiff unstableInside)
  | name => listedProperty? name

/-! ## Ages -/

/-- The characters of the versions up to one that passes a test, if there is one. -/
def upToVersion (test : String → Bool) (seen : List String) :
    List (String × List String) → Option CharSet
  | [] => none
  | (version, lines) :: rest =>
    if test version then some (listedSet (seen ++ lines)) else upToVersion test (seen ++ lines) rest

/-- The characters of a version, such as `3.2` or `v32`, and of the versions before it. -/
def ageSet? (name : String) : Option CharSet :=
  upToVersion (fun version =>
    name == version || name == "v" ++ String.join (version.splitOn ".")) [] versions

end Understudy.Text
