import Understudy.Text.Property

/-!
# Named character sets

The sets that a pattern names: the classes `\d`, `\s` and `\w`, the bracketed ASCII classes such as
`[:alpha:]`, and the character properties of `\p`: general categories, scripts, yes-or-no
properties, ages, and the classes of graphemes, words and sentences.

## Main definitions

* `digits`, `spaces`, `wordCharacters`: the classes over all characters, and their ASCII parts
* `asciiClass?`: a bracketed class by its name
* `propertySet?`: the set of a property by its name, or by a property and a value
-/

namespace Understudy.Pattern

open Text

/-- The decimal digits. -/
def digits : CharSet := categorySet ["Nd"]

/-- The white space. -/
def spaces : CharSet := blank

/-- The characters that words are made of: letters, marks, digits, connectors and joiners. -/
def wordCharacters : CharSet :=
  (alphabetic.union (categorySet ["Mn", "Mc", "Me", "Nd", "Pc"])).union
    (CharSet.ofRanges [(0x200c, 0x200d)])

/-- The ASCII digits. -/
def asciiDigits : CharSet := CharSet.range '0' '9'

/-- The ASCII white space. -/
def asciiSpaces : CharSet := CharSet.ofRanges [(9, 13), (32, 32)]

/-- The ASCII letters. -/
def asciiLetters : CharSet := (CharSet.range 'a' 'z').union (CharSet.range 'A' 'Z')

/-- The ASCII letters, digits and the underscore. -/
def asciiWordCharacters : CharSet :=
  (asciiLetters.union asciiDigits).union (CharSet.single '_')

/-- The class written between colons in brackets. -/
def asciiClass? : String → Option CharSet
  | "alnum" => some (asciiLetters.union asciiDigits)
  | "alpha" => some asciiLetters
  | "ascii" => some (CharSet.ofRanges [(0, 127)])
  | "blank" => some (CharSet.ofRanges [(9, 9), (32, 32)])
  | "cntrl" => some (CharSet.ofRanges [(0, 31), (127, 127)])
  | "digit" => some asciiDigits
  | "graph" => some (CharSet.range '!' '~')
  | "lower" => some (CharSet.range 'a' 'z')
  | "print" => some (CharSet.range ' ' '~')
  | "punct" =>
    some (CharSet.ofRanges [(0x21, 0x2f), (0x3a, 0x40), (0x5b, 0x60), (0x7b, 0x7e)])
  | "space" => some asciiSpaces
  | "upper" => some (CharSet.range 'A' 'Z')
  | "word" => some asciiWordCharacters
  | "xdigit" =>
    some ((asciiDigits.union (CharSet.range 'a' 'f')).union (CharSet.range 'A' 'F'))
  | _ => none

/-- A property name without spaces, underscores, hyphens and a leading `is`, in lower case. -/
def looseName (name : String) : String :=
  let kept := (name.toList.filter fun c =>
    isAscii c && c != ' ' && c != '_' && c != '-').map Char.toLower
  match name.toList.map Char.toLower, kept with
  | 'i' :: 's' :: _, ['i', 's', 'c'] => "isc"
  | 'i' :: 's' :: _, 'i' :: 's' :: rest => String.ofList rest
  | _, kept => String.ofList kept

/-- The loose names of the general categories and the two-letter codes they stand for. -/
def categoryNames : List (List String × List String) :=
  [(["lu", "uppercaseletter"], ["Lu"]),
   (["ll", "lowercaseletter"], ["Ll"]),
   (["lt", "titlecaseletter"], ["Lt"]),
   (["lm", "modifierletter"], ["Lm"]),
   (["lo", "otherletter"], ["Lo"]),
   (["lc", "casedletter"], ["Lu", "Ll", "Lt"]),
   (["l", "letter"], ["Lu", "Ll", "Lt", "Lm", "Lo"]),
   (["mn", "nonspacingmark"], ["Mn"]),
   (["mc", "spacingmark"], ["Mc"]),
   (["me", "enclosingmark"], ["Me"]),
   (["m", "mark", "combiningmark"], ["Mn", "Mc", "Me"]),
   (["nd", "decimalnumber", "digit"], ["Nd"]),
   (["nl", "letternumber"], ["Nl"]),
   (["no", "othernumber"], ["No"]),
   (["n", "number"], ["Nd", "Nl", "No"]),
   (["pc", "connectorpunctuation"], ["Pc"]),
   (["pd", "dashpunctuation"], ["Pd"]),
   (["ps", "openpunctuation"], ["Ps"]),
   (["pe", "closepunctuation"], ["Pe"]),
   (["pi", "initialpunctuation"], ["Pi"]),
   (["pf", "finalpunctuation"], ["Pf"]),
   (["po", "otherpunctuation"], ["Po"]),
   (["p", "punct", "punctuation"], ["Pc", "Pd", "Ps", "Pe", "Pi", "Pf", "Po"]),
   (["sm", "mathsymbol"], ["Sm"]),
   (["sc", "currencysymbol"], ["Sc"]),
   (["sk", "modifiersymbol"], ["Sk"]),
   (["so", "othersymbol"], ["So"]),
   (["s", "symbol"], ["Sm", "Sc", "Sk", "So"]),
   (["zs", "spaceseparator"], ["Zs"]),
   (["zl", "lineseparator"], ["Zl"]),
   (["zp", "paragraphseparator"], ["Zp"]),
   (["z", "separator"], ["Zs", "Zl", "Zp"]),
   (["cc", "control", "cntrl"], ["Cc"]),
   (["cf", "format"], ["Cf"]),
   (["co", "privateuse"], ["Co"]),
   (["cn", "unassigned"], ["Cn"]),
   (["c", "other"], ["Cc", "Cf", "Cs", "Co", "Cn"])]

/-- The set of a general category, by its loose name. -/
def categoryNamed? (name : String) : Option CharSet :=
  match name with
  | "any" => some CharSet.empty.compl
  | "ascii" => some (CharSet.ofRanges [(0, 127)])
  | "assigned" => some (categorySet ["Cn"]).compl
  | name =>
    (categoryNames.find? fun entry => entry.1.contains name).map fun entry => categorySet entry.2

/-- The code of a script, by its loose name. -/
def scriptCode? (name : String) : Option String :=
  (tableEntries scriptNames).findSome? fun entry =>
    let names := entry.splitOn "."
    if (names.map looseName).contains name && names.head? != some "Zzzz" then names.head? else none

/-- The set of a property given by its name alone: a yes-or-no property, a general category or a
script. -/
def propertyNamed? (name : String) : Option CharSet :=
  let loose := looseName name
  (binaryProperty? loose).or ((categoryNamed? loose).or ((scriptCode? loose).map scriptSet))

/-- The set of a property that has a value. -/
def propertyValue? (name value : String) : Option CharSet :=
  let value := looseName value
  match looseName name with
  | "gc" | "generalcategory" => categoryNamed? value
  | "sc" | "script" => (scriptCode? value).map scriptSet
  | "scx" | "scriptextensions" => (scriptCode? value).map scriptUsers
  | "age" => ageSet? value
  | "gcb" | "graphemeclusterbreak" => graphemeBreak? value
  | "wb" | "wordbreak" => wordBreak? value
  | "sb" | "sentencebreak" => sentenceBreak? value
  | _ => none

/-- The parts of a text around the first occurrence of a separator. -/
def splitAround (separator : List Char) : List Char → Option (String × String)
  | [] => none
  | c :: rest =>
    if separator.isPrefixOf (c :: rest) then
      some ("", String.ofList ((c :: rest).drop separator.length))
    else (splitAround separator rest).map fun parts => (String.ofList [c] ++ parts.1, parts.2)

/-- The set that the text of a `\p` class names, and whether its complement is meant: `name`,
`name=value` or `name:value` for a set, `name!=value` for a complement. -/
def propertySet? (text : String) : Option (CharSet × Bool) :=
  match splitAround ['!', '='] text.toList with
  | some (name, value) => (propertyValue? name value).map (·, true)
  | none =>
    let set := match splitAround [':'] text.toList with
      | some (name, value) => propertyValue? name value
      | none =>
        match splitAround ['='] text.toList with
        | some (name, value) => propertyValue? name value
        | none => propertyNamed? text
    set.map (·, false)

end Understudy.Pattern
