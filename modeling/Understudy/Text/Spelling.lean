import Understudy.Text.Letter

/-!
# Key spellings

The two conventional spellings of a key of several words: `userName` (camel case) and `user_name`
(snake case), and the title spelling of a method name.

## Main definitions

* `camelCase`, `snakeCase`: a key in the one or the other spelling
* `titleCase`: a name with the first letter of every word in upper case
-/

namespace Understudy.Text

/-- The parts of a text between underscores; a text without any is its only part. -/
def splitUnderscores : List Char → List (List Char)
  | [] => [[]]
  | c :: rest =>
    if c = '_' then [] :: splitUnderscores rest
    else
      match splitUnderscores rest with
      | [] => [[c]]
      | part :: parts => (c :: part) :: parts

/-- A word with its first character in upper case. -/
def capitalize : List Char → List Char
  | [] => []
  | c :: rest => upper c ++ rest

/-- A key without its underscores, each of them marked by the capital that follows. -/
def camelCase (key : String) : String :=
  match splitUnderscores key.toList with
  | [] => ""
  | first :: parts => String.ofList (first ++ parts.flatMap capitalize)

/-- The characters after the first one, in lower case, an underscore before each capital. -/
def snakeTail (chars : List Char) : List Char :=
  chars.flatMap fun c => if isUppercase c then '_' :: lower c else lower c

/-- A key in lower case, with an underscore before every capital but a leading one. -/
def snakeCase (key : String) : String :=
  match key.toList with
  | [] => ""
  | first :: rest => String.ofList (lower first ++ snakeTail rest)

/-- The title spelling of the characters of a name, given whether a word starts with them. -/
def titleChars (atStart : Bool) : List Char → List Char
  | [] => []
  | c :: rest =>
    (if atStart && isAlphabetic c then upper c else [c]) ++ titleChars (!isAlphanumeric c) rest

/-- A name with the first letter of every word in upper case and the rest as it is. -/
def titleCase (name : String) : String :=
  String.ofList (titleChars true name.toList)

end Understudy.Text
