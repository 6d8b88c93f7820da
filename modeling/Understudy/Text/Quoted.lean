import Understudy.Text.Letter

/-!
# Quoted text

Text between double quotes, as messages show it: quotes and backslashes are escaped, the common
control characters have short escapes, and every other character that would not show as itself is
written by its code point.

## Main definitions

* `escape`: what stands for one character
* `quoted`: a text between quotes
-/

namespace Understudy.Text

/-- Whether a character shows as itself and does not join the one before it. -/
def isVisible (c : Char) : Bool :=
  if isAscii c then 32 ≤ c.toNat && c.toNat < 127
  else printable.mem c && !graphemeExtenders.mem c

/-- What stands for a character between quotes. -/
def escape (c : Char) : List Char :=
  if c = '"' ∨ c = '\\' then ['\\', c]
  else if c = '\t' then ['\\', 't']
  else if c = '\n' then ['\\', 'n']
  else if c = '\r' then ['\\', 'r']
  else if c = '\x00' then ['\\', '0']
  else if isVisible c then [c]
  else ['\\', 'u', '{'] ++ hex c.toNat ++ ['}']

/-- A text between double quotes. -/
def quoted (text : String) : String :=
  String.ofList ('"' :: text.toList.flatMap escape ++ ['"'])

end Understudy.Text
