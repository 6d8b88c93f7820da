import Understudy.Text.Hex

/-!
# Identifiers

Identifiers of 128 bits. They are written as 32 hexadecimal digits in five groups, and read from
that form in any case, with or without the hyphens, in braces, or as a name. They are ordered as
numbers, which is the order of their texts.

## Main definitions

* `Identifier`, `Identifier.nil`: the identifiers, and the one that stands for none
* `Identifier.ofText?`, `Identifier.text`: reading and writing
-/

namespace Understudy

/-- An identifier of 128 bits. -/
structure Identifier where
  bits : BitVec 128
deriving DecidableEq, Inhabited

namespace Identifier

instance : LT Identifier := ⟨fun a b => a.bits < b.bits⟩

instance : DecidableLT Identifier := fun a b => inferInstanceAs (Decidable (a.bits < b.bits))

instance : LE Identifier := ⟨fun a b => a.bits ≤ b.bits⟩

instance : DecidableLE Identifier := fun a b => inferInstanceAs (Decidable (a.bits ≤ b.bits))

/-- The identifier that stands for none. -/
def nil : Identifier := ⟨0⟩

/-- The identifier for a number drawn by chance; six of its bits say that it was drawn. -/
def ofDraw (number : Nat) : Identifier :=
  let word := BitVec.ofNat 128 number &&& ~~~(0xf000c000000000000000 : BitVec 128)
  ⟨word ||| (0x40008000000000000000 : BitVec 128)⟩

/-- Whether the identifier stands for none. -/
def isNil (id : Identifier) : Bool :=
  id = nil

/-- The lengths of the groups of digits. -/
def groups : List Nat := [8, 4, 4, 4, 12]

/-- The digits of groups of some lengths with hyphens between them. -/
def ungroup? : List Nat → List Char → Option (List Char)
  | [], _ => none
  | [length], chars => if chars.length = length then some chars else none
  | length :: lengths, chars =>
    match chars.drop length with
    | '-' :: rest => (ungroup? lengths rest).map fun digits => chars.take length ++ digits
    | _ => none

/-- The digits in groups of some lengths, with hyphens between them. -/
def group : List Nat → List Char → List Char
  | [], digits => digits
  | [_], digits => digits
  | length :: lengths, digits => digits.take length ++ '-' :: group lengths (digits.drop length)

/-- The identifier that 32 digits write. -/
def ofDigits? (digits : List Char) : Option Identifier :=
  if digits.length = 32 then (Text.ofHex? digits).map fun value => ⟨BitVec.ofNat 128 value⟩
  else none

/-- The identifier written in groups. -/
def ofGroups? (chars : List Char) : Option Identifier :=
  (ungroup? groups chars).bind ofDigits?

/-- What comes before the groups in the form of a name. -/
def namePrefix : List Char := "urn:uuid:".toList

/-- The identifier that a text writes. -/
def ofText? (text : String) : Option Identifier :=
  let chars := text.toList
  match chars with
  | '{' :: rest => if rest.getLast? = some '}' then ofGroups? rest.dropLast else none
  | _ =>
    if (chars.take namePrefix.length).map Char.toLower = namePrefix then
      ofGroups? (chars.drop namePrefix.length)
    else if chars.length = 32 then ofDigits? chars
    else ofGroups? chars

/-- The identifier as a text. -/
def text (id : Identifier) : String :=
  String.ofList (group groups (Text.hexDigits 32 id.bits.toNat))

end Identifier

end Understudy
