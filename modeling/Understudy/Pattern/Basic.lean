import Understudy.Pattern.Parser
import Understudy.Pattern.Search

/-!
# Patterns

A pattern that has been read and made into a program, ready to be searched with.

## Main definitions

* `Pattern.compile?`: the pattern a text writes
* `Pattern.find?`, `Pattern.occursIn`: search a text
-/

namespace Understudy

/-- A pattern, with the text that writes it. -/
structure Pattern where
  source : String
  program : Pattern.Program

namespace Pattern

/-- The pattern that a text writes; `none` if it writes none. -/
def compile? (source : String) : Option Pattern :=
  (parse? source).map fun expr => ⟨source, expr.program⟩

/-- The span of the first match in a text, as byte positions. -/
def find? (pattern : Pattern) (text : String) : Option (Nat × Nat) :=
  pattern.program.search text

/-- Whether the pattern matches somewhere in a text. -/
def occursIn (pattern : Pattern) (text : String) : Bool :=
  (pattern.find? text).isSome

end Pattern

end Understudy
