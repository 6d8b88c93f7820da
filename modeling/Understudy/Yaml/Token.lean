import Understudy.Text.Hex

/-!
# Tokens of YAML text

The text of a document as tokens: scalars, the signs between them, and the places where blocks open
and close. Blocks are told by indentation: an entry or a key further to the right than the blocks
around it opens one, and a token further to the left closes those it leaves. That a scalar is a key
is known only when the colon after it is met, so the place of every scalar that could be a key is
kept, and what opens its block is put in there. Block scalars, anchors, tags, directives and marked
keys are refused.

## Main definitions

* `Token`: the tokens
* `Layout`: what is kept while a text is read
* `tokens?`: the tokens of a text
-/

namespace Understudy.Yaml

/-- A token. -/
inductive Token where
  | scalar (text : String) (plain : Bool)
  | blockSequence
  | blockMapping
  | blockEnd
  | flowSequence
  | flowSequenceEnd
  | flowMapping
  | flowMappingEnd
  /-- The hyphen before an item. -/
  | item
  /-- The comma between the parts of a flow collection. -/
  | comma
  /-- The place before a key. -/
  | key
  /-- The colon before a value. -/
  | value
  | documentStart
  | documentEnd
deriving DecidableEq, Inhabited

/-- A place at which a key may have begun. -/
structure KeyPlace where
  /-- The number of tokens before it. -/
  position : Nat
  line : Nat
  column : Nat
  /-- The number of characters before it. -/
  offset : Nat
  /-- Whether there must be a key, because a block mapping goes on here. -/
  needed : Bool

/-- What is kept while a text is read. -/
structure Layout where
  rest : List Char
  line : Nat := 0
  column : Nat := 0
  offset : Nat := 0
  tokens : Array Token := #[]
  /-- The column of the innermost block; nothing if there is no block. -/
  indent : Option Nat := none
  /-- The columns of the blocks around it. -/
  outer : List (Option Nat) := []
  /-- Whether a key may begin here. -/
  keyAllowed : Bool := true
  /-- The place of a possible key, for the block level and for each flow collection that is open,
  the innermost one first. -/
  keys : List (Option KeyPlace) := [none]

/-! ## Characters -/

/-- Whether a character may stand in a text at all. -/
def isAllowed (c : Char) : Bool :=
  let code := c.toNat
  code == 9 || code == 10 || code == 13 || (32 ≤ code && code ≤ 126) || code == 0x85
    || (0xa0 ≤ code && code ≤ 0xfffd && code != 0xfeff) || 0x10000 ≤ code

/-- Whether a character ends a line. -/
def isBreak (c : Char) : Bool :=
  c == '\n' || c == '\r' || c == '\u0085' || c == '\u2028' || c == '\u2029'

/-- Whether a character is a space or a tab. -/
def isSpace (c : Char) : Bool :=
  c == ' ' || c == '\t'

/-- Whether a text is at its end, at the end of a line or at a space. -/
def atGap (chars : List Char) : Bool :=
  match chars with
  | [] => true
  | c :: _ => isSpace c || isBreak c

/-- What a line end is read as, and the text after it. -/
def breakAt (chars : List Char) : List Char × List Char :=
  match chars with
  | '\r' :: '\n' :: rest => (['\n'], rest)
  | c :: rest => (if c == '\u2028' || c == '\u2029' then [c] else ['\n'], rest)
  | [] => ([], [])

/-- Whether a document begins or ends here, given the column. -/
def atMarker (sign : Char) (column : Nat) (chars : List Char) : Bool :=
  column == 0 && chars.take 3 == [sign, sign, sign] && atGap (chars.drop 3)

/-! ## Moving on -/

/-- Moves on by some characters of a line. -/
def Layout.skip (count : Nat) (s : Layout) : Layout :=
  { s with
    rest := s.rest.drop count, column := s.column + count, offset := s.offset + count }

/-- Moves on to the next line. -/
def Layout.skipLine (s : Layout) : Layout :=
  let rest := (breakAt s.rest).2
  { s with
    rest, line := s.line + 1, column := 0, offset := s.offset + (s.rest.length - rest.length) }

/-- Whether the place is outside all flow collections. -/
def Layout.inBlock (s : Layout) : Bool :=
  s.keys.length == 1

/-- Moves on over spaces, comments and line ends. After a line end in a block a key may begin.
`fuel` bounds the characters. -/
def Layout.skipGap : Nat → Layout → Layout
  | 0, s => s
  | fuel + 1, s =>
    match s.rest with
    | [] => s
    | c :: _ =>
      if c == ' ' || (c == '\t' && (!s.inBlock || !s.keyAllowed)) then (s.skip 1).skipGap fuel
      else if c == '#' then
        (s.skip (s.rest.takeWhile fun c => !isBreak c).length).skipGap fuel
      else if isBreak c then
        { s.skipLine with keyAllowed := s.keyAllowed || s.inBlock }.skipGap fuel
      else s

/-- Adds a token. -/
def Layout.push (token : Token) (s : Layout) : Layout :=
  { s with tokens := s.tokens.push token }

/-! ## Keys -/

/-- The most characters a key may have. -/
def longestKey : Nat := 1024

/-- A place that is still possible for a key; a key ends on its line. Fails if a needed key has not
come. -/
def KeyPlace.current (s : Layout) : Option KeyPlace → Option (Option KeyPlace)
  | none => some none
  | some place =>
    if place.line < s.line ∨ place.offset + longestKey < s.offset then
      if place.needed then none else some none
    else some (some place)

/-- Forgets the places that keys can no longer begin at. -/
def Layout.dropStale (s : Layout) : Option Layout := do
  return { s with keys := ← s.keys.mapM (KeyPlace.current s) }

/-- Sets the place of a possible key of the innermost collection; fails if a needed key would be
forgotten. -/
def Layout.setKey (place : Option KeyPlace) (s : Layout) : Option Layout :=
  match s.keys with
  | [] => none
  | current :: around =>
    if current.any KeyPlace.needed then none else some { s with keys := place :: around }

/-- Keeps this place as that of a possible key, if one may begin here. -/
def Layout.saveKey (s : Layout) : Option Layout :=
  if s.keyAllowed then
    s.setKey (some ⟨s.tokens.size, s.line, s.column, s.offset,
      s.inBlock && s.indent == some s.column⟩)
  else some s

/-! ## Blocks -/

/-- Opens a block at a column, if it is further right than the innermost one; what opens it goes to
a position among the tokens. -/
def Layout.openBlock (column position : Nat) (token : Token) (s : Layout) : Layout :=
  if s.inBlock && s.indent.all fun indent => indent < column then
    { s with
      indent := some column, outer := s.indent :: s.outer
      tokens := s.tokens.insertIdxIfInBounds position token }
  else s

/-- Closes the blocks further right than a column; all blocks if there is no column. -/
def closeBlocks (column : Option Nat) : Option Nat → List (Option Nat) → Array Token →
    Option Nat × List (Option Nat) × Array Token
  | some indent, around :: outer, tokens =>
    if column.all fun column => column < indent then
      closeBlocks column around outer (tokens.push .blockEnd)
    else (some indent, around :: outer, tokens)
  | indent, outer, tokens => (indent, outer, tokens)

/-- Closes the blocks further right than a column. -/
def Layout.closeTo (column : Option Nat) (s : Layout) : Layout :=
  if s.inBlock then
    let (indent, outer, tokens) := closeBlocks column s.indent s.outer s.tokens
    { s with indent, outer, tokens }
  else s

/-! ## Scalars -/

/-- A scalar while it is read: its characters so far and the white space after them. -/
structure Draft where
  /-- The characters, the last one first. -/
  done : List Char := []
  /-- The spaces after them on their line, the last one first. -/
  spaces : List Char := []
  /-- The line ends after them, the last one first; an escaped line end has no characters. -/
  breaks : List (List Char) := []
  /-- Whether a line has ended after them. -/
  broken : Bool := false

/-- The characters with the white space after them folded: a single line end is a space, and of
several the first one goes. -/
def Draft.fold (draft : Draft) : List Char :=
  if draft.broken then
    match draft.breaks.reverse with
    | [] => draft.done
    | ['\n'] :: [] => ' ' :: draft.done
    | ['\n'] :: more => more.flatten.reverse ++ draft.done
    | all => all.flatten.reverse ++ draft.done
  else draft.spaces ++ draft.done

/-- Adds a character. -/
def Draft.push (c : Char) (draft : Draft) : Draft :=
  { done := c :: draft.fold }

/-- Adds a space, which does not count at the start of a line. -/
def Draft.addSpace (c : Char) (draft : Draft) : Draft :=
  if draft.broken then draft else { draft with spaces := c :: draft.spaces }

/-- Adds a line end. -/
def Draft.addBreak (chars : List Char) (draft : Draft) : Draft :=
  { draft with breaks := chars :: draft.breaks, broken := true, spaces := [] }

/-- Whether a plain scalar ends at the character here. -/
def endsPlain (inBlock : Bool) (chars : List Char) : Bool :=
  match chars with
  | ':' :: rest => atGap rest
  | c :: _ => !inBlock && [',', '[', ']', '{', '}'].contains c
  | [] => true

/-- Whether a colon here may not follow a plain scalar in a flow collection. -/
def misplacedColon (inBlock : Bool) (chars : List Char) : Bool :=
  match chars with
  | ':' :: c :: _ => !inBlock && [',', '?', '[', ']', '{', '}'].contains c
  | _ => false

/-- Whether the place is further right than the innermost block. -/
def Layout.isInside (s : Layout) : Bool :=
  s.indent.all fun indent => indent < s.column

/-- Whether a plain scalar may go on here after a line end. -/
def Layout.continues (s : Layout) : Bool :=
  !s.inBlock || s.isInside

/-- Reads a plain scalar. The lines after the first one must be further right than the block, unless
it stands in a flow collection. `fuel` bounds the characters. -/
def readPlain : Nat → Draft → Layout → Option (List Char × Layout)
  | 0, _, _ => none
  | fuel + 1, draft, s =>
    let finish := some (draft.done.reverse, { s with keyAllowed := s.keyAllowed || draft.broken })
    match s.rest with
    | [] => finish
    | c :: _ =>
      if isBreak c then readPlain fuel (draft.addBreak (breakAt s.rest).1) s.skipLine
      else if isSpace c then
        if draft.broken && c == '\t' && !s.isInside then none
        else readPlain fuel (draft.addSpace c) (s.skip 1)
      else
        let resumes := draft.broken || !draft.spaces.isEmpty
        if resumes && (c == '#' || (draft.broken && !s.continues)
            || atMarker '-' s.column s.rest || atMarker '.' s.column s.rest) then finish
        else if misplacedColon s.inBlock s.rest then none
        else if endsPlain s.inBlock s.rest then finish
        else readPlain fuel (draft.push c) (s.skip 1)

/-- The character that a letter stands for after a backslash. -/
def unescape? : Char → Option Char
  | '0' => some '\x00'
  | 'a' => some '\x07'
  | 'b' => some '\x08'
  | 't' | '\t' => some '\t'
  | 'n' => some '\n'
  | 'v' => some '\x0b'
  | 'f' => some '\x0c'
  | 'r' => some '\r'
  | 'e' => some '\x1b'
  | ' ' => some ' '
  | '"' => some '"'
  | '\'' => some '\''
  | '/' => some '/'
  | '\\' => some '\\'
  | 'N' => some '\u0085'
  | '_' => some '\u00a0'
  | 'L' => some '\u2028'
  | 'P' => some '\u2029'
  | _ => none

/-- How many hexadecimal digits follow a letter after a backslash. -/
def escapeDigits : Char → Nat
  | 'x' => 2
  | 'u' => 4
  | 'U' => 8
  | _ => 0

/-- Reads an escape: the character it stands for and the number of characters it takes. -/
def readEscape (chars : List Char) : Option (Char × Nat) :=
  match chars with
  | '\\' :: c :: rest =>
    if escapeDigits c = 0 then (unescape? c).map fun c => (c, 2)
    else do
      let digits := rest.take (escapeDigits c)
      let code ← Text.ofHex? digits
      if digits.length = escapeDigits c ∧ code.isValidChar then
        some (Char.ofNat code, 2 + digits.length)
      else none
  | _ => none

/-- Reads a quoted scalar up to its closing quote. `fuel` bounds the characters. -/
def readQuoted (quote : Char) : Nat → Draft → Layout → Option (List Char × Layout)
  | 0, _, _ => none
  | fuel + 1, draft, s =>
    match s.rest with
    | [] => none
    | c :: rest =>
      if atMarker '-' s.column s.rest || atMarker '.' s.column s.rest then none
      else if isBreak c then
        readQuoted quote fuel (draft.addBreak (breakAt s.rest).1) s.skipLine
      else if isSpace c then readQuoted quote fuel (draft.addSpace c) (s.skip 1)
      else if c == quote then
        if quote == '\'' && rest.head? == some '\'' then
          readQuoted quote fuel (draft.push c) (s.skip 2)
        else some (draft.fold.reverse, s.skip 1)
      else if c == '\\' && quote == '"' then
        if rest.head?.any isBreak then
          readQuoted quote fuel { done := draft.fold, breaks := [[]], broken := true }
            (s.skip 1).skipLine
        else
          match readEscape s.rest with
          | some (c, count) => readQuoted quote fuel (draft.push c) (s.skip count)
          | none => none
      else readQuoted quote fuel (draft.push c) (s.skip 1)

/-- Reads a scalar, which may be a key. -/
def Layout.readScalar (s : Layout) : Option Layout := do
  let s ← s.saveKey
  let s := { s with keyAllowed := false }
  match s.rest with
  | '\'' :: _ =>
    let (chars, s) ← readQuoted '\'' (s.rest.length + 1) {} (s.skip 1)
    return s.push (.scalar (String.ofList chars) false)
  | '"' :: _ =>
    let (chars, s) ← readQuoted '"' (s.rest.length + 1) {} (s.skip 1)
    return s.push (.scalar (String.ofList chars) false)
  | _ =>
    let (chars, s) ← readPlain (s.rest.length + 1) {} s
    return s.push (.scalar (String.ofList chars) true)

/-! ## Signs -/

/-- Reads a marker of the start or the end of a document. -/
def Layout.readMarker (token : Token) (s : Layout) : Option Layout := do
  let s ← (s.closeTo none).setKey none
  return ({ s with keyAllowed := false }.push token).skip 3

/-- Opens a flow collection, which may itself be a key. -/
def Layout.openFlow (token : Token) (s : Layout) : Option Layout := do
  let s ← s.saveKey
  return ({ s with keys := none :: s.keys, keyAllowed := true }.push token).skip 1

/-- Closes a flow collection. -/
def Layout.closeFlow (token : Token) (s : Layout) : Option Layout := do
  let s ← s.setKey none
  let keys := if s.inBlock then s.keys else s.keys.drop 1
  return ({ s with keys, keyAllowed := false }.push token).skip 1

/-- Reads the comma between the parts of a flow collection. -/
def Layout.readComma (s : Layout) : Option Layout := do
  let s ← s.setKey none
  return ({ s with keyAllowed := true }.push .comma).skip 1

/-- Reads the hyphen before an item. In a block it may only stand where a key may. -/
def Layout.readItem (s : Layout) : Option Layout := do
  if s.inBlock && !s.keyAllowed then none
  else
    let s ← (s.openBlock s.column s.tokens.size .blockSequence).setKey none
    return ({ s with keyAllowed := true }.push .item).skip 1

/-- Reads the colon before a value: what stands before it is a key if one could begin there. -/
def Layout.readValue (s : Layout) : Option Layout :=
  match s.keys with
  | some place :: around =>
    let s := { s with tokens := s.tokens.insertIdxIfInBounds place.position .key }
    let s := s.openBlock place.column place.position .blockMapping
    some (({ s with keys := none :: around, keyAllowed := false }.push .value).skip 1)
  | _ =>
    if s.inBlock && !s.keyAllowed then none
    else
      let s := s.openBlock s.column s.tokens.size .blockMapping
      some (({ s with keyAllowed := s.inBlock }.push .value).skip 1)

/-- Whether a plain scalar can begin here. -/
def beginsPlain (inBlock : Bool) (chars : List Char) : Bool :=
  match chars with
  | [] => false
  | c :: rest =>
    !(atGap chars || ("-?:,[]\x7b\x7d#&*!|>'\"%@" ++ "\u0060").toList.contains c)
      || (c == '-' && !rest.head?.any isSpace)
      || (inBlock && (c == '?' || c == ':') && !atGap rest)

/-- Reads the next token, where the text is neither at a gap nor at its end. -/
def Layout.readToken (s : Layout) : Option Layout :=
  match s.rest with
  | [] => none
  | c :: rest =>
    if c == '%' && s.column == 0 then none
    else if atMarker '-' s.column s.rest then s.readMarker .documentStart
    else if atMarker '.' s.column s.rest then s.readMarker .documentEnd
    else
      match c with
      | '[' => s.openFlow .flowSequence
      | '{' => s.openFlow .flowMapping
      | ']' => s.closeFlow .flowSequenceEnd
      | '}' => s.closeFlow .flowMappingEnd
      | ',' => s.readComma
      | _ =>
        if c == '-' && atGap rest then s.readItem
        else if c == '?' && (!s.inBlock || atGap rest) then none
        else if c == ':' && (!s.inBlock || atGap rest) then s.readValue
        else if c == '\'' || c == '"' || beginsPlain s.inBlock s.rest then s.readScalar
        else none

/-- Reads tokens up to the end of the text. `fuel` bounds their number. -/
def Layout.readAll : Nat → Layout → Option (Array Token)
  | 0, _ => none
  | fuel + 1, s => do
    let s ← (s.skipGap (s.rest.length + 1)).dropStale
    if s.rest.isEmpty then return (← (s.closeTo none).setKey none).tokens
    else (← (s.closeTo (some s.column)).readToken).readAll fuel

/-- The tokens of a text; none if the text is malformed. -/
def tokens? (text : String) : Option (List Token) :=
  let chars := match text.toList with
    | '\ufeff' :: rest => rest
    | chars => chars
  if chars.all isAllowed then
    (({ rest := chars } : Layout).readAll (chars.length + 2)).map Array.toList
  else none

end Understudy.Yaml
