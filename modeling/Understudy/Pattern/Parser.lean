import Understudy.Pattern.Weight

/-!
# Reading patterns

The language of patterns: alternatives of sequences of repeated parts; groups with names and flags;
sets in brackets with ranges, nesting and set operations; escapes for characters, classes,
properties and word edges. Flags act on what follows them in their group. There is neither
look-around nor a reference back to a group: texts with them are no patterns.

## Main definitions

* `Flags`: the flags in force at a place
* `readBranches`: the alternatives up to the end of a group
* `parse?`: a whole pattern
-/

namespace Understudy.Pattern

open Text

/-- The flags in force at a place of a pattern. -/
structure Flags where
  ignoreCase : Bool := false
  multiLine : Bool := false
  dotAll : Bool := false
  swapGreed : Bool := false
  /-- Sets and classes range over all characters, not over ASCII alone. -/
  unicode : Bool := true
  anyLineEnd : Bool := false
  /-- White space and comments are layout. -/
  verbose : Bool := false

/-- The levels of groups, repetitions, sequences and brackets a pattern may nest. -/
def deepest : Nat := 250

/-- The largest number that a counted repetition may name. -/
def greatestCount : Nat := UInt32.size - 1

/-! ## Layout -/

/-- The text after leading white space and comments, from inside a comment or outside one. -/
def dropLayout (inComment : Bool) : List Char → List Char
  | [] => []
  | c :: rest =>
    if inComment then dropLayout (c != '\n') rest
    else if isBlank c then dropLayout false rest
    else if c = '#' then dropLayout true rest
    else c :: rest

/-- The text after leading layout, if layout is ignored. -/
def Flags.skip (flags : Flags) (chars : List Char) : List Char :=
  if flags.verbose then dropLayout false chars else chars

/-- The character after the first one, white space and a comment sign skipped if layout is
ignored. -/
def Flags.peek (flags : Flags) (chars : List Char) : Option Char :=
  let rest := chars.drop 1
  if flags.verbose then
    match rest.dropWhile isBlank with
    | '#' :: rest => (rest.dropWhile isBlank).head?
    | rest => rest.head?
  else rest.head?

/-! ## Sets under flags -/

/-- The set with the other case of its ASCII letters. -/
def closeAsciiCase (set : CharSet) : CharSet :=
  CharSet.ofRanges (set.ranges ++ (List.range 26).flatMap fun i =>
    let lower := 'a'.toNat + i
    let upper := 'A'.toNat + i
    if CharSet.inRanges lower set.ranges || CharSet.inRanges upper set.ranges then
      [(lower, lower), (upper, upper)]
    else [])

/-- The set with what differs from its members in case only, if case is ignored. -/
def Flags.fold (flags : Flags) (set : CharSet) : CharSet :=
  if flags.ignoreCase then if flags.unicode then set.closeCase else closeAsciiCase set
  else set

/-- The complement of a set, on demand. Over ASCII alone a complement would hold bytes that are no
characters, so there is none. -/
def Flags.negate (flags : Flags) (negated : Bool) (set : CharSet) : Option CharSet :=
  if negated then if flags.unicode then some set.compl else none else some set

/-- The class of a letter after a backslash. -/
def Flags.classSet (flags : Flags) (letter : Char) : Option CharSet :=
  match letter with
  | 'd' | 'D' => flags.negate (letter == 'D') (if flags.unicode then digits else asciiDigits)
  | 's' | 'S' => flags.negate (letter == 'S') (if flags.unicode then spaces else asciiSpaces)
  | _ =>
    flags.negate (letter == 'W') (if flags.unicode then wordCharacters else asciiWordCharacters)

/-- The set of a `\p` class; there is none over ASCII alone. -/
def Flags.propertySet (flags : Flags) (negated : Bool) (name : String) : Option CharSet := do
  let (set, complement) ← if flags.unicode then propertySet? name else none
  flags.negate (negated != complement) (flags.fold set)

/-- The characters of words. -/
def Flags.wordSet (flags : Flags) : CharSet :=
  if flags.unicode then wordCharacters else asciiWordCharacters

/-- What the dot matches. -/
def Flags.dotSet (flags : Flags) : Option CharSet :=
  if ¬ flags.unicode then none
  else if flags.dotAll then some CharSet.empty.compl
  else if flags.anyLineEnd then some (CharSet.ofRanges [(10, 10), (13, 13)]).compl
  else some (CharSet.single '\n').compl

/-! ## Escapes -/

/-- What an escape stands for. -/
inductive Escape where
  | char (c : Char)
  | set (chars : CharSet)
  | anchor (anchor : Anchor)

/-- The characters that mean something in a pattern. -/
def isMeta (c : Char) : Bool :=
  "\\.+*?()|[]\x7b\x7d^$#&-~".toList.contains c

/-- Whether a character stands for itself after a backslash. -/
def isEscapable (c : Char) : Bool :=
  isMeta c || (isAscii c && !c.isAlphanum && c != '<' && c != '>')

/-- The character of a code point, if it is one. -/
def charOf? (code : Nat) : Option Char :=
  if h : code.isValidChar then some (Char.ofNatAux code h) else none

/-- A character given by its number. A byte beyond ASCII is no character where sets range over ASCII
alone. -/
def Flags.numbered (flags : Flags) (byte : Bool) (digits : List Char) : Option Char :=
  match (ofHex? digits).bind charOf? with
  | some c => if byte && !flags.unicode && 128 ≤ c.toNat && c.toNat < 256 then none else some c
  | none => none

/-- Reads some hexadecimal digits, layout between them skipped. -/
def readHexDigits (flags : Flags) : Nat → List Char → Option (List Char × List Char)
  | 0, rest => some ([], rest)
  | count + 1, c :: rest => do
    let _ ← hexValue? c
    let (digits, rest) ← readHexDigits flags count (flags.skip rest)
    some (c :: digits, rest)
  | _ + 1, [] => none

/-- Reads up to a closing brace, layout skipped; `steps` bounds the characters. -/
def readBraced (flags : Flags) : Nat → List Char → Option (List Char × List Char)
  | 0, _ => none
  | steps + 1, chars =>
    match flags.skip chars with
    | [] => none
    | '}' :: rest => some ([], rest)
    | c :: rest => do
      let (inner, rest) ← readBraced flags steps rest
      some (c :: inner, rest)

/-- Reads a character given by its number: so many digits, or any number in braces. -/
def readNumbered (flags : Flags) (count : Nat) (chars : List Char) : Option (Char × List Char) :=
  match flags.skip chars with
  | '{' :: rest => do
    let (digits, rest) ← readBraced flags (rest.length + 1) rest
    let c ← flags.numbered false digits
    some (c, flags.skip rest)
  | chars => do
    let (digits, rest) ← readHexDigits flags count chars
    let c ← flags.numbered (count == 2) digits
    some (c, rest)

/-- Reads the name of a property: one letter, or a name in braces. -/
def readProperty (flags : Flags) (negated : Bool) (chars : List Char) :
    Option (CharSet × List Char) :=
  match flags.skip chars with
  | [] => none
  | '{' :: rest => do
    let (name, rest) ← readBraced flags (rest.length + 1) rest
    some (← flags.propertySet negated (String.ofList name), rest)
  | c :: rest =>
    if c = '\\' then none
    else do some (← flags.propertySet negated (String.ofList [c]), flags.skip rest)

/-- The word edge of a name in braces. -/
def edgeNamed? : String → Option WordEdge
  | "start" => some .opening
  | "end" => some .closing
  | "start-half" => some .openingHalf
  | "end-half" => some .closingHalf
  | _ => none

/-- Whether a character may be part of the name of a word edge. -/
def isEdgeChar (c : Char) : Bool :=
  c.isAlpha || c == '-'

/-- Reads what follows a backslash and a `b`: a word edge in braces, or nothing, if what follows
is a repetition or no brace at all. -/
def readWordEdge (flags : Flags) (chars : List Char) : Option (WordEdge × List Char) :=
  match chars with
  | '{' :: rest =>
    match flags.skip rest with
    | [] => none
    | c :: _ =>
      if isEdgeChar c then do
        let (name, rest) ← readBraced flags (rest.length + 1) rest
        if name.all isEdgeChar then some (← edgeNamed? (String.ofList name), rest) else none
      else some (.boundary, chars)
  | chars => some (.boundary, chars)

/-- Reads an escape whose backslash has been read. -/
def readEscape (flags : Flags) : List Char → Option (Escape × List Char)
  | [] => none
  | c :: rest =>
    if c.isDigit then none
    else
      match c with
      | 'x' => do let (c, rest) ← readNumbered flags 2 rest; some (.char c, rest)
      | 'u' => do let (c, rest) ← readNumbered flags 4 rest; some (.char c, rest)
      | 'U' => do let (c, rest) ← readNumbered flags 8 rest; some (.char c, rest)
      | 'p' => do let (set, rest) ← readProperty flags false rest; some (.set set, rest)
      | 'P' => do let (set, rest) ← readProperty flags true rest; some (.set set, rest)
      | 'd' | 's' | 'w' | 'D' | 'S' | 'W' => do some (.set (← flags.classSet c), rest)
      | 'a' => some (.char '\x07', rest)
      | 'f' => some (.char '\x0c', rest)
      | 't' => some (.char '\t', rest)
      | 'n' => some (.char '\n', rest)
      | 'r' => some (.char '\r', rest)
      | 'v' => some (.char '\x0b', rest)
      | 'A' => some (.anchor .textStart, rest)
      | 'z' => some (.anchor .textEnd, rest)
      | 'b' => do
        let (edge, rest) ← readWordEdge flags rest
        some (.anchor (.word flags.wordSet edge), rest)
      | 'B' => some (.anchor (.word flags.wordSet .interior), rest)
      | '<' => some (.anchor (.word flags.wordSet .opening), rest)
      | '>' => some (.anchor (.word flags.wordSet .closing), rest)
      | c => if isEscapable c then some (.char c, rest) else none

/-! ## Sets in brackets -/

/-- The operations between sets in brackets. -/
inductive SetOp where
  | inter
  | sdiff
  | symmDiff

/-- The result of an operation on two sets. -/
def SetOp.apply (op : SetOp) (a b : CharSet) : CharSet :=
  match op with
  | .inter => a.inter b
  | .sdiff => a.sdiff b
  | .symmDiff => a.symmDiff b

/-- A set in brackets while it is read: the operation under way with its left side, and the items
after it. A height counts the levels a part nests. -/
structure Bracket where
  negated : Bool
  pending : Option (SetOp × CharSet × Nat) := none
  items : CharSet := CharSet.empty
  count : Nat := 0
  height : Nat := 0

/-- Adds an item. -/
def Bracket.add (b : Bracket) (set : CharSet) (height : Nat) : Bracket :=
  { b with items := b.items.union set, count := b.count + 1, height := max b.height height }

/-- The set of what has been read, and its height. -/
def Bracket.total (b : Bracket) (flags : Flags) : CharSet × Nat :=
  let height := if b.count < 2 then b.height else b.height + 1
  match b.pending with
  | none => (b.items, height)
  | some (op, left, height') =>
    (op.apply (flags.fold left) (flags.fold b.items), max height height' + 1)

/-- Starts an operation whose left side is what has been read. -/
def Bracket.operate (b : Bracket) (flags : Flags) (op : SetOp) : Bracket :=
  let (set, height) := b.total flags
  { negated := b.negated, pending := some (op, set, height) }

/-- The set when the bracket closes, with its height. -/
def Bracket.close (b : Bracket) (flags : Flags) : Option (CharSet × Nat) :=
  let (set, height) := b.total flags
  (flags.negate b.negated (flags.fold set)).map fun set => (set, height + 1)

/-- Reads an ASCII class between brackets and colons, whose first bracket has been read. -/
def readAsciiClass (flags : Flags) (chars : List Char) : Option (Option CharSet × List Char) :=
  match chars with
  | ':' :: rest =>
    let (negated, rest) := match rest with
      | '^' :: rest => (true, rest)
      | rest => (false, rest)
    let name := rest.takeWhile (· != ':')
    match rest.drop name.length with
    | ':' :: ']' :: rest =>
      (asciiClass? (String.ofList name)).map fun set =>
        (flags.negate negated (flags.fold set), rest)
    | _ => none
  | _ => none

/-- Reads one end of a range, or an item on its own. -/
def readSetItem (flags : Flags) : List Char → Option (Escape × List Char)
  | [] => none
  | '\\' :: rest => readEscape flags rest
  | c :: rest => some (.char c, rest)

/-- The set of one character in brackets. -/
def Flags.member (flags : Flags) (c : Char) : Option CharSet :=
  if flags.unicode || isAscii c then some (CharSet.single c) else none

/-- Reads an item or a range in brackets. -/
def readSetRange (flags : Flags) (chars : List Char) : Option (CharSet × List Char) := do
  let (first, rest) ← readSetItem flags chars
  let rest := flags.skip rest
  let alone : Option (CharSet × List Char) :=
    match first with
    | .char c => (flags.member c).map fun set => (set, rest)
    | .set set => some (set, rest)
    | .anchor _ => none
  match rest with
  | [] => none
  | '-' :: after =>
    if flags.peek rest = some ']' ∨ flags.peek rest = some '-' then alone
    else
      let (last, rest) ← readSetItem flags (flags.skip after)
      match first, last with
      | .char low, .char high => do
        let _ ← flags.member low
        let _ ← flags.member high
        if low ≤ high then some (CharSet.range low high, rest) else none
      | _, _ => none
  | _ => alone

/-- Reads the hyphens after an opening bracket, each standing for itself; `steps` bounds them. -/
def readHyphens (flags : Flags) : Nat → Bracket → List Char → Bracket × List Char
  | 0, b, chars => (b, chars)
  | steps + 1, b, chars =>
    match flags.skip chars with
    | '-' :: rest => readHyphens flags steps (b.add (CharSet.single '-') 0) rest
    | rest => (b, rest)

/-- Reads what may follow an opening bracket in its own right: a negation sign, hyphens, and a
closing bracket that stands for itself. -/
def openBracket (flags : Flags) (chars : List Char) : Bracket × List Char :=
  let (negated, rest) := match flags.skip chars with
    | '^' :: rest => (true, flags.skip rest)
    | rest => (false, rest)
  let (b, rest) := readHyphens flags (rest.length + 1) { negated := negated } rest
  match flags.skip rest with
  | ']' :: rest =>
    if b.count = 0 then (b.add (CharSet.single ']') 0, flags.skip rest) else (b, ']' :: rest)
  | rest => (b, rest)

/-- Reads the rest of a set in brackets, up to its closing bracket; `steps` bounds the items. -/
def readBracket (flags : Flags) : Nat → Bracket → List Char → Option ((CharSet × Nat) × List Char)
  | 0, _, _ => none
  | steps + 1, b, chars =>
    match flags.skip chars with
    | [] => none
    | '[' :: rest =>
      match readAsciiClass flags rest with
      | some (set, rest) => do readBracket flags steps (b.add (← set) 0) rest
      | none => do
        let (inner, rest) := openBracket flags rest
        let ((set, height), rest) ← readBracket flags steps inner rest
        readBracket flags steps (b.add set height) rest
    | ']' :: rest => do some (← b.close flags, rest)
    | '&' :: '&' :: rest => readBracket flags steps (b.operate flags .inter) rest
    | '-' :: '-' :: rest => readBracket flags steps (b.operate flags .sdiff) rest
    | '~' :: '~' :: rest => readBracket flags steps (b.operate flags .symmDiff) rest
    | chars => do
      let (set, rest) ← readSetRange flags chars
      readBracket flags steps (b.add set 0) rest

/-! ## Flags and groups -/

/-- Sets the flag of a letter. -/
def Flags.set? (flags : Flags) (value : Bool) : Char → Option Flags
  | 'i' => some { flags with ignoreCase := value }
  | 'm' => some { flags with multiLine := value }
  | 's' => some { flags with dotAll := value }
  | 'U' => some { flags with swapGreed := value }
  | 'u' => some { flags with unicode := value }
  | 'R' => some { flags with anyLineEnd := value }
  | 'x' => some { flags with verbose := value }
  | _ => none

/-- Sets the flags of some letters, those after a hyphen to false. A letter may occur once. -/
def Flags.setAll (flags : Flags) (value : Bool) : List Char → Option Flags
  | [] => some flags
  | '-' :: rest => if value && !rest.isEmpty then flags.setAll false rest else none
  | c :: rest =>
    if rest.contains c then none
    else
      match flags.set? value c with
      | some flags => flags.setAll value rest
      | none => none

/-- Whether a character may be part of the name of a group, at its start or after it. -/
def isNameChar (atStart : Bool) (c : Char) : Bool :=
  if atStart then c == '_' || isAlphabetic c
  else c == '_' || c == '.' || c == '[' || c == ']' || isAlphanumeric c

/-- Reads the name of a group, up to its closing angle. -/
def readName (chars : List Char) : Option (String × List Char) :=
  let name := chars.takeWhile (· != '>')
  match name, chars.drop name.length with
  | c :: rest, '>' :: after =>
    if isNameChar true c && rest.all (isNameChar false) then
      some (String.ofList (c :: rest), after)
    else none
  | _, _ => none

/-- The ways a group opens. -/
inductive Opening where
  /-- Flags for the rest of the group around it. -/
  | directive (flags : Flags)
  /-- A group, with whether its place in a match is remembered and its name. -/
  | group (flags : Flags) (remembered : Bool) (name : Option String)

/-- Reads the start of a group, after its parenthesis. -/
def readOpening (flags : Flags) (chars : List Char) : Option (Opening × List Char) :=
  match flags.skip chars with
  | '?' :: '=' :: _ => none
  | '?' :: '!' :: _ => none
  | '?' :: '<' :: '=' :: _ => none
  | '?' :: '<' :: '!' :: _ => none
  | '?' :: 'P' :: '<' :: rest => do
    let (name, rest) ← readName rest
    some (.group flags true (some name), rest)
  | '?' :: '<' :: rest => do
    let (name, rest) ← readName rest
    some (.group flags true (some name), rest)
  | '?' :: rest =>
    let letters := rest.takeWhile fun c => c != ':' && c != ')'
    match rest.drop letters.length with
    | ':' :: rest => do some (.group (← flags.setAll true letters) false none, rest)
    | ')' :: rest =>
      if letters.isEmpty then none
      else do some (.directive (← flags.setAll true letters), rest)
    | _ => none
  | rest => some (.group flags true none, rest)

/-! ## Repetition -/

/-- Reads a decimal number between white space. -/
def readCount (flags : Flags) (chars : List Char) : Option Nat × List Char :=
  let rec digits (steps : Nat) (value : Option Nat) (chars : List Char) : Option Nat × List Char :=
    match steps, chars with
    | steps + 1, c :: rest =>
      if c.isDigit then
        digits steps (some (10 * value.getD 0 + (c.toNat - '0'.toNat))) (flags.skip rest)
      else (value, c :: rest)
    | _, chars => (value, chars)
  let (value, rest) := digits (chars.length + 1) none (chars.dropWhile isBlank)
  (value, rest.dropWhile isBlank)

/-- Reads the bounds of a counted repetition, after its opening brace. -/
def readBounds (flags : Flags) (chars : List Char) :
    Option ((Nat × Option Nat) × List Char) := do
  let (least, rest) := readCount flags (flags.skip chars)
  let least ← least
  if greatestCount < least then none
  else
    match rest with
    | '}' :: rest => some ((least, some least), rest)
    | ',' :: rest =>
      match flags.skip rest with
      | '}' :: rest => some ((least, none), rest)
      | rest => do
        let (most, rest) := readCount flags rest
        let most ← most
        match rest with
        | '}' :: rest =>
          if least ≤ most ∧ most ≤ greatestCount then some ((least, some most), rest) else none
        | _ => none
    | _ => none

/-! ## Sequences and alternatives -/

/-- A part of a sequence: an expression with its height, or a setting of flags. -/
inductive Item where
  | directive
  | part (expr : Expr) (height : Nat)

/-- The height of a part. -/
def Item.height : Item → Nat
  | .directive => 0
  | .part _ height => height

/-- The expression of a part, which is empty for a setting of flags. -/
def Item.expr : Item → Expr
  | .directive => .empty
  | .part expr _ => expr

/-- The sequence of some parts, the last one first. -/
def sequence (items : List Item) : Expr × Nat :=
  let height := items.foldl (fun height item => max height item.height) 0
  (.chain (items.reverse.map Item.expr), if items.length < 2 then height else height + 1)

/-- The choice between some branches, the last one first. -/
def choice (branches : List (Expr × Nat)) : Expr × Nat :=
  let height := branches.foldl (fun height branch => max height branch.2) 0
  (.choice (branches.reverse.map Prod.fst),
    if branches.length < 2 then height else height + 1)

/-- What has been read of a group: its branches and the parts of the last one, the latest first. -/
structure Progress where
  branches : List (Expr × Nat) := []
  items : List Item := []

/-- Adds a part. -/
def Progress.push (p : Progress) (expr : Expr) (height : Nat) : Progress :=
  { p with items := .part expr height :: p.items }

/-- Repeats the last part; there must be one, and it must not be a setting of flags. -/
def Progress.repeatLast (p : Progress) (flags : Flags) (least : Nat) (most : Option Nat)
    (lazy : Bool) : Option Progress :=
  match p.items with
  | .part expr height :: rest =>
    let greedy := lazy == flags.swapGreed
    some { p with items := .part (expr.times least most greedy) (height + 1) :: rest }
  | _ => none

/-- Ends a branch. -/
def Progress.nextBranch (p : Progress) : Progress :=
  { branches := sequence p.items :: p.branches }

/-- The choice between all branches. -/
def Progress.total (p : Progress) : Expr × Nat :=
  choice (sequence p.items :: p.branches)

/-- Reads the question mark that makes a repetition prefer to stop. -/
def readLazy : List Char → Bool × List Char
  | '?' :: rest => (true, rest)
  | rest => (false, rest)

/-- What one character matches. -/
def Flags.charExpr (flags : Flags) (c : Char) : Expr :=
  if isAscii c || flags.unicode then .set (flags.fold (CharSet.single c))
  else .set (CharSet.single c)

/-- The place a caret stands for. -/
def Flags.caret (flags : Flags) : Anchor :=
  if flags.multiLine then if flags.anyLineEnd then .anyLineStart else .lineStart else .textStart

/-- The place a dollar sign stands for. -/
def Flags.dollar (flags : Flags) : Anchor :=
  if flags.multiLine then if flags.anyLineEnd then .anyLineEnd else .lineEnd else .textEnd

/-- A group that has been read: its choice with its height, the names of groups so far, and the
text from its closing parenthesis, or the end of the pattern, on. -/
structure Group where
  expr : Expr
  height : Nat
  names : List String
  rest : List Char

/-- Reads the alternatives of a group, up to its closing parenthesis or the end of the pattern.
`steps` bounds the parts still to be read and `names` holds the names of groups so far. -/
def readBranches : Nat → Flags → List String → Progress → List Char → Option Group
  | 0, _, _, _, _ => none
  | steps + 1, flags, names, p, chars =>
    match flags.skip chars with
    | [] => some ⟨p.total.1, p.total.2, names, []⟩
    | ')' :: rest => some ⟨p.total.1, p.total.2, names, ')' :: rest⟩
    | '|' :: rest => readBranches steps flags names p.nextBranch rest
    | '(' :: rest => do
      let (opening, rest) ← readOpening flags rest
      match opening with
      | .directive flags =>
        readBranches steps flags names { p with items := .directive :: p.items } rest
      | .group inner remembered name =>
        if name.any names.contains then none
        else
          let group ← readBranches steps inner (name.toList ++ names) {} rest
          match group.rest with
          | ')' :: rest =>
            let expr := if remembered then .group group.expr else group.expr
            readBranches steps flags group.names (p.push expr (group.height + 1)) rest
          | _ => none
    | '[' :: rest => do
      let (b, rest) := openBracket flags rest
      let ((set, height), rest) ← readBracket flags (rest.length + 1) b rest
      readBranches steps flags names (p.push (.set set) height) rest
    | '?' :: rest => do
      let (lazy, rest) := readLazy rest
      readBranches steps flags names (← p.repeatLast flags 0 (some 1) lazy) rest
    | '*' :: rest => do
      let (lazy, rest) := readLazy rest
      readBranches steps flags names (← p.repeatLast flags 0 none lazy) rest
    | '+' :: rest => do
      let (lazy, rest) := readLazy rest
      readBranches steps flags names (← p.repeatLast flags 1 none lazy) rest
    | '{' :: rest => do
      let ((least, most), rest) ← readBounds flags rest
      let (lazy, rest) := readLazy (flags.skip rest)
      readBranches steps flags names (← p.repeatLast flags least most lazy) rest
    | '\\' :: rest => do
      let (escape, rest) ← readEscape flags rest
      let expr := match escape with
        | .char c => flags.charExpr c
        | .set set => .set set
        | .anchor anchor => .anchor anchor
      readBranches steps flags names (p.push expr 0) rest
    | '.' :: rest => do readBranches steps flags names (p.push (.set (← flags.dotSet)) 0) rest
    | '^' :: rest => readBranches steps flags names (p.push (.anchor flags.caret) 0) rest
    | '$' :: rest => readBranches steps flags names (p.push (.anchor flags.dollar) 0) rest
    | c :: rest => readBranches steps flags names (p.push (flags.charExpr c) 0) rest

/-- The expression that a text writes; `none` if the text is no pattern, nests too deeply or would
take too much memory. -/
def parse? (text : String) : Option Expr :=
  let chars := text.toList
  match readBranches (chars.length + 1) {} [] {} chars with
  | some group =>
    if group.rest.isEmpty ∧ group.height ≤ deepest ∧ group.expr.fits then
      some group.expr
    else none
  | none => none

end Understudy.Pattern
