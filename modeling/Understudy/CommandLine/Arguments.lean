/-!
# Arguments

The words after the name of the program. A long option is a name after two dashes, its value after
an equals sign or in the next word. Short options are letters after one dash, several in one word; a
letter that takes a value takes the rest of its word or the next word. A word that starts with a
dash is no value, the lone dash apart, and no option may be given twice.

## Main definitions

* `Arguments`: what a run is asked for
* `Notice`: why there is no run
* `Arguments.parse`: the arguments that some words give
-/

namespace Understudy.CommandLine

/-- A query to be answered. -/
structure Question where
  /-- The path of the query; a lone dash stands for the standard input. -/
  source : String
  /-- Whether the messages of the query come one by one. -/
  streaming : Bool
deriving DecidableEq

/-- What a run is asked for. -/
structure Arguments where
  /-- The path of the stubs. -/
  stubs : String
  /-- The path of the settings. -/
  settings : Option String
  question : Option Question
  /-- Whether the stubs are listed. -/
  listing : Bool
  /-- Whether a defect of a stub stops the run. -/
  strict : Bool
deriving DecidableEq

/-- Why there is no run. -/
inductive Notice where
  | help
  | version
  /-- The words are no arguments. -/
  | misuse
deriving DecidableEq

/-- The options that take a value. -/
inductive Parameter where
  | stubs
  | settings
  | query
deriving DecidableEq

/-- The options that take none. -/
inductive Switch where
  | streaming
  | listing
  | strict
deriving DecidableEq

/-- The options. -/
inductive Choice where
  | parameter (parameter : Parameter)
  | switch (switch : Switch)
  | notice (notice : Notice)
deriving DecidableEq

/-- The options by their long names. -/
def longNames : List (String × Choice) :=
  [("stubs", .parameter .stubs), ("config", .parameter .settings), ("query", .parameter .query),
    ("bidi", .switch .streaming), ("list", .switch .listing), ("strict", .switch .strict),
    ("help", .notice .help), ("version", .notice .version)]

/-- The options by their letters. -/
def letters : List (Char × Choice) :=
  [('s', .parameter .stubs), ('c', .parameter .settings), ('q', .parameter .query),
    ('b', .switch .streaming), ('l', .switch .listing), ('h', .notice .help),
    ('V', .notice .version)]

/-- The options that have been given. -/
structure Given where
  parameters : List (Parameter × String) := []
  switches : List Switch := []

namespace Given

/-- Adds an option with its value. Only the source of a query may be empty. -/
def set (given : Given) (parameter : Parameter) (value : String) : Except Notice Given :=
  if (given.parameters.lookup parameter).isSome || value.isEmpty && parameter != .query then
    .error .misuse
  else .ok { given with parameters := (parameter, value) :: given.parameters }

/-- Adds an option without a value. -/
def turnOn (given : Given) (switch : Switch) : Except Notice Given :=
  if given.switches.contains switch then .error .misuse
  else .ok { given with switches := switch :: given.switches }

/-- The arguments that the options make up. Stubs must be named, and only the messages of a query
can come one by one. -/
def arguments (given : Given) : Except Notice Arguments :=
  let streaming := given.switches.contains .streaming
  let question := (given.parameters.lookup .query).map fun source => ⟨source, streaming⟩
  match given.parameters.lookup .stubs with
  | some stubs =>
    if streaming && question.isNone then .error .misuse
    else .ok {
      stubs, question
      settings := given.parameters.lookup .settings
      listing := given.switches.contains .listing
      strict := given.switches.contains .strict }
  | none => .error .misuse

end Given

/-- What is given after a word, with the option whose value must come next, if one must. -/
abbrev Taken := Given × Option Parameter

/-- Takes a long option, given the characters after the dashes. -/
def takeLong (given : Given) (chars : List Char) : Except Notice Taken := do
  let name := String.ofList (chars.takeWhile (· ≠ '='))
  match longNames.lookup name, chars.dropWhile (· ≠ '=') with
  | some (.parameter parameter), [] => return (given, some parameter)
  | some (.parameter parameter), _ :: value =>
    return (← given.set parameter (String.ofList value), none)
  | some (.switch switch), [] => return (← given.turnOn switch, none)
  | some (.notice notice), [] => throw notice
  | _, _ => throw .misuse

/-- Takes short options, given the characters after the dash. -/
def takeShort (given : Given) : List Char → Except Notice Taken
  | [] => return (given, none)
  | c :: rest => do
    match letters.lookup c with
    | some (.parameter parameter) =>
      match rest with
      | [] => return (given, some parameter)
      | '=' :: value => return (← given.set parameter (String.ofList value), none)
      | value => return (← given.set parameter (String.ofList value), none)
    | some (.switch switch) => takeShort (← given.turnOn switch) rest
    | some (.notice notice) => throw notice
    | none => throw .misuse

/-- Takes words one after another, given the option whose value must come next, if one must. After
two lone dashes there is room only for words that are no options, of which none is known. -/
def takeWords (given : Given) (awaiting : Option Parameter) : List String → Except Notice Given
  | [] => if awaiting.isSome then .error .misuse else .ok given
  | word :: rest => do
    match awaiting, word.toList with
    | none, ['-', '-'] => if rest.isEmpty then return given else throw .misuse
    | none, '-' :: '-' :: chars =>
      let (given, awaiting) ← takeLong given chars
      takeWords given awaiting rest
    | none, '-' :: c :: chars =>
      let (given, awaiting) ← takeShort given (c :: chars)
      takeWords given awaiting rest
    | none, _ => throw .misuse
    | some _, '-' :: _ :: _ => throw .misuse
    | some parameter, _ => takeWords (← given.set parameter word) none rest

/-- The arguments that some words give. -/
def Arguments.parse (words : List String) : Except Notice Arguments := do
  (← takeWords {} none words).arguments

end Understudy.CommandLine
