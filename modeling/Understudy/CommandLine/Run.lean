import Understudy.CommandLine.Arguments
import Understudy.Engine.Basic
import Understudy.Files.Loading
import Understudy.Files.Settings
import Understudy.Json.Printer
import Understudy.Stub.Validation

/-!
# Runs

A run loads stubs, lists them if it is asked to, and answers a query. It is a function of the
arguments and of what the files that they name hold. What has been written before a failure stays
written.

## Main definitions

* `Sources`: what the named files hold
* `Failure`, `Failure.message`: why a run fails
* `Outcome`: what a run writes, and whether it fails
* `Arguments.run`, `Notice.outcome`: the outcome of a run, and that where there is none
-/

namespace Understudy.CommandLine

/-- What the files hold that arguments name; none for what is not there. -/
structure Sources where
  settings : Option ByteArray := none
  stubs : Option FileTree := none
  query : Option ByteArray := none

/-- Why a run fails. -/
inductive Failure where
  /-- The words are no arguments. -/
  | misuse
  | settings (path : String)
  | stubs (path : String)
  /-- Stubs with defects, in a strict run. -/
  | defects (count : Nat)
  | unreadableQuery (source : String)
  | malformedQuery
  /-- A query without messages, where they should come one by one. -/
  | noMessages
  /-- The message at a position has no answer. -/
  | unanswered (position : Nat)
  | route (error : RouteError)
deriving DecidableEq

/-- What a run writes, and why it fails if it does. -/
structure Outcome where
  output : String
  failure : Option Failure := none
deriving DecidableEq

/-! ## Texts -/

/-- How the program is called. -/
def usage : String :=
  "Usage: gripmock-stuber [OPTIONS] --stubs <STUBS>"

/-- What the program and its options are for. -/
def helpText : String :=
  "Match gRPC queries against GripMock stub files\n\n" ++ usage ++ "\n\nOptions:\n" ++
  "  -s, --stubs <STUBS>    Stub file or directory containing stub files " ++
    "(.json, .yaml, .yml)\n" ++
  "  -c, --config <CONFIG>  Engine configuration file (YAML)\n" ++
  "  -q, --query <QUERY>    Query file in JSON, or '-' to read it from stdin\n" ++
  "  -b, --bidi             Feed the query's input messages one by one to a streaming session\n" ++
  "  -l, --list             Print loaded stubs grouped by service and method\n" ++
  "      --strict           Strict mode - refuse to run when any stub fails validation\n" ++
  "  -h, --help             Print help\n" ++
  "  -V, --version          Print version\n"

/-- The version of the program. -/
def versionText : String :=
  "gripmock-stuber 0.1.0\n"

/-- The message for a failure. -/
def Failure.message : Failure → String
  | .misuse => usage
  | .settings path => "failed to load config " ++ path
  | .stubs path => "failed to load stubs from " ++ path
  | .defects count => toString count ++ " stub(s) failed validation"
  | .unreadableQuery source =>
    if source = "-" then "failed to read query from stdin" else "failed to read query " ++ source
  | .malformedQuery => "query is not a valid JSON query"
  | .noMessages => "a streaming query needs at least one input message"
  | .unanswered position => "no stub answers message " ++ toString position
  | .route error => error.message

/-- The number that tells how a run has ended: zero without a failure, two if it has not begun. -/
def Outcome.code (outcome : Outcome) : Nat :=
  match outcome.failure with
  | none => 0
  | some .misuse => 2
  | some _ => 1

/-- The name of a kind of call in listings. -/
def kindName : CallKind → String
  | .unary => "Unary"
  | .clientStream => "ClientStream"
  | .serverStream => "ServerStream"
  | .bidirectional => "Bidirectional"

/-! ## Listings -/

/-- Stubs by service and method, each in the order in which they come. -/
def routes (stubs : List Stub) : Table String (Table String (List Stub)) :=
  stubs.foldl (fun services stub =>
    let methods := (services.find? stub.service).getD []
    let listed := (methods.find? stub.method).getD []
    services.insert stub.service (methods.insert stub.method (listed ++ [stub]))) []

/-- The line for a stub. -/
def stubLine (stub : Stub) : String :=
  "  " ++ stub.id.text ++ " priority=" ++ toString stub.priority.toInt ++ " " ++
    kindName stub.kind ++ "\n"

/-- Stubs under their services and methods. -/
def listingText (stubs : List Stub) : String :=
  String.join ((routes stubs).flatMap fun service =>
    service.2.flatMap fun method =>
      (service.1 ++ "/" ++ method.1 ++ "\n") :: method.2.map stubLine)

/-! ## Answers -/

/-- A stub under a word for how it was had. -/
def report (word : String) (stub : Stub) : String :=
  (Json.object [(word, stub.toJson)]).pretty ++ "\n"

/-- The text for the answer to a query. -/
def answer (engine : Engine) (query : Query) : Except Failure String :=
  match (engine.find query).eval.1 with
  | .ok (.found stub) => .ok (report "found" stub)
  | .ok (.similar stub) => .ok (report "similar" stub)
  | .error error => .error (.route error)

/-- The stub for the last of some messages that come one by one from a position on; `last` is the
stub for the message before. -/
def feed (engine : Engine) (conversation : Conversation) (position : Nat) (last : Option Stub) :
    List Fields → Except Failure (Option Stub)
  | [] => .ok last
  | message :: rest =>
    match (engine.next conversation message).eval with
    | (.ok stub, conversation, engine) => feed engine conversation (position + 1) (some stub) rest
    | (.error _, _, _) => .error (.unanswered position)

/-- The text for the answer to a query whose messages come one by one. -/
def converse (engine : Engine) (query : Query) : Except Failure String :=
  if query.messages.isEmpty then .error .noMessages
  else
    match (engine.converse query.opening).eval with
    | .ok conversation => do
      return ((← feed engine conversation 0 none query.messages).map (report "found")).getD ""
    | .error error => .error (.route error)

/-- The text for the answer to the query that some bytes hold. -/
def respond (engine : Engine) (question : Question) (content : Option ByteArray) :
    Except Failure String :=
  match content.bind String.fromUTF8? with
  | none => .error (.unreadableQuery question.source)
  | some text =>
    match Query.ofJsonText? text with
    | none => .error .malformedQuery
    | some query => if question.streaming then converse engine query else answer engine query

/-! ## Runs -/

namespace Arguments

/-- The settings of a run. -/
def readSettings (arguments : Arguments) (sources : Sources) : Except Failure Settings :=
  match arguments.settings with
  | none => .ok {}
  | some path => (Settings.ofFile sources.settings).mapError fun _ => .settings path

/-- The stubs of a run: those without defects, unless a defect stops the run. -/
def readStubs (arguments : Arguments) (sources : Sources) : Except Failure (List Stub) := do
  let stubs ← (Stub.load arguments.stubs sources.stubs).mapError fun _ => .stubs arguments.stubs
  let count := (defects stubs).length
  if arguments.strict && count != 0 then throw (.defects count)
  return stubs.filter fun stub => stub.defect?.isNone

/-- The engine of a run, with identifiers by position for stubs that have none. -/
def engine (arguments : Arguments) (fresh : Nat → Identifier) (sources : Sources) :
    Except Failure Engine := do
  let settings ← arguments.readSettings sources
  let stubs ← arguments.readStubs sources
  return ((Engine.ofSettings settings).put fresh stubs).eval.2

/-- The outcome of a run. -/
def run (arguments : Arguments) (fresh : Nat → Identifier) (sources : Sources) : Outcome :=
  match arguments.engine fresh sources with
  | .error failure => ⟨"", some failure⟩
  | .ok engine =>
    let listed := if arguments.listing then listingText engine.all else ""
    match arguments.question with
    | none => ⟨listed, none⟩
    | some question =>
      match respond engine question sources.query with
      | .ok text => ⟨listed ++ text, none⟩
      | .error failure => ⟨listed, some failure⟩

end Arguments

/-- The outcome where there is no run. -/
def Notice.outcome : Notice → Outcome
  | .help => ⟨helpText, none⟩
  | .version => ⟨versionText, none⟩
  | .misuse => ⟨"", some .misuse⟩

end Understudy.CommandLine
