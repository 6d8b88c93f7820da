import Understudy.CommandLine.Run

/-!
# The program

Reads the files that the arguments name, and writes what the run yields.
-/

namespace Understudy.CommandLine

/-- The tree of what stands under a path; none if nothing does. Links in directories are passed
over. -/
partial def readTree (path : String) : IO (Option FileTree) := do
  match ← (IO.FS.realPath path >>= fun place => place.readDir).toBaseIO with
  | .ok found =>
    let entries ← found.toList.filterMapM fun entry => do
      match ← entry.path.symlinkMetadata.toBaseIO with
      | .ok metadata =>
        if metadata.type matches .symlink then return none
        else return (← readTree (Path.join path entry.fileName)).map fun tree =>
          (entry.fileName, tree)
      | .error _ => return none
    return some (.directory (Table.ofList entries))
  | .error _ =>
    match ← (IO.FS.readBinFile path).toBaseIO with
    | .ok content => return some (.file content)
    | .error _ => return none

/-- The bytes of a file; none if it cannot be read. -/
def readBytes (path : String) : IO (Option ByteArray) := do
  return (← (IO.FS.readBinFile path).toBaseIO).toOption

/-- All bytes of a stream after those that are held. -/
partial def readAll (stream : IO.FS.Stream) (held : ByteArray) : IO ByteArray := do
  let part ← stream.read 65536
  if part.isEmpty then return held else readAll stream (held ++ part)

/-- What the files hold that arguments name. -/
def readSources (arguments : Arguments) : IO Sources := do
  let settings ← match arguments.settings with
    | some path => readBytes path
    | none => pure none
  let stubs ← readTree arguments.stubs
  let query ← match arguments.question with
    | some ⟨"-", _⟩ => some <$> readAll (← IO.getStdin) .empty
    | some question => readBytes question.source
    | none => pure none
  return { settings, stubs, query }

/-- A number drawn by chance. -/
def draw : IO Nat := do
  return (← IO.getRandomBytes 16).toList.foldl (fun number byte => 256 * number + byte.toNat) 0

/-- The outcome of some words. -/
def outcome (words : List String) : IO Outcome := do
  match Arguments.parse words with
  | .error notice => return notice.outcome
  | .ok arguments =>
    let start ← draw
    return arguments.run (fun position => .ofDraw (start + position)) (← readSources arguments)

end Understudy.CommandLine

/-- Runs the program. -/
def main (words : List String) : IO UInt32 := do
  let outcome ← Understudy.CommandLine.outcome words
  IO.print outcome.output
  match outcome.failure with
  | some failure => IO.eprintln ("Error: " ++ failure.message)
  | none => pure ()
  return UInt32.ofNat outcome.code
