import Understudy.Files.Tree
import Understudy.Json.Reader
import Understudy.Wire.Stub
import Understudy.Yaml.Node

/-!
# Stubs from files

A file holds one stub or an array of them, as JSON or YAML. What describes no stub is passed over;
what cannot be read at all fails. A directory stands for the files with a fitting extension in it
and below it, one after another in order of their paths, name by name.

## Main definitions

* `LoadError`: why files fail
* `Stub.ofFile`: the stubs of a file
* `Stub.load`: the stubs of the files that a path leads to
-/

namespace Understudy

/-- Why files fail. -/
inductive LoadError where
  /-- The bytes of a file are no text. -/
  | unreadable (path : String)
  /-- A path leads nowhere. -/
  | missing (path : String)
  | malformedJson (path : String)
  | malformedYaml (path : String)
deriving DecidableEq

/-- The path that an error is about. -/
def LoadError.path : LoadError → String
  | .unreadable path | .missing path | .malformedJson path | .malformedYaml path => path

/-- The message for an error. -/
def LoadError.message : LoadError → String
  | .unreadable path => "failed to read " ++ path
  | .missing path => "failed to walk " ++ path
  | .malformedJson path => "invalid JSON in " ++ path
  | .malformedYaml path => "invalid YAML in " ++ path

namespace Stub

/-- The extensions of files that hold YAML. -/
def yamlExtensions : List String :=
  ["yaml", "yml"]

/-- The extensions of files that are looked for in directories. -/
def fileExtensions : List String :=
  "json" :: yamlExtensions

/-- Whether the last name of a path has one of some extensions. -/
def hasExtension (extensions : List String) (path : String) : Bool :=
  (Path.extension? (Path.lastName path)).any extensions.contains

/-- The value in a file, which is JSON unless the extension says YAML. -/
def documentOf (path text : String) : Except LoadError Json :=
  if hasExtension yamlExtensions path then
    match (Yaml.Node.parse? text).bind Yaml.Node.value? with
    | some json => .ok json
    | none => .error (.malformedYaml path)
  else
    match Json.parse text with
    | some json => .ok json
    | none => .error (.malformedJson path)

/-- The values in a document that may describe stubs. -/
def candidates : Json → List Json
  | .arr items => items
  | .null => []
  | json => [json]

/-- The stubs of a file. -/
def ofFile (path : String) (content : ByteArray) : Except LoadError (List Stub) := do
  match String.fromUTF8? content with
  | some text =>
    return (candidates (← documentOf path text)).filterMap fun json => (ofJson json).toOption
  | none => throw (.unreadable path)

/-- The files that are read for a path: the file that it leads to, whatever its extension, or those
with a fitting extension in the directory. -/
def filesUnder (path : String) : FileTree → List (String × ByteArray)
  | .file content => [(path, content)]
  | .directory entries =>
    (FileTree.filesIn path entries).filter fun file => hasExtension fileExtensions file.1

/-- The stubs of the files that a path leads to, given what is there. The first file that fails
decides the error. -/
def load (path : String) : Option FileTree → Except LoadError (List Stub)
  | some tree =>
    List.flatten <$> (filesUnder path tree).mapM fun file => ofFile file.1 file.2
  | none => .error (.missing path)

end Stub

end Understudy
