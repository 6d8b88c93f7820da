/-!
# Paths

A path is the names that lead to a file, with slashes between them. An empty name and a lone dot
stay where they are, and two dots go back up.

## Main definitions

* `Path.steps`: the names that a path goes through
* `Path.join`: the path of an entry of a directory
* `Path.extension?`: what follows the last dot of the last name
-/

namespace Understudy.Path

/-- The names that a path goes through, empty ones included, given the characters of the path and
those of the name that is being read, the last one first. -/
def stepsFrom (name : List Char) : List Char → List String
  | [] => [String.ofList name.reverse]
  | '/' :: rest => String.ofList name.reverse :: stepsFrom [] rest
  | c :: rest => stepsFrom (c :: name) rest

/-- The names that a path goes through, empty ones included. -/
def steps (path : String) : List String :=
  stepsFrom [] path.toList

/-- Whether a path starts at the root of all files. -/
def isAbsolute (path : String) : Bool :=
  path.toList.head? == some '/'

/-- The path of an entry of a directory. The empty path leads to the directory where one is. -/
def join (path name : String) : String :=
  if path.isEmpty || path.toList.getLast? == some '/' then path ++ name else path ++ "/" ++ name

/-- The last name of a path. -/
def lastName (path : String) : String :=
  (steps path).getLast?.getD ""

/-- What follows the last dot of a name, in small ASCII letters. A dot in front of a name starts no
extension. -/
def extension? (name : String) : Option String :=
  let chars := name.toList
  let tail := (chars.reverse.takeWhile (· ≠ '.')).reverse
  if tail.length + 1 < chars.length then some (String.ofList (tail.map Char.toLower)) else none

end Understudy.Path
