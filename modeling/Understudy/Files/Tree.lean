import Understudy.Files.Path
import Understudy.Table

/-!
# Trees of files

What is stored under a path: a file with its bytes, or a directory with its entries in ascending
order of their names.

## Main definitions

* `FileTree`: files and directories
* `FileTree.find?`: what a path leads to
* `FileTree.place`: a tree with something stored under a path
* `FileTree.filesAt`: the files of a tree with their paths, depth first
-/

namespace Understudy

/-- A file or a directory. -/
inductive FileTree where
  | file (content : ByteArray)
  /-- The entries by ascending name. -/
  | directory (entries : List (String × FileTree))

namespace FileTree

/-- The directory without entries. -/
def empty : FileTree := .directory []

instance : Inhabited FileTree := ⟨.empty⟩

/-- The bytes of a file. -/
def content? : FileTree → Option ByteArray
  | .file content => some content
  | .directory _ => none

/-- The entries of a directory. -/
def entries : FileTree → Table String FileTree
  | .file _ => []
  | .directory entries => entries

/-- What some names lead to from a place, given the directories above it, the nearest first. No name
leads on from a file, not even an empty one. -/
def follow (above : List FileTree) (here : FileTree) : List String → Option FileTree
  | [] => some here
  | name :: rest =>
    match here with
    | .file _ => none
    | .directory entries =>
      if name = "" ∨ name = "." then follow above here rest
      else if name = ".." then
        match above with
        | parent :: above => follow above parent rest
        | [] => none
      else
        match Table.find? name entries with
        | some entry => follow (here :: above) entry rest
        | none => none

/-- What a path leads to. Nothing outside the tree can be reached. -/
def find? (tree : FileTree) (path : String) : Option FileTree :=
  if Path.isAbsolute path then none else follow [] tree (Path.steps path)

/-- The tree with something stored where some names lead. Directories are made on the way. -/
def placeAt (leaf : FileTree) : List String → FileTree → FileTree
  | [], _ => leaf
  | name :: rest, tree =>
    let entry := placeAt leaf rest ((tree.entries.find? name).getD empty)
    .directory (tree.entries.insert name entry)

/-- The tree with something stored under a path. -/
def place (tree : FileTree) (path : String) (leaf : FileTree) : FileTree :=
  placeAt leaf (Path.steps path) tree

mutual
/-- The files of a tree that stands under a path, with their own paths. -/
def filesAt (path : String) : FileTree → List (String × ByteArray)
  | .file content => [(path, content)]
  | .directory entries => filesIn path entries
termination_by structural tree => tree

/-- The files of the entries of a directory. -/
def filesIn (path : String) : List (String × FileTree) → List (String × ByteArray)
  | [] => []
  | (name, tree) :: rest => tree.filesAt (Path.join path name) ++ filesIn path rest
termination_by structural entries => entries
end

end FileTree

end Understudy
