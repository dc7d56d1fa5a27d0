import BlockExtension.Files.Path
import BlockExtension.Files.Tree

/-!
# Snapshots

A tree that holds a part of a real file system: which locations have to be
looked at so that a path means the same in the tree as it does outside, and what
has to be written back once the tree has changed.
-/

namespace BlockExtension.Files

namespace Tree

/-- The locations that names lead through from a directory, in order. -/
def visited (location : Location) : List String → List Location
  | [] => []
  | name :: rest =>
      if name = "." then visited location rest
      else if name = ".." then visited location.dropLast rest
      else (location ++ [name]) :: visited (location ++ [name]) rest

def visitedBy (tree : Tree) (path : String) : List Location :=
  visited (if Path.isAbsolute path then [] else tree.workingDirectory) (Path.names path)

/-- The entries of a tree that another tree does not hold, in order. -/
def changes (before after : Tree) : List (Location × Entry) :=
  after.entries.filter fun (location, entry) => before.get? location ≠ some entry

/-- The locations that a tree holds and a changed one does not, the deepest first. -/
def removals (before after : Tree) : List Location :=
  (before.entries.filterMap fun (location, _) =>
    if (after.get? location).isNone then some location else none).reverse

end Tree

end BlockExtension.Files
