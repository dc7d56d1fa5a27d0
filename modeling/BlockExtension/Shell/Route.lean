import BlockExtension.Files.Lookup
import BlockExtension.Shell.Octets

/-!
# Routes

Where a path leads if it is taken as a text: a shell remembers by which path it
has come to a directory, and goes up from there the way it has come, also if
that way has led through links.
-/

namespace BlockExtension.Shell.Route

def isHere (name : Octets) : Bool := name = ['.']

def isAbove (name : Octets) : Bool := name = ['.', '.']

/-- Names without those that stay where they are, and without ways up and what they undo. -/
def straightened (names : List Octets) : List Octets :=
  names.foldl (fun kept name =>
    if isHere name then kept
    else if isAbove name then kept.dropLast
    else kept ++ [name]) []

/-- A path from the root: one that starts elsewhere is put behind the path of a directory. -/
def whole (here path : Octets) : Octets :=
  if path.head? = some '/' then path
  else if here.getLast? = some '/' then here ++ path
  else here ++ '/' :: path

/-- The slashes that a path from the root starts with; two of them are kept. -/
def root (path : Octets) : Octets :=
  if (path.takeWhile (· = '/')).length = 2 then ['/', '/'] else ['/']

def names (path : Octets) : List Octets := (Octets.cutAt '/' path).filter (!·.isEmpty)

/-- Where a path leads from a directory, by its text alone. -/
def logical (here path : Octets) : Octets :=
  let path := whole here path
  root path ++ Octets.joined ['/'] (straightened (names path))

/-- Where names lead from others, if there is a directory at each step. -/
def checkedFrom? (tree : Files.Tree) (root : Octets) : (kept names : List Octets) →
    Option (List Octets)
  | kept, [] => some kept
  | kept, name :: rest =>
      if isHere name then checkedFrom? tree root kept rest
      else if isAbove name then checkedFrom? tree root kept.dropLast rest
      else
        let kept := kept ++ [name]
        if tree.isDirectory (Octets.toText (root ++ Octets.joined ['/'] kept)) then
          checkedFrom? tree root kept rest
        else none

/-- Where a path leads from a directory by its text, if there is a directory at each step. -/
def checked? (tree : Files.Tree) (here path : Octets) : Option Octets :=
  let path := whole here path
  (checkedFrom? tree (root path) [] (names path)).map fun kept =>
    root path ++ Octets.joined ['/'] kept

end BlockExtension.Shell.Route
