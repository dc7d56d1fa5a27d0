import BlockExtension.Files.Replace

/-!
# Changing files in place

What a program does to files piece by piece: it opens one for writing, moves an
entry, or takes a directory out. Unlike a replacement none of this is prepared
beside its place, so a reader may come upon a file that is half written.
-/

namespace BlockExtension.Files

namespace Tree

/-- What opening a path for writing leads to. -/
inductive Opened where
  | file (location : Location)
  | device (device : Device)
  deriving DecidableEq, Repr

/--
Opens a path for writing. A file that is not there is made, with the given
permission bits; one that is there is emptied if `empties` says so.
-/
def openToWrite (tree : Tree) (path : String) (mode : Nat) (empties : Bool) :
    Except OsError (Tree × Opened) :=
  match tree.arriveBy .all path with
  | .error error => .error error
  | .ok (.directory _) => .error .isDirectory
  | .ok (.name directory name slash) =>
      let location := directory ++ [name]
      if slash then .error .isDirectory
      else
        match tree.get? location with
        | some (.directory _) => .error .isDirectory
        | some (.link _) => .error .tooManyLinks
        | some (.device .terminal) => .error .noDevice
        | some (.device device) => .ok (tree, .device device)
        | some (.file content mode) =>
            if !(Entry.file content mode).isWritable then .error .permissionDenied
            else if empties then
              .ok (tree.revise location (.file .empty mode), .file location)
            else .ok (tree, .file location)
        | none =>
            if tree.isOpen directory then
              .ok (tree.put location (.file .empty mode), .file location)
            else .error .permissionDenied

/-- The location is the other one or below it. -/
def isWithin (location above : Location) : Bool := (behind? above location).isSome

/-- Moves what is at a location, and everything below it, to another location. -/
def relocate (tree : Tree) (source target : Location) : Tree :=
  let kept := tree.entries.filter fun (place, _) => !isWithin place target
  let moved (place : Location) : Location :=
    match behind? source place with
    | some rest => target ++ rest
    | none => place
  { tree with
    entries := kept.map fun (place, entry) => (moved place, entry)
    workingDirectory := moved tree.workingDirectory
    twins := tree.twins.map fun names =>
      (names.filter fun name => !isWithin name target).map moved }

def isEmptyAt (tree : Tree) (location : Location) : Bool :=
  tree.entries.all fun (place, _) => place = location || !isWithin place location

/-- The location and the entry of what a path names, which may be taken away from there. -/
def findToMove (tree : Tree) (path : String) : Except OsError (Location × Entry) :=
  match tree.target path with
  | .error error => .error error
  | .ok (.directory _) => .error .busy
  | .ok (.name directory name slash) =>
      match tree.get? (directory ++ [name]) with
      | none => .error .notFound
      | some entry =>
          match entry, slash with
          | .directory _, _ => .ok (directory ++ [name], entry)
          | _, true => .error .notDirectory
          | _, false => .ok (directory ++ [name], entry)

/--
Moves what one path names to another path, in place of a file that is there. Two
names of one file both stay.
-/
def rename (tree : Tree) (source target : String) : Except OsError Tree := do
  let (place, entry) ← tree.findToMove source
  match ← tree.target target with
  | .directory _ => .error .busy
  | .name directory name slash =>
      let goal := directory ++ [name]
      if place = goal || (tree.namesOf place).contains goal then .ok tree
      else if !tree.isOpen place.dropLast || !tree.isOpen directory then .error .permissionDenied
      else
        match entry, tree.get? goal with
        | .directory _, some (.directory _) =>
            if isWithin goal place then .error .invalidArgument
            else if tree.isEmptyAt goal then .ok (tree.relocate place goal)
            else .error .notEmpty
        | .directory _, some _ => .error .notDirectory
        | .directory _, none =>
            if isWithin goal place then .error .invalidArgument
            else .ok (tree.relocate place goal)
        | _, some (.directory _) => .error .isDirectory
        | _, _ => if slash then .error .notDirectory else .ok (tree.relocate place goal)

/-- Takes out a directory that holds nothing. -/
def removeDirectory (tree : Tree) (path : String) : Except OsError Tree :=
  match tree.target path with
  | .error error => .error error
  | .ok (.directory location) =>
      .error (if (Path.names path).getLast? = some "." then .invalidArgument
        else if location = [] then .busy else .notEmpty)
  | .ok (.name directory name _) =>
      match tree.get? (directory ++ [name]) with
      | none => .error .notFound
      | some (.directory _) =>
          if !tree.isOpen directory then .error .permissionDenied
          else if tree.isEmptyAt (directory ++ [name]) then
            .ok (tree.erase (directory ++ [name]))
          else .error .notEmpty
      | some _ => .error (if tree.isOpen directory then .notDirectory else .permissionDenied)

/-- Makes a link with a path at another path where nothing is. -/
def makeLink (tree : Tree) (goal path : String) : Except OsError Tree :=
  if goal.isEmpty then .error .notFound
  else
    match tree.target path with
    | .error error => .error error
    | .ok (.directory _) => .error .alreadyExists
    | .ok (.name directory name slash) =>
        if (tree.get? (directory ++ [name])).isSome then .error .alreadyExists
        else if slash then .error .notFound
        else if tree.isOpen directory then .ok (tree.put (directory ++ [name]) (.link goal))
        else .error .permissionDenied

/--
Gives what a path leads to one more name, at another path where nothing is;
`follows` tells whether a link is followed.
-/
def addName (tree : Tree) (follows : Bool) (source path : String) : Except OsError Tree := do
  let (location, entry) ←
    (tree.arriveBy (if follows then .all else .slashed) source).bind tree.arrived
  match ← tree.target path with
  | .directory _ => .error .alreadyExists
  | .name directory name slash =>
      if (tree.get? (directory ++ [name])).isSome then .error .alreadyExists
      else if slash then .error .notFound
      else if entry.isDirectory || isSystems location then .error .notPermitted
      else if tree.isOpen directory then .ok (tree.tie location (directory ++ [name]))
      else .error .permissionDenied

/--
Puts an entry at a path, whatever is there, and makes the directories above it
that are missing. A path that leads to no such place changes nothing.
-/
def plant (tree : Tree) (path : String) (entry : Entry) : Tree :=
  let (tree, _) := tree.makeDirectories .steady (Path.directory path)
  match tree.target path with
  | .ok (.name directory name _) => tree.put (directory ++ [name]) entry
  | _ => tree

end Tree

end BlockExtension.Files
