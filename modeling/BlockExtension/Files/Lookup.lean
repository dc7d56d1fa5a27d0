import BlockExtension.Files.OsError
import BlockExtension.Files.Path
import BlockExtension.Files.Tree

/-!
# Looking up paths

How a path leads through a file tree. Every name but the last must be that of a
directory, and every directory that a name is looked up in must be one that its
owner may search; `.` stays, `..` goes up one level, and the root is above
itself. The last name is kept apart, since some operations want an entry there
and others want none.

A link among the names stands for its own path, which starts in the directory
that the link is in. Whether the last name is followed too depends on the
operation: what concerns a name as such, such as taking it away, does not follow
it, and what concerns a file does. Since links can lead to one another in a
circle, there is a limit to how many of them one path may lead through.
-/

namespace BlockExtension.Files

/-- Where a path leads, up to its last name. -/
inductive Target where
  /-- A directory named by the root, by `.` or by `..`. -/
  | directory (location : Location)
  /-- A name in a directory; the flag says that a slash follows it. -/
  | name (directory : Location) (name : String) (slash : Bool)
  deriving DecidableEq, Repr

/--
Which links are followed that are the last name of a path: none, those with a slash behind
them, or all.
-/
inductive Following where
  | none
  | slashed
  | all
  deriving DecidableEq, Repr

/-- A link with or without a slash behind it is followed. -/
def Following.covers (following : Following) (slash : Bool) : Bool :=
  match following with
  | .none => false
  | .slashed => slash
  | .all => true

namespace Tree

/-- Why no name can be looked up in a directory, if that is so. -/
def searchError? (tree : Tree) (location : Location) : Option OsError :=
  match tree.get? location with
  | none => some .notFound
  | some (.directory mode) =>
      if (Entry.directory mode).isExecutable then none else some .permissionDenied
  | some _ => some .notDirectory

/-- Where one name leads that more names are behind. -/
inductive Step where
  | directory (location : Location)
  | link (path : String)
  deriving DecidableEq, Repr

/-- Where one name leads from a directory, if what it names is a directory or a link. -/
def step (tree : Tree) (location : Location) (name : String) : Except OsError Step :=
  match tree.searchError? location with
  | some error => .error error
  | none =>
      if name = "." then .ok (.directory location)
      else if name = ".." then .ok (.directory location.dropLast)
      else if Path.nameLimit < name.utf8ByteSize then .error .nameTooLong
      else
        match tree.get? (location ++ [name]) with
        | none => .error .notFound
        | some (.directory _) => .ok (.directory (location ++ [name]))
        | some (.link path) => .ok (.link path)
        | some _ => .error .notDirectory

/--
Where the last name of a path leads from a directory; `onLink` is what a link leads to.
Nothing need be there under a name that leads somewhere.
-/
def arrive (tree : Tree) (following : Following) (onLink : String → Except OsError Target)
    (location : Location) (last : String) (slash : Bool) : Except OsError Target :=
  match tree.searchError? location with
  | some error => .error error
  | none =>
      if last = "." then .ok (.directory location)
      else if last = ".." then .ok (.directory location.dropLast)
      else if Path.nameLimit < last.utf8ByteSize then .error .nameTooLong
      else
        match tree.get? (location ++ [last]) with
        | some (.link path) =>
            if following.covers slash then onLink path else .ok (.name location last slash)
        | _ => .ok (.name location last slash)

/--
Where names lead from a directory, with a slash behind them or none; `onward` says
where other names lead that a link puts in the place of some.
-/
def lead (tree : Tree) (following : Following)
    (onward : Location → List String → Bool → Except OsError Target) :
    Location → List String → (slash : Bool) → Except OsError Target
  | location, [], _ => .ok (.directory location)
  | location, [last], slash =>
      tree.arrive following (fun path =>
        onward (start location path) (Path.names path) (slash || Path.endsInSlash path))
        location last slash
  | location, name :: next :: rest, slash =>
      match tree.step location name with
      | .error error => .error error
      | .ok (.directory location) => lead tree following onward location (next :: rest) slash
      | .ok (.link path) =>
          onward (start location path) (Path.names path ++ next :: rest) slash
where
  start (location : Location) (path : String) : Location :=
    if Path.isAbsolute path then [] else location

/--
Where names lead from a directory through a number of links at most. Each link that is
followed is one less for what is behind it.
-/
def leadBy (tree : Tree) (following : Following) :
    (links : Nat) → Location → List String → (slash : Bool) → Except OsError Target
  | 0 => tree.lead following fun _ _ _ => .error .tooManyLinks
  | links + 1 => tree.lead following (tree.leadBy following links)

def linkLimit : Nat := 40

/-- Where a path leads, up to its last name. -/
def arriveBy (tree : Tree) (following : Following) (path : String) : Except OsError Target :=
  if path.isEmpty then .error .notFound
  else if Path.pathLimit < path.utf8ByteSize then .error .nameTooLong
  else
    let start := if Path.isAbsolute path then [] else tree.workingDirectory
    tree.leadBy following linkLimit start (Path.names path) (Path.endsInSlash path)

/-- Where a path leads, up to its last name, which is not followed. -/
def target (tree : Tree) (path : String) : Except OsError Target := tree.arriveBy .none path

/-- What is where a path has led. -/
def arrived (tree : Tree) : Target → Except OsError (Location × Entry)
  | .directory location =>
      match tree.get? location with
      | some entry => .ok (location, entry)
      | none => .error .notFound
  | .name directory name slash =>
      match tree.get? (directory ++ [name]) with
      | none => .error .notFound
      | some (.directory mode) => .ok (directory ++ [name], .directory mode)
      | some entry =>
          if slash then .error .notDirectory else .ok (directory ++ [name], entry)

/-- The entry that a path leads to, and its location. -/
def find (tree : Tree) (path : String) : Except OsError (Location × Entry) :=
  (tree.arriveBy .all path).bind tree.arrived

/-- The entry that a path names, which may be a link, and its location. -/
def findNamed (tree : Tree) (path : String) : Except OsError (Location × Entry) :=
  (tree.arriveBy .slashed path).bind tree.arrived

/-- The path leads to something. -/
def isThere (tree : Tree) (path : String) : Bool :=
  match tree.find path with
  | .ok _ => true
  | .error _ => false

def isDirectory (tree : Tree) (path : String) : Bool :=
  match tree.find path with
  | .ok (_, .directory _) => true
  | _ => false

/-- The content of the file that a path leads to. -/
def readFile (tree : Tree) (path : String) : Except OsError ByteArray :=
  match tree.find path with
  | .error error => .error error
  | .ok (_, entry) =>
      if !entry.isReadable then .error .permissionDenied
      else
        match entry with
        | .directory _ => .error .isDirectory
        | .file content _ => .ok content
        | .link _ => .error .tooManyLinks
        | .device .terminal => .error .noDevice
        | .device device => .ok device.content

/-- A location that belongs to the system, so that nobody else may change what it is. -/
def isSystems (location : Location) : Bool :=
  location = [] || (system.lookup location).isSome

/-- Sets the permission bits of what a path leads to. -/
def changeMode (tree : Tree) (path : String) (mode : Nat) : Except OsError Tree :=
  match tree.find path with
  | .error error => .error error
  | .ok (location, entry) =>
      if isSystems location then .error .notPermitted
      else
        match entry with
        | .directory _ => .ok (tree.put location (.directory mode))
        | .file content _ => .ok (tree.revise location (.file content mode))
        | .link _ => .error .tooManyLinks
        | .device _ => .error .notPermitted

/-- The directory may get new names, and lose those that it has. -/
def isOpen (tree : Tree) (location : Location) : Bool :=
  match tree.get? location with
  | some entry => entry.isWritable && entry.isExecutable
  | none => false

/-- Takes out the file that a path names. -/
def removeFile (tree : Tree) (path : String) : Except OsError Tree :=
  match tree.target path with
  | .error error => .error error
  | .ok (.directory _) => .error .isDirectory
  | .ok (.name directory name slash) =>
      match tree.get? (directory ++ [name]) with
      | none => .error .notFound
      | some (.directory _) =>
          .error (if tree.isOpen directory then .isDirectory else .permissionDenied)
      | some _ =>
          if slash then .error .notDirectory
          else if tree.isOpen directory then .ok (tree.erase (directory ++ [name]))
          else .error .permissionDenied

end Tree

end BlockExtension.Files
