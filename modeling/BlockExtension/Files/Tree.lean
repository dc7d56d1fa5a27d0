import BlockExtension.Association
import BlockExtension.Files.OsError

/-!
# File trees

What files there are, as a value: a finite map from locations to entries. A
location is the list of names that lead from the root to an entry, through
directories only. The root is a directory, and one directory is the working
directory.

An entry may be a link: a path that stands for what it leads to. And a file may
have several names, each of which is the file itself: locations that are twins
hold one entry between them, so what is written into the file at one of them is
seen at the others, while another entry in the place of one of them leaves the
others alone.

Whoever uses the tree owns what is in it, the root and the directories of the
system apart. So of the permission bits only those of the owner ever matter.

## Main results

* `get?_put_self`, `get?_put_of_ne`: what is at each location after one
  entry is written.
-/

namespace BlockExtension.Files

/-- The names that lead from the root to an entry. -/
abbrev Location := List String

/--
A device of the system, which keeps nothing of what is written to it. They differ in what is
read from them, and in whether there is space for anything.
-/
inductive Device where
  | null
  | zero
  /-- It never ends, and there is no space left on it. -/
  | full
  /-- It never ends, and nobody knows what comes next. -/
  | random
  | terminal
  deriving DecidableEq, Repr

namespace Device

/-- How much is read of a device that never ends. -/
def endlessSize : Nat := 1048576

/-- The device never ends. -/
def isEndless : Device → Bool
  | .zero => true
  | .full => true
  | .random => true
  | _ => false

def content (device : Device) : ByteArray :=
  if device.isEndless then ⟨Array.replicate endlessSize 0⟩ else .empty

/-- The numbers of the driver of a device, and of the device among those that it drives. -/
def numbers : Device → Nat × Nat
  | .null => (1, 3)
  | .zero => (1, 5)
  | .full => (1, 7)
  | .random => (1, 9)
  | .terminal => (5, 0)

def writeError? : Device → Option OsError
  | .full => some .noSpace
  | .terminal => some .noDevice
  | _ => none

end Device

/-- What a location holds. -/
inductive Entry where
  | directory (mode : Nat)
  | file (content : ByteArray) (mode : Nat)
  /-- A link: the path that it stands for, which starts where the link is. -/
  | link (path : String)
  | device (kind : Device)

namespace Entry

/-- Entries are told apart by their octets and their permission bits. -/
instance : DecidableEq Entry := fun
  | .directory mode, .directory bits => decidable_of_iff (mode = bits) (by simp)
  | .file content mode, .file other bits =>
      decidable_of_iff (content.data = other.data ∧ mode = bits) (by simp [ByteArray.ext_iff])
  | .link path, .link other => decidable_of_iff (path = other) (by simp)
  | .device a, .device b => decidable_of_iff (a = b) (by simp)
  | .directory _, .file .. => .isFalse (by simp)
  | .directory _, .link _ => .isFalse (by simp)
  | .directory _, .device _ => .isFalse (by simp)
  | .file .., .directory _ => .isFalse (by simp)
  | .file .., .link _ => .isFalse (by simp)
  | .file .., .device _ => .isFalse (by simp)
  | .link _, .directory _ => .isFalse (by simp)
  | .link _, .file .. => .isFalse (by simp)
  | .link _, .device _ => .isFalse (by simp)
  | .device _, .directory _ => .isFalse (by simp)
  | .device _, .file .. => .isFalse (by simp)
  | .device _, .link _ => .isFalse (by simp)

/-- The permission bits of an entry. -/
def mode : Entry → Nat
  | .directory mode => mode
  | .file _ mode => mode
  | .link _ => 0o777
  | .device _ => 0o666

def isDirectory : Entry → Bool
  | .directory _ => true
  | _ => false

def isLink : Entry → Bool
  | .link _ => true
  | _ => false

def isReadable (entry : Entry) : Bool := entry.mode &&& 0o400 ≠ 0

/-- The owner may write to a file, or put names into a directory. -/
def isWritable (entry : Entry) : Bool := entry.mode &&& 0o200 ≠ 0

/-- The owner may run a file, or look names up in a directory. -/
def isExecutable (entry : Entry) : Bool := entry.mode &&& 0o100 ≠ 0

end Entry

/--
The entries of a file system, and where relative paths start. The root needs no entry; what
is at no location is not there.
-/
structure Tree where
  entries : List (Location × Entry)
  workingDirectory : Location
  /-- The names of each file that has more than one. -/
  twins : List (List Location)

namespace Tree

/-- The permission bits of a directory of the system: nobody but its owner changes it. -/
def systemDirectoryMode : Nat := 0o555

/-- What is at a location; the root is a directory of the system. -/
def get? (tree : Tree) (location : Location) : Option Entry :=
  if location = [] then some (.directory systemDirectoryMode)
  else tree.entries.lookup location

/-- A location is no longer the twin of others. -/
def detach (tree : Tree) (location : Location) : Tree :=
  { tree with twins := tree.twins.map fun names => names.filter (· ≠ location) }

def put (tree : Tree) (location : Location) (entry : Entry) : Tree :=
  { tree.detach location with entries := Association.put tree.entries location entry }

def erase (tree : Tree) (location : Location) : Tree :=
  { tree.detach location with entries := Association.erase tree.entries location }

/-- The locations that hold one file with a location, that one first. -/
def namesOf (tree : Tree) (location : Location) : List Location :=
  location :: ((tree.twins.find? (·.contains location)).getD []).filter (· ≠ location)

/-- Changes what is at a location, under all its names. -/
def revise (tree : Tree) (location : Location) (entry : Entry) : Tree :=
  { tree with
    entries := (tree.namesOf location).foldl (fun entries name =>
      Association.put entries name entry) tree.entries }

/-- Gives what is at a location one more name, in the place of what that was the name of. -/
def tie (tree : Tree) (location name : Location) : Tree :=
  match tree.get? location with
  | none => tree
  | some entry =>
      let placed := tree.put name entry
      let names := placed.namesOf location ++ [name]
      { placed with twins := names :: placed.twins.filter (!·.contains location) }

/-- A location just written holds what was written. -/
theorem get?_put_self (tree : Tree) {location : Location} (h : location ≠ []) (entry : Entry) :
    (tree.put location entry).get? location = some entry := by
  simp [get?, put, h]

/-- Every other location holds what it held. -/
theorem get?_put_of_ne (tree : Tree) {location other : Location} (h : other ≠ location)
    (entry : Entry) : (tree.put location entry).get? other = tree.get? other := by
  unfold get? put
  split
  · rfl
  · exact Association.lookup_put_of_ne _ _ h

/-- The locations that are proper starts of a location, the shortest first. -/
def ancestors (location : Location) : List Location :=
  (List.range location.length).map location.take

def newDirectoryMode : Nat := 0o755

def newFileMode : Nat := 0o644

/-- Writes an entry, and directories at the locations above it that hold nothing. -/
def graft (tree : Tree) (location : Location) (entry : Entry) : Tree :=
  let grown := (ancestors location).foldl (fun tree above =>
    if (tree.get? above).isNone then tree.put above (.directory newDirectoryMode)
    else tree) tree
  grown.put location entry

/-! ## The system -/

def devices : List (String × Device) :=
  [("null", .null), ("zero", .zero), ("full", .full), ("random", .random), ("urandom", .random),
    ("tty", .terminal)]

/--
The directories that a system has, with the one that everybody may write to and the
one that only its owner may look into.
-/
def system : List (Location × Entry) :=
  [["bin"], ["dev"], ["etc"], ["home"], ["opt"], ["usr"], ["usr", "bin"],
    ["usr", "lib"], ["usr", "local"], ["usr", "local", "bin"], ["usr", "share"], ["var"]].map
      (·, .directory systemDirectoryMode) ++
    [(["root"], .directory 0), (["tmp"], .directory 0o777)] ++ devices.map fun (name, device) =>
      (["dev", name], .device device)

/-- A tree with nothing but the system and a working directory. -/
def fresh (workingDirectory : Location) : Tree :=
  graft ⟨system, workingDirectory, []⟩ workingDirectory (.directory newDirectoryMode)

/-! ## Directories -/

/-- What is left of a list behind a given beginning. -/
def behind? : (start list : Location) → Option Location
  | [], list => some list
  | _ :: _, [] => none
  | a :: start, b :: list => if a = b then behind? start list else none

/-- The entries of a directory, by name. -/
def children (tree : Tree) (location : Location) : List (String × Entry) :=
  let inside := tree.entries.filterMap fun (place, entry) =>
    match behind? location place with
    | some [name] => some (name, entry)
    | _ => none
  inside.mergeSort fun a b => a.1 ≤ b.1

end Tree

end BlockExtension.Files
