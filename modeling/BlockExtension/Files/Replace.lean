import BlockExtension.Files.Lookup

/-!
# Writing a file in one step

A file is written by replacement. Its directory is made if need be, an empty file is
created in that directory, the text is written into it, it gets its permission bits,
and one last step puts it in its place. That step either happens whole or not at all,
so nobody ever sees half a file. When something is refused, the file that was prepared
is taken out again and every other file is as it was. Directories that were made on
the way stay.

The files themselves may be the reason why a step is refused: a name is taken, or a
directory is closed. What else a system may refuse, and when, is up to a `Storage`.

A file that is replaced hands its permission bits on; a new file gets `644`. A
link is replaced itself, by a file with the permission bits of what it leads to.

## Main results

* `Storage.eq_ok_of_ask`: what a system grants is what the files say.
* `exists_put_of_place`: a file is put where its path leads, and nowhere else.
-/

namespace BlockExtension.Files

/-! ## Systems -/

/--
What is asked of a system while a text is written to a path. There is one kind of request
for each step of the write that can be refused.
-/
inductive Request where
  | makeDirectory (path : String)
  /-- An empty file in the directory that a path names. -/
  | create (directory : String)
  /-- The text of the file at a location. -/
  | write (place : Location)
  /-- The permission bits of the file at a location. -/
  | setMode (place : Location)
  /-- To move the file at a location to a path. -/
  | rename (place : Location) (path : String)
  deriving DecidableEq, Repr

/--
What a system contributes to writing besides the files that it holds. It may refuse any
request for reasons of its own, such as a full disk, and it names the files that are
prepared.
-/
structure Storage where
  refusal? : Tree → Request → Option OsError
  /-- What the name ends in of a file that is prepared in the directory that a path names. -/
  suffix : Tree → (directory : String) → String

namespace Storage

/--
The answer of a system to a request. A system that does not refuse it of its own accord
gives the answer that the files give.
-/
def ask {α : Type} (storage : Storage) (tree : Tree) (request : Request)
    (answer : Except OsError α) : Except OsError α :=
  match storage.refusal? tree request with
  | some error => .error error
  | none => answer

/-- What a system grants is what the files say. -/
theorem eq_ok_of_ask {α : Type} {storage : Storage} {tree : Tree} {request : Request}
    {answer : Except OsError α} {granted : α} (h : storage.ask tree request answer = .ok granted) :
    answer = .ok granted := by
  unfold ask at h
  split at h
  · cases h
  · exact h

end Storage

/-- What the name begins with of a file that is prepared. -/
def scratchPrefix : String := ".tmp"

/-- The permission bits of a file while it is prepared. -/
def scratchMode : Nat := 0o600

/-- Names may end in any number of zeros; as a rule it is six. -/
def zeros (extra : Nat) : String := String.ofList (List.replicate (6 + extra) '0')

/-- The first of the names of zeros that is new in the directory that a path names. -/
def Tree.newSuffix (tree : Tree) (directory : String) : String :=
  match tree.find directory with
  | .error _ => zeros 0
  | .ok (location, _) =>
      (((List.range (tree.entries.length + 1)).map zeros).find? fun suffix =>
        (tree.get? (location ++ [scratchPrefix ++ suffix])).isNone).getD (zeros 0)

/-- A system that refuses nothing of its own accord. -/
def Storage.steady : Storage := ⟨fun _ _ => none, Tree.newSuffix⟩

namespace Tree

/-! ## Directories -/

/--
Makes one directory; whatever is there already is in the way, even if it is a directory or a
link that leads nowhere.
-/
def makeDirectory (tree : Tree) (path : String) : Except OsError Tree :=
  match tree.target path with
  | .error error => .error error
  | .ok (.directory _) => .error .alreadyExists
  | .ok (.name directory name _) =>
      match tree.get? (directory ++ [name]) with
      | some _ => .error .alreadyExists
      | none =>
          if tree.isOpen directory then
            .ok (tree.put (directory ++ [name]) (.directory newDirectoryMode))
          else .error .permissionDenied

def requestDirectory (storage : Storage) (tree : Tree) (path : String) : Except OsError Tree :=
  storage.ask tree (.makeDirectory path) (tree.makeDirectory path)

/--
Makes the directories of a list of paths, each the parent of the one before it,
from the first that is missing on. Directories made before a refusal stay.
-/
def makeChain (storage : Storage) (tree : Tree) : List String → Tree × Option OsError
  | [] => (tree, none)
  | path :: above =>
      match tree.requestDirectory storage path with
      | .ok tree => (tree, none)
      | .error .notFound =>
          match tree.makeChain storage above with
          | (tree, some error) => (tree, some error)
          | (tree, none) =>
              match tree.requestDirectory storage path with
              | .ok tree => (tree, none)
              | .error error =>
                  if tree.isDirectory path then (tree, none) else (tree, some error)
      | .error error => if tree.isDirectory path then (tree, none) else (tree, some error)

end Tree

/--
A path and the paths of the directories above it, as far as the path says; at
most `fuel` many.
-/
def Path.chain : (fuel : Nat) → String → List String
  | 0, _ => []
  | fuel + 1, path =>
      if path.isEmpty then []
      else
        path :: match Path.parent? path with
          | some parent => Path.chain fuel parent
          | none => []

namespace Tree

/-- Makes a directory and the directories above it, as far as they are missing. -/
def makeDirectories (storage : Storage) (tree : Tree) (path : String) : Tree × Option OsError :=
  tree.makeChain storage (Path.chain (path.length + 1) path)

/-! ## Files -/

/-- The path by which the system knows a file in the directory that a path names. -/
def absolutePath (tree : Tree) (directory name : String) : String :=
  let directory :=
    if Path.isAbsolute directory then directory
    else "/" ++ "/".intercalate (tree.workingDirectory ++ [directory])
  if Path.endsInSlash directory then directory ++ name else directory ++ "/" ++ name

/-- The name of a file that is prepared in the directory that a path names. -/
def scratchName (storage : Storage) (tree : Tree) (directory : String) : String :=
  scratchPrefix ++ storage.suffix tree directory

/--
Creates an empty file in the directory that a path names; shows where it is. Nothing may be
there under its name.
-/
def createScratch (storage : Storage) (tree : Tree) (directory : String) :
    Except OsError (Tree × Location) :=
  storage.ask tree (.create directory) <|
    match tree.find directory with
    | .error error => .error error
    | .ok (location, _) =>
        let place := location ++ [tree.scratchName storage directory]
        if !tree.isOpen location then .error .permissionDenied
        else if (tree.get? place).isSome then .error .alreadyExists
        else .ok (tree.put place (.file .empty scratchMode), place)

/--
The permission bits that a file written to a path gets: those of what the path leads to,
through links too, or those of a new file.
-/
def modeFor (tree : Tree) (path : String) : Nat :=
  match tree.find path with
  | .ok (_, entry) => entry.mode
  | .error _ => newFileMode

/--
Puts a prepared file in its place, in one step. A link there is replaced, and not followed;
a directory is in the way.
-/
def place (tree : Tree) (path : String) (content : ByteArray) (mode : Nat) :
    Except OsError Tree :=
  if Path.hasNul path then .error .invalidArgument
  else
    match tree.target path with
    | .error error => .error error
    | .ok (.directory _) => .error .busy
    | .ok (.name directory name slash) =>
        if slash then .error .notDirectory
        else
          match tree.get? (directory ++ [name]) with
          | some (.directory _) => .error .isDirectory
          | _ => .ok (tree.put (directory ++ [name]) (.file content mode))

/-- A prepared file is put where its path leads, and not in the place of a directory. -/
theorem exists_put_of_place {tree placed : Tree} {path : String} {content : ByteArray} {mode : Nat}
    (h : tree.place path content mode = .ok placed) : ∃ directory name,
      tree.target path = .ok (.name directory name false) ∧
      (∀ mode, tree.get? (directory ++ [name]) ≠ some (.directory mode)) ∧
      placed = tree.put (directory ++ [name]) (.file content mode) := by
  unfold place at h
  split at h
  · cases h
  · split at h
    · cases h
    · cases h
    · next directory name slash hTarget =>
        split at h
        · cases h
        · next hSlash =>
            rw [Bool.not_eq_true] at hSlash
            rw [hSlash] at hTarget
            split at h
            · cases h
            · next hPlain =>
                cases h
                exact ⟨directory, name, hTarget, hPlain, rfl⟩

end Tree

/-! ## The whole step -/

/--
Why a file was not written, by the step that was refused. A message names the path that was
asked for or that of the file that was prepared.
-/
inductive WriteFailure where
  | directory (path : String) (error : OsError)
  /-- A path with a NUL character is no path. -/
  | nulInDirectory (path : String)
  /-- No file can be created in the directory. -/
  | scratch (path prepared : String) (error : OsError)
  /-- The text does not go into the file that was created. -/
  | text (prepared : String) (error : OsError)
  | permissions (path : String) (error : OsError)
  | file (path : String) (error : OsError)
  deriving DecidableEq, Repr

/-- What is said about a text with a NUL character that should be a path. -/
def nulMessage : String := "file name contained an unexpected NUL byte"

/-- The failure with its cause behind it. -/
def WriteFailure.message : WriteFailure → String
  | .directory path error => s!"Failed to create directory '{path}'.: {error.message}"
  | .nulInDirectory path => s!"Failed to create directory '{path}'.: {nulMessage}"
  | .scratch path prepared error =>
      s!"Failed to create a temporary file in '{path}'.: {error.message} at path \"{prepared}\""
  | .text prepared error => s!"{error.message} at path \"{prepared}\""
  | .permissions path error => s!"Failed to set permissions for '{path}'.: {error.message}"
  | .file path error =>
      s!"Failed to write '{path}'.: failed to persist temporary file: " ++
        s!"{error.message}: {error.message}"

namespace Tree

/--
Writes a text into the file that was created at a place, gives the file its permission
bits and moves it to a path. When one of these is refused, the file is taken out.
-/
def fillAndMove (storage : Storage) (tree : Tree) (place : Location) (prepared path text : String) :
    Tree × Except WriteFailure Unit :=
  match storage.ask tree (.write place) (.ok (tree.put place (.file text.toUTF8 scratchMode))) with
  | .error error => (tree.erase place, .error (.text prepared error))
  | .ok tree =>
      let mode := tree.modeFor path
      match storage.ask tree (.setMode place) (.ok (tree.put place (.file text.toUTF8 mode))) with
      | .error error => (tree.erase place, .error (.permissions path error))
      | .ok tree =>
          let moved := (tree.erase place).place path text.toUTF8 mode
          match storage.ask tree (.rename place path) moved with
          | .error error => (tree.erase place, .error (.file path error))
          | .ok tree => (tree, .ok ())

/--
Writes a text to a path; the tree shows what was done even if it failed. The directories are
made first, so the permission bits are read when they are there.
-/
def writeText (storage : Storage) (tree : Tree) (path text : String) :
    Tree × Except WriteFailure Unit :=
  let directory := Path.directory path
  if Path.hasNul directory then (tree, .error (.nulInDirectory directory))
  else
    match tree.makeDirectories storage directory with
    | (tree, some error) => (tree, .error (.directory directory error))
    | (tree, none) =>
        let prepared := tree.absolutePath directory (tree.scratchName storage directory)
        match tree.createScratch storage directory with
        | .error error => (tree, .error (.scratch directory prepared error))
        | .ok (tree, place) => tree.fillAndMove storage place prepared path text

/-- With its directories made and a file created there, a write goes on with that file. -/
theorem writeText_eq {storage : Storage} {tree made scratch : Tree} {place : Location}
    {path : String} (text : String) (hNul : Path.hasNul (Path.directory path) = false)
    (hMade : tree.makeDirectories storage (Path.directory path) = (made, none))
    (hCreated : made.createScratch storage (Path.directory path) = .ok (scratch, place)) :
    tree.writeText storage path text =
      scratch.fillAndMove storage place (made.absolutePath (Path.directory path)
        (made.scratchName storage (Path.directory path))) path text := by
  simp only [writeText, hNul, Bool.false_eq_true, if_false, hMade, hCreated]

end Tree

end BlockExtension.Files
