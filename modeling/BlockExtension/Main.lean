import BlockExtension.CommandLine.Session
import BlockExtension.Files.Snapshot
import BlockExtension.Shell.Formatting

/-!
# The program

The outer layer of the command line: it reads the arguments, takes a snapshot of
the files that they name, runs a session on it, and writes back what the session
changed. Each file is written beside its place and then moved there.

A snapshot starts from the installed programs. Permission bits cannot be read
here, so it shows every file as an ordinary one and the formatter as one that
may be run.
-/

namespace BlockExtension.CommandLine

def pathOf (location : Files.Location) : String := "/" ++ "/".intercalate location

/-- The permission bits of a file that may be run. -/
def runnableMode : Nat := 0o755

/-- What is at a location; a file is shown with the given permission bits. -/
def lookAt (location : Files.Location) (mode : Nat) : IO (Option Files.Entry) := do
  try
    return some (.file (← IO.FS.readBinFile (pathOf location)) mode)
  catch
    | .noFileOrDirectory .. => return none
    | .inappropriateType .. => return some (.directory Files.Tree.newDirectoryMode)
    | error => throw error

/--
Adds to a tree what is at locations, as long as there is something; what the
tree holds already stays.
-/
def addLocations (mode : Nat) (tree : Files.Tree) : List Files.Location → IO Files.Tree
  | [] => return tree
  | location :: rest => do
      if (tree.get? location).isSome then addLocations mode tree rest
      else
        match ← lookAt location mode with
        | none => return tree
        | some entry => addLocations mode (tree.put location entry) rest

/-- A tree with everything in it that the arguments name. -/
def takeSnapshot (arguments : Arguments) : IO Files.Tree := do
  let here := s!"{← IO.currentDir}"
  let tree := Shell.Installation.tree (Files.Path.names here)
  let paths := [arguments.configuration, arguments.output, arguments.descriptor].reduceOption
  let program := if arguments.formatter.contains '/' then [arguments.formatter] else []
  let tree ← program.foldlM
    (fun tree path => addLocations runnableMode tree (tree.visitedBy path)) tree
  paths.foldlM
    (fun tree path => addLocations Files.Tree.newFileMode tree (tree.visitedBy path)) tree

def drawName : IO RandomName := do
  let letters ← (List.replicate 11 ()).mapM fun _ => IO.rand 0 51
  return .ofFn fun i => Fin.ofNat 52 (letters.getD i.val 0)

def drawNames (tree : Files.Tree) (arguments : Arguments) : IO (List RandomName) := do
  match arguments.configuration.map (readText tree) with
  | some (.ok text) => (List.replicate (text.length + 1) ()).mapM fun _ => drawName
  | _ => return []

/-- Writes one entry back; there is no way to make a link. -/
def writeBack : Files.Location × Files.Entry → IO Unit
  | (_, .device _) => return ()
  | (_, .link _) => return ()
  | (location, .directory mode) => do
      IO.FS.createDirAll (pathOf location)
      IO.Prim.setAccessRights (pathOf location) (UInt32.ofNat mode)
  | (location, .file content mode) => do
      let place := pathOf location
      let scratch := pathOf (location.dropLast ++ [(← drawName).text])
      IO.FS.writeBinFile scratch content
      try
        IO.Prim.setAccessRights scratch (UInt32.ofNat mode)
        IO.FS.rename scratch place
      catch error =>
        IO.FS.removeFile scratch
        throw error

def takeAway (tree : Files.Tree) (location : Files.Location) : IO Unit := do
  match tree.get? location with
  | some (.directory _) => IO.FS.removeDir (pathOf location)
  | some (.file ..) => IO.FS.removeFile (pathOf location)
  | some (.link _) => IO.FS.removeFile (pathOf location)
  | _ => return ()

/-- Does what arguments ask for; answers with the status of the program. -/
def perform (arguments : Arguments) : IO UInt32 := do
  let tree ← takeSnapshot arguments
  let naming ←
    if arguments.randomNames then (drawNames tree arguments).map (Naming.random [])
    else pure .ordinal
  let session := run Shell.formatter (fun _ => .steady) naming arguments tree
  IO.eprint (session.progress arguments)
  session.warnings.forM fun warning => IO.eprintln s!"[WARN] {warning}"
  (Files.Tree.removals tree session.tree).forM (takeAway tree)
  (Files.Tree.changes tree session.tree).forM writeBack
  IO.print session.output
  match session.result with
  | .ok _ => return 0
  | .error failure =>
      IO.eprintln s!"Error: {failure.message}"
      return 1

end BlockExtension.CommandLine

open BlockExtension in
/-- Reads the command line and does what it asks for. -/
def main (texts : List String) : IO UInt32 := do
  match CommandLine.Arguments.ofTexts texts with
  | .error stop =>
      if stop = .help then IO.print stop.text else IO.eprint stop.text
      return UInt32.ofNat stop.exitStatus
  | .ok arguments => CommandLine.perform arguments
