import BlockExtension.Formatter
import BlockExtension.Shell.Run

/-!
# Programs as formatters

A formatter that runs programs: the source is put into a file, the program is
called with the options of a formatter and the path of that file, and the file
is taken away again. Nothing is to be read from the standard input of the
program, and what it writes is collected.
-/

namespace BlockExtension.Shell

/-- Where the source is put for the program to read it. -/
def scratchLocation : Files.Location := ["tmp", "extgen-000000.js"]

def scratchPath : String := "/" ++ "/".intercalate scratchLocation

def scratchMode : Nat := 0o600

def environment (tree : Files.Tree) : List (String × String) :=
  [("HOME", "/root"), ("PATH", Installation.searchPath),
    ("PWD", "/" ++ "/".intercalate tree.workingDirectory)]

def startingProcess (tree : Files.Tree) : Process where
  id := 4241
  scriptId := 4241
  ancestors := []
  dialect := .standard
  name := []
  file := []
  utility := none
  positional := []
  bindings := (environment tree).map fun (name, value) =>
    (Octets.ofText name, .ofText (Octets.ofText value) true)
  functions := []
  aliases := []
  whereabouts := []
  hidden := []
  settings := []
  traps := []
  descriptors := [(0, 0), (1, 1), (2, 2)]
  mask := 0o022
  status := 0
  outputStatus := 0
  line := 0
  readerLine := 0
  lineOffset := 0
  loops := 0
  bodies := 0
  calls := 0
  isTested := false
  children := []
  reaped := []
  lastWait := 0
  givesWay := false
  optionOffset := 0
  outputLoss := none
  niceness := 0
  choices := []
  stageStatuses := []
  callers := []
  directoryPath := Act.pathTo tree.workingDirectory
  directories := []
  passages := []
  readers := []
  lastWord := []
  seed := 1
  shownCommand := []
  nesting := 0

def startingMachine (tree : Files.Tree) : Machine where
  tree
  channels := #[.device .null, .fresh, .fresh]
  documents := #[]
  nextId := 4242
  pending := []
  jobs := []
  endings := []
  elapsed := 0
  limit := none
  moves := []
  times := []
  process := startingProcess tree

def runProgram (program : String) (arguments : List String) :
    Act (Except Files.OsError Ending) := do
  if program.isEmpty then return .error .notFound
  if !program.toList.contains '/' && Files.Path.nameLimit < program.utf8ByteSize then
    return .error .nameTooLong
  let runner := Run.run Run.depth
  let ending ← launch (becoming runner) ((program :: arguments).map Octets.ofText)
  Act.finishFrom runner 0 Act.jobLimit
  return ending

/-- What is left to be read on a channel of a machine. -/
def collected (machine : Machine) (place : Nat) : ByteArray :=
  ((machine.channels[place]?).map (Channel.pending machine.tree)).getD .empty

def formatter : Formatter := fun program source tree =>
  if Files.Path.hasNul program then (.notStarted .nulInName, tree)
  else
    let prepared := tree.graft scratchLocation (.file source.toUTF8 scratchMode)
    let (result, machine) :=
      runProgram program (Formatter.options ++ [scratchPath]) (startingMachine prepared)
    let left := machine.tree.erase scratchLocation
    let finished (status : Nat) : Formatter.Outcome × Files.Tree :=
      (.finished status (collected machine 1) (collected machine 2), left)
    match result with
    | .ok (.ok ending) => finished ending.status
    | .ok (.error error) => (.notStarted (.system error), left)
    | .error _ => finished 1

end BlockExtension.Shell
