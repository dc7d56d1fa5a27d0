import BlockExtension.CommandLine.Help
import BlockExtension.CommandLine.Progress
import BlockExtension.Files.Replace
import BlockExtension.Formatter
import BlockExtension.Generation

/-!
# Sessions

A session is one run of the program: from arguments and a file tree to a file
tree, with everything that can be seen on the way as a list of events. It reads
the configuration, generates the module, has it formatted, and writes the module
and then the descriptor. The first failure ends it.

Without a configuration a session does nothing but give help.

A session depends on two things from outside: the formatter, and what the system
refuses while the module and the descriptor are written.

## Main results

* `Session.tree_after`, `Session.result_after`: what is seen on the way changes neither
  the files nor the result.
-/

namespace BlockExtension.CommandLine

/-! ## What can go wrong -/

/-- Why a configuration could not be read from its file. -/
inductive ReadFailure where
  | system (error : Files.OsError)
  | nulInPath
  | notText
  deriving DecidableEq, Repr

/-- The failure in words. -/
def ReadFailure.message : ReadFailure → String
  | .system error => error.message
  | .nulInPath => Files.nulMessage
  | .notText => "stream did not contain valid UTF-8"

/--
Why a session failed, by the stage that it failed at. Each stage adds the path that it was
about to what went wrong.
-/
inductive Failure where
  | unreadable (path : String) (cause : ReadFailure)
  | invalid (path : String) (cause : Configuration.Refusal)
  | notGenerated (path : String) (cause : Resolution.Failure)
  | notWritten (cause : Files.WriteFailure)
  deriving DecidableEq, Repr

def namesExhaustedMessage : String := "The supply of random identifiers ran out."

def generationMessage : Resolution.Failure → String
  | .fault cause => cause.message
  | .namesExhausted => namesExhaustedMessage

/-- The failure with its cause behind it. -/
def Failure.message : Failure → String
  | .unreadable path cause => s!"Failed to read config '{path}'.: {cause.message}"
  | .invalid path cause => s!"Invalid config '{path}'.: {cause.message}"
  | .notGenerated path cause =>
      s!"Failed to generate extension from '{path}'.: {generationMessage cause}"
  | .notWritten cause => cause.message

/-! ## What can be seen -/

/--
Something that a session does where it can be seen: it shows its progress, warns, or calls a
program.
-/
inductive Event where
  | stage (stage : Stage)
  | warning (text : String)
  | call (program source : String)
  deriving DecidableEq, Repr

/-- How a session ended that did not fail. -/
inductive Success where
  | helped
  /-- The module is in the file at a path. -/
  | written (path : String)
  deriving DecidableEq, Repr

/--
A run of the program: the files after it, what could be seen on the way, in order, and how
it ended.
-/
structure Session where
  tree : Files.Tree
  events : List Event
  result : Except Failure Success

namespace Session

def after (events : List Event) (session : Session) : Session :=
  { session with events := events ++ session.events }

def failed (tree : Files.Tree) (failure : Failure) : Session := ⟨tree, [], .error failure⟩

def output (session : Session) : String :=
  match session.result with
  | .ok .helped => helpText ++ "\n"
  | .ok (.written path) => s!"Extension generated successfully: {path}\n"
  | .error _ => ""

def progress (arguments : Arguments) (session : Session) : String :=
  String.join (session.events.filterMap fun
    | .stage stage => some (Progress.line arguments.stages stage ++ "\n")
    | _ => none)

def warnings (session : Session) : List String :=
  session.events.filterMap fun
    | .warning text => some text
    | _ => none

end Session

/-! ## The stages -/

/--
Reads a file that must hold text. Nothing is looked up under a path with a NUL character in
it.
-/
def readText (tree : Files.Tree) (path : String) : Except ReadFailure String :=
  if Files.Path.hasNul path then .error .nulInPath
  else
    match tree.readFile path with
    | .error error => .error (.system error)
    | .ok content => (Text.Utf8.decode content).mapError fun _ => .notText

/--
Lays a module out as the arguments say; shows what is seen of that, and the files after it.
A formatter with an empty name is none, though the stage is shown.
-/
def layOut (formatter : Formatter) (arguments : Arguments) (source : String)
    (tree : Files.Tree) : String × List Event × Files.Tree :=
  if arguments.unformatted then (source, [], tree)
  else if arguments.formatter.isEmpty then (source, [.stage .formatting], tree)
  else
    let layout := formatter.formatOrKeep arguments.formatter source tree
    (layout.text,
      [.stage .formatting, .call arguments.formatter source] ++
        layout.reason.toList.map fun fault => .warning (Formatter.keptMessage fault),
      layout.tree)

def outputPath (arguments : Arguments) (extension : Extension) : String :=
  arguments.output.getD (ModuleText.defaultFile extension)

/-- What a session writes. -/
inductive Artefact where
  | module
  | descriptor
  deriving DecidableEq, Repr

def descriptorText (info : Script.Literal) : String := info.toJson.pretty ++ "\n"

/-- Writes the descriptor, if it is asked for, after the module has been written to `output`. -/
def writeDescriptor (storage : Files.Storage) (arguments : Arguments) (info : Script.Literal)
    (output : String) (tree : Files.Tree) : Session :=
  match arguments.descriptor with
  | none => ⟨tree, [], .ok (.written output)⟩
  | some path =>
      match tree.writeText storage path (descriptorText info) with
      | (tree, .ok ()) => ⟨tree, [.stage .writingDescriptor], .ok (.written output)⟩
      | (tree, .error failure) =>
          ⟨tree, [.stage .writingDescriptor], .error (.notWritten failure)⟩

/--
Writes what has been generated: the module to `output`, then the descriptor. When the module
is refused, the descriptor is not tried.
-/
def deliver (storage : Artefact → Files.Storage) (arguments : Arguments) (info : Script.Literal)
    (output text : String) (tree : Files.Tree) : Session :=
  match tree.writeText (storage .module) output text with
  | (tree, .ok ()) =>
      (writeDescriptor (storage .descriptor) arguments info output tree).after
        [.stage .writingModule]
  | (tree, .error failure) => ⟨tree, [.stage .writingModule], .error (.notWritten failure)⟩

/--
Formats and writes what has been generated. The warnings about the configuration are shown
before the formatter is called.
-/
def finish (formatter : Formatter) (storage : Artefact → Files.Storage) (arguments : Arguments)
    (extension : Extension) (generated : Generated) (tree : Files.Tree) : Session :=
  let (text, events, tree) := layOut formatter arguments generated.source tree
  (deliver storage arguments generated.info (outputPath arguments extension) text tree).after
    (generated.warnings.map (fun warning => .warning warning.message) ++ events)

/-- Generates from a configuration, and goes on with what is generated. -/
def emit (formatter : Formatter) (storage : Artefact → Files.Storage) (naming : Naming)
    (arguments : Arguments) (path : String) (configuration : Configuration) (tree : Files.Tree) :
    Session :=
  (match generate naming configuration with
    | .error cause => Session.failed tree (.notGenerated path cause)
    | .ok generated =>
        finish formatter storage arguments configuration.extension generated tree).after
    [.stage .emitting]

def validate (formatter : Formatter) (storage : Artefact → Files.Storage) (naming : Naming)
    (arguments : Arguments) (path source : String) (tree : Files.Tree) : Session :=
  (match Configuration.parse source with
    | .error cause => Session.failed tree (.invalid path cause)
    | .ok configuration => emit formatter storage naming arguments path configuration tree).after
    [.stage .validating]

/--
Runs the program on a file tree. The stages follow one another, each shown before it begins,
and the first that fails is the last.
-/
def run (formatter : Formatter) (storage : Artefact → Files.Storage) (naming : Naming)
    (arguments : Arguments) (tree : Files.Tree) : Session :=
  match arguments.configuration with
  | none => ⟨tree, [], .ok .helped⟩
  | some path =>
      (match readText tree path with
        | .error cause => Session.failed tree (.unreadable path cause)
        | .ok source => validate formatter storage naming arguments path source tree).after
        [.stage .reading]

/-! ## What a session leaves behind -/

@[simp] theorem Session.tree_after (events : List Event) (session : Session) :
    (session.after events).tree = session.tree := rfl

@[simp] theorem Session.result_after (events : List Event) (session : Session) :
    (session.after events).result = session.result := rfl

end BlockExtension.CommandLine
