import BlockExtension.Files.OsError
import BlockExtension.Files.Tree
import BlockExtension.Text.Blank
import BlockExtension.Text.Utf8

/-!
# External formatters

A formatter is a program that reads a script from a file and writes it to its
standard output with a better layout. What comes of running one is a value,
`Formatter.Outcome`, so the rules of when its output is taken are about values
only: the program must have been started, must have ended well, and must have
written a text that is not blank. On the way it may change files, which is seen
in the tree that it leaves.

A module is never lost to a formatter: if its output is not taken, the module
stays as it is and the reason becomes a warning.
-/

namespace BlockExtension

namespace Formatter

/-- The options that a formatter is called with, before the name of the file. -/
def options : List String :=
  ["--parser", "babel",
    "--print-width", "100",
    "--tab-width", "2",
    "--single-quote",
    "--trailing-comma", "es5",
    "--bracket-spacing",
    "--arrow-parens", "avoid",
    "--end-of-line", "lf"]

/-- Why a program was not started. -/
inductive StartFailure where
  | system (error : Files.OsError)
  /-- A name with a NUL character is the name of no program. -/
  | nulInName
  deriving DecidableEq, Repr

/-- The failure in words. -/
def StartFailure.message : StartFailure → String
  | .system error => error.message
  | .nulInName => "nul byte found in provided data"

/-- What comes of running a formatter. -/
inductive Outcome where
  | notStarted (failure : StartFailure)
  /-- The program ended; a status of zero is success. -/
  | finished (status : Nat) (output errors : ByteArray)

/-- Why the output of a formatter is not taken. -/
inductive Fault where
  | notStarted (program : String) (failure : StartFailure)
  /-- The program ended badly; `complaint` is what it wrote to its standard error. -/
  | failed (program complaint : String)
  | notText (fault : Text.Utf8.Fault)
  | blank (program : String)
  deriving DecidableEq, Repr

/-- The fault in one sentence. -/
def Fault.message : Fault → String
  | .notStarted program failure =>
      s!"Failed to start '{program}'. Install prettier or pass --no-format.: {failure.message}"
  | .failed program complaint => s!"'{program}' failed: {complaint}"
  | .notText fault => s!"Formatter produced output that is not UTF-8.: {fault.message}"
  | .blank program => s!"'{program}' produced no output."

def trimmed (text : String) : String := String.ofList (Text.trim text.toList)

/--
The output of a formatter, if it is to be taken: the program ended well, and what it wrote
is text and not blank. The text is taken as it is, blank characters at its ends included.
-/
def Outcome.accept (program : String) : Outcome → Except Fault String
  | .notStarted failure => .error (.notStarted program failure)
  | .finished status output errors =>
      if status ≠ 0 then .error (.failed program (trimmed (Text.Utf8.decodeLossily errors)))
      else
        match Text.Utf8.decode output with
        | .error fault => .error (.notText fault)
        | .ok text => if (trimmed text).isEmpty then .error (.blank program) else .ok text

end Formatter

/-- A way to run formatters: what comes of a program on a source, and the files it leaves. -/
abbrev Formatter := (program source : String) → Files.Tree → Formatter.Outcome × Files.Tree

namespace Formatter

/-- The source as a program lays it out, and the files that the program leaves. -/
def format (formatter : Formatter) (program source : String) (tree : Files.Tree) :
    Except Fault String × Files.Tree :=
  let (outcome, tree) := formatter program source tree
  (outcome.accept program, tree)

/-- What has been laid out, or was kept, with the reason for that and the files after it. -/
structure Layout where
  text : String
  reason : Option Fault
  tree : Files.Tree

/--
The source as a program lays it out, or else the source itself and the reason for that.
Whatever the program did to files stays in either case.
-/
def formatOrKeep (formatter : Formatter) (program source : String) (tree : Files.Tree) :
    Layout :=
  match formatter.format program source tree with
  | (.ok text, tree) => ⟨text, none, tree⟩
  | (.error fault, tree) => ⟨source, some fault, tree⟩

def keptMessage (fault : Fault) : String :=
  s!"Code formatting failed, keeping unformatted output: {fault.message}"

end Formatter

end BlockExtension
