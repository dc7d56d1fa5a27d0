import BlockExtension.Shell.Utility.Blocks
import BlockExtension.Shell.Utility.Characters
import BlockExtension.Shell.Utility.Checksum
import BlockExtension.Shell.Utility.Columns
import BlockExtension.Shell.Utility.Comparison
import BlockExtension.Shell.Utility.Excerpt
import BlockExtension.Shell.Utility.Describing
import BlockExtension.Shell.Utility.Dump
import BlockExtension.Shell.Utility.Editing.Run
import BlockExtension.Shell.Utility.Expression
import BlockExtension.Shell.Utility.Sequence
import BlockExtension.Shell.Utility.Filling
import BlockExtension.Shell.Utility.Finding.Search
import BlockExtension.Shell.Utility.Listing
import BlockExtension.Shell.Utility.Making
import BlockExtension.Shell.Utility.Numbering
import BlockExtension.Shell.Utility.Relation
import BlockExtension.Shell.Utility.Transfer
import BlockExtension.Shell.Utility.Repetition
import BlockExtension.Shell.Utility.Resolving
import BlockExtension.Shell.Utility.Running
import BlockExtension.Shell.Utility.Scaling
import BlockExtension.Shell.Utility.Scanning.Run
import BlockExtension.Shell.Utility.Searching
import BlockExtension.Shell.Utility.Tabulation

/-!
# Programs by their names

What the installed programs do that are not shells.
-/

namespace BlockExtension.Shell.Utility

open Act

/-- A search that is also known by a name of its own, which it does not use in complaints. -/
def renamedSearch (way : Searching.Notation) : Program := fun _ arguments =>
  Searching.grep (some way) "grep".toList arguments

def plainPrograms : List (String × Program) :=
  [("[", Assertion.test true), ("base64", Encoding.base64), ("basename", Wording.basename),
    ("cat", Concatenation.cat), ("chmod", Permission.chmod), ("cksum", Checksum.cksum),
    ("cmp", FirstDifference.cmp), ("comm", Relation.Common.comm), ("cp", Transfer.cp),
    ("cut", Cutting.cut), ("date", Surroundings.date), ("dd", Blocks.dd),
    ("diff", LineDifference.diff), ("dirname", Wording.dirname), ("echo", Wording.echo),
    ("egrep", renamedSearch .extended), ("expand", Tabulation.expand),
    ("expr", Expression.expr), ("factor", Factors.factor), ("false", fun _ _ => return 1),
    ("fgrep", renamedSearch .fixed), ("fmt", Filling.fmt), ("fold", Folding.fold),
    ("grep", Searching.grep none), ("head", head), ("id", Surroundings.id),
    ("join", Relation.Pairing.join), ("ln", Transfer.ln), ("ls", Listing.ls),
    ("mkdir", Making.mkdir), ("mktemp", Making.mktemp), ("mv", Transfer.mv), ("nl", Numbering.nl),
    ("numfmt", Scaling.numfmt), ("od", Dump.od), ("paste", Pasting.paste),
    ("printenv", Environment.printenv), ("printf", Wording.printf), ("pwd", Surroundings.pwd),
    ("readlink", Resolving.readlink), ("realpath", Resolving.realpath), ("rev", rev),
    ("rm", Removal.rm), ("rmdir", Removal.rmdir), ("seq", Sequence.seq),
    ("sleep", Surroundings.sleep), ("sort", Sorting.sort), ("stat", Describing.stat), ("tac", tac),
    ("tail", tail), ("tee", Wording.tee), ("test", Assertion.test false), ("touch", Making.touch),
    ("tr", Replacement.tr), ("true", fun _ _ => return 0), ("truncate", Making.truncate),
    ("uname", Surroundings.uname), ("unexpand", Tabulation.unexpand), ("uniq", Repetition.uniq),
    ("wc", Count.wc), ("which", which), ("whoami", Surroundings.whoami), ("yes", Wording.yes)] ++
    Checksum.programs

/-- What a program says of output that could not be written, and its status then. -/
def lossOf (error : Files.OsError) (name : String) : List String × Nat :=
  let why := error.wording
  let named := s!"standard output: {why}"
  let quoted := s!"'standard output': {why}"
  let usual := s!"write error: {why}"
  let isClosed : Bool := error = .badDescriptor
  let isPlain := !isClosed && (["cksum", "wc"].contains name || name.endsWith "sum")
  match name with
  | "awk" => ([s!"close failed on file \"/dev/stdout\" ({why})"], 2)
  | "cmp" => if isClosed then ([], 1) else ([named], 2)
  | "diff" => ([named], 2)
  | "env" => ([usual], 125)
  | "expr" => ([usual], 3)
  | "find" => ([quoted, if isClosed then usual else "write error"], 1)
  | "grep" => ([usual], 2)
  | "ls" => ([usual], 2)
  | "printenv" => ([usual], 2)
  | "rev" => if isClosed then ([], 0) else ([usual], 1)
  | "sed" =>
      ([(if isClosed then "couldn't close stdout: " else "couldn't flush stdout: ") ++ why], 4)
  | "sort" => ([s!"fflush failed: {quoted}", "write error"], 2)
  | "tee" => ([quoted], 1)
  | "yes" => ([named], 1)
  | _ => ([if isPlain then "write error" else usual], 1)

/-- A program that ends badly if its output could not be written. -/
def guarded (name : String) (program : Program) : Program := fun self arguments => do
  let status ← program self arguments
  let some error := (← process).outputLoss | return status
  let (texts, lossStatus) := lossOf error name
  texts.forM fun text => complainAs self text.toList
  return lossStatus

def program (launch : Launch) (name : String) : Program :=
  guarded name (match name with
    | "awk" => Scanning.awk launch
    | "env" => Environment.env launch
    | "xargs" => Commands.xargs launch
    | "find" => Finding.find launch
    | "sed" => Editing.sed launch
    | name =>
        (((Running.programs launch).lookup name).orElse fun _ => plainPrograms.lookup name).getD
          fun _ _ => return 0)

end BlockExtension.Shell.Utility
