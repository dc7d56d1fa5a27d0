import BlockExtension.Shell.Regex
import BlockExtension.Shell.Utility.Input

/-!
# Numbered lines

The program that puts numbers before lines. Lines that mark a section tell
whether a header, a body or a footer follows; each has a rule of its own for
which lines are numbered.
-/

namespace BlockExtension.Shell.Utility.Numbering

open Act

/-- Which lines are numbered. -/
inductive Choice where
  | all
  | filled
  | none
  | matching (regex : Regex)

/-- The parts of a page. -/
inductive Section where
  | header
  | body
  | footer
  deriving DecidableEq, Repr

/-- How lines are numbered. -/
structure Style where
  choices : Section → Choice
  width : Nat
  separator : Octets
  alignment : String
  first : Int
  step : Int
  /-- Of so many empty lines in a row one is numbered. -/
  joined : Nat
  /-- The numbers start again where a section does. -/
  restarts : Bool
  mark : Octets

def number (style : Style) (n : Int) : Octets :=
  let text := Octets.ofInt n
  match style.alignment with
  | "ln" => text ++ List.replicate (style.width - text.length) ' '
  | "rz" =>
      let digits := Octets.ofNat n.natAbs
      let sign : Octets := if n < 0 then ['-'] else []
      sign ++ List.replicate (style.width - digits.length - sign.length) '0' ++ digits
  | _ => Octets.padLeft style.width text

def sectionAt? (style : Style) (line : Octets) : Option Section :=
  if style.mark.length < 2 then none
  else if line = style.mark ++ style.mark ++ style.mark then some .header
  else if line = style.mark ++ style.mark then some .body
  else if line = style.mark then some .footer
  else none

/-- Where the numbering is. -/
structure Progress where
  current : Section
  next : Int
  /-- How many empty lines there have been that are not numbered. -/
  blanks : Nat

/-- A line gets a number; the second part is the number of empty lines that wait for one. -/
def counts (style : Style) (progress : Progress) (line : Octets) : Bool × Nat :=
  match style.choices progress.current with
  | .all =>
      if 1 < style.joined && line.isEmpty && progress.blanks + 1 < style.joined then
        (false, progress.blanks + 1)
      else (true, 0)
  | .filled => (!line.isEmpty, progress.blanks)
  | .none => (false, progress.blanks)
  | .matching regex => (regex.occursIn ⟨line.toArray, false, false⟩, progress.blanks)

def numbered (style : Style) : Progress → List Octets → List Octets
  | _, [] => []
  | progress, line :: rest =>
      match sectionAt? style line with
      | some current =>
          let next := if style.restarts then style.first else progress.next
          [] :: numbered style { progress with current, next } rest
      | none =>
          let (isCounted, blanks) := counts style progress line
          if isCounted then
            (number style progress.next ++ style.separator ++ line) ::
              numbered style { progress with blanks, next := progress.next + style.step } rest
          else
            (List.replicate (style.width + style.separator.length) ' ' ++ line) ::
              numbered style { progress with blanks } rest

/-- The options. -/
def rules : List OptionRule :=
  [setting "body-numbering" 'b', setting "number-width" 'w', setting "number-separator" 's',
    setting "number-format" 'n', setting "starting-line-number" 'v',
    setting "line-increment" 'i', setting "header-numbering" 'h',
    setting "footer-numbering" 'f', switch "no-renumber" 'p', setting "join-blank-lines" 'l',
    setting "section-delimiter" 'd']

/-- The whole number that a text is, if it is one. -/
def integer? : Octets → Option Int
  | '-' :: digits => (Octets.number? digits).map fun n => -(n : Int)
  | '+' :: digits => (Octets.number? digits).map fun n => (n : Int)
  | digits => (Octets.number? digits).map fun n => (n : Int)

def complaints (arguments : List Octets) : List Octets :=
  arguments.filterMap fun argument =>
    match takeApart rules true 2 [argument] with
    | .error text =>
        if "unrecognized".toList.isPrefixOf text || "invalid".toList.isPrefixOf text then some text
        else none
    | .ok _ => none

/-- The lines that a text asks to number; none if it asks for nothing known. -/
def choice? (text : Octets) : Option (Except Octets Choice) :=
  match text with
  | 'a' :: _ => some (.ok .all)
  | 't' :: _ => some (.ok .filled)
  | 'n' :: _ => some (.ok .none)
  | 'p' :: pattern =>
      match Regex.ofText false true pattern with
      | .ok regex => some (.ok (.matching regex))
      | .error problem => some (.error problem.message.toList)
  | _ => none

def numberOption (given : Invocation) (word what : String) (least : Int) (usual : Int) :
    Except Octets Int :=
  match given.value? word with
  | none => .ok usual
  | some text =>
      let refusal (reason : String) : Except Octets Int :=
        .error (("invalid " ++ what ++ ": ").toList ++ quoted text ++ reason.toList)
      match integer? text with
      | none => refusal ""
      | some n => if n < least then refusal ": Numerical result out of range" else .ok n

/-- The style that options ask for, or what is wrong with them and whether help is offered. -/
def styleOf (given : Invocation) : Except (Octets × Bool) Style := do
  let choiceOf (word what : String) (usual : Choice) : Except (Octets × Bool) Choice :=
    match given.value? word with
    | none => .ok usual
    | some text =>
        match choice? text with
        | some (.ok choice) => .ok choice
        | some (.error problem) => .error (problem, false)
        | none => .error (("invalid " ++ what ++ " numbering style: ").toList ++ quoted text, true)
  let plainly (result : Except Octets Int) : Except (Octets × Bool) Int :=
    result.mapError (·, false)
  let header ← choiceOf "header-numbering" "header" .none
  let body ← choiceOf "body-numbering" "body" .filled
  let footer ← choiceOf "footer-numbering" "footer" .none
  let lowest : Int := -9223372036854775808
  let first ← plainly (numberOption given "starting-line-number" "starting line number" lowest 1)
  let step ← plainly (numberOption given "line-increment" "line number increment" lowest 1)
  let joined ← plainly
    (numberOption given "join-blank-lines" "line number of blank lines" 1 1)
  let width ← plainly (numberOption given "number-width" "line number field width" 1 6)
  let alignment := String.ofList ((given.value? "number-format").getD "rn".toList)
  unless ["ln", "rn", "rz"].contains alignment do
    throw ("invalid line numbering format: ".toList ++ quoted alignment.toList, true)
  let mark := match given.value? "section-delimiter" with
    | none => ['\\', ':']
    | some [c] => [c, ':']
    | some text => text
  return {
    choices := fun
      | .header => header
      | .body => body
      | .footer => footer
    width := width.toNat
    separator := (given.value? "number-separator").getD ['\t']
    alignment
    first
    step
    joined := joined.toNat
    restarts := !given.has "no-renumber"
    mark }

/-- Writes the lines of its inputs with their numbers. -/
def nl : Program := fun self arguments => do
  match takeApart rules true (arguments.length + 1) arguments with
  | .error text =>
      let all := complaints arguments
      ((if all.isEmpty then [text] else all)).forM (complainAs self)
      pointToHelp self
      return 1
  | .ok given =>
      match styleOf given with
      | .error (problem, offersHelp) =>
          complainAs self problem
          if offersHelp then pointToHelp self
          return 1
      | .ok style =>
          let (inputs, all) ← readInputs self plainVoice (inputNames given.operands)
          let lines := inputs.flatMap fun (_, text) => Octets.lines text
          finish (Octets.unlines (numbered style ⟨.body, style.first, 0⟩ lines)) all

end BlockExtension.Shell.Utility.Numbering
