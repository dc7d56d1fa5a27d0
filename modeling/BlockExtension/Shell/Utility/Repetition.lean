import BlockExtension.Shell.Utility.Input

/-!
# Equal lines

The program that writes one of several equal lines that follow each other, or
all of them, or only those that have or lack equals.
-/

namespace BlockExtension.Shell.Utility.Repetition

open Act

/-! ## Runs -/

def partOf (fields characters : Nat) (width : Option Nat) (folds : Bool) (line : Octets) :
    Octets :=
  let skip (text : Octets) : Octets :=
    (text.dropWhile Octets.isBlank).dropWhile (!Octets.isBlank ·)
  let rest := ((List.replicate fields ()).foldl (fun text _ => skip text) line).drop characters
  let rest := match width with
    | some width => rest.take width
    | none => rest
  if folds then rest.map Char.toUpper else rest

def runs (part : Octets → Octets) : List Octets → List (List Octets)
  | [] => []
  | line :: rest =>
      match runs part rest with
      | (other :: more) :: others =>
          if part other = part line then (line :: other :: more) :: others
          else [line] :: (other :: more) :: others
      | others => [line] :: others

/-! ## What is written -/

/-- Where a mark stands between runs. -/
inductive Separation where
  | never
  | before
  | between
  | after
  | around
  deriving DecidableEq, Repr

/-- Runs with a mark where it stands. -/
def separated (separation : Separation) (mark : Octets) (runs : List Octets) : Octets :=
  match separation with
  | .never => runs.flatten
  | .before => runs.flatMap (mark ++ ·)
  | .between => Octets.joined mark runs
  | .after => runs.flatMap (· ++ mark)
  | .around => if runs.isEmpty then [] else mark ++ Octets.joined mark runs ++ mark

/-- Which lines of a run are written. -/
structure Choice where
  /-- A line without equals is written. -/
  singles : Bool
  /-- One of several equal lines is written. -/
  repeated : Bool
  /-- The other equal lines are written too. -/
  further : Bool
  /-- The number of lines is written. -/
  counted : Bool
  deriving DecidableEq, Repr

/-- The lines of a run that are written. -/
def Choice.of (choice : Choice) (run : List Octets) : List Octets :=
  let count := if choice.counted then
      Octets.padLeft 7 (Octets.ofNat run.length) ++ [' ']
    else []
  match run with
  | [] => []
  | [line] => if choice.singles then [count ++ line] else []
  | line :: _ :: _ =>
      if choice.further then if choice.repeated then run else run.dropLast
      else if choice.repeated then [count ++ line]
      else []

/-! ## Options -/

/-- The words for the places of marks between whole runs. -/
def groupings : List (List String) := [["prepend"], ["append"], ["separate"], ["both"]]

/-- The words for the places of marks between runs of several lines. -/
def delimitings : List (List String) := [["none"], ["prepend"], ["separate"]]

def Separation.ofWord (word : String) : Separation :=
  match word with
  | "prepend" => .before
  | "append" => .after
  | "separate" => .between
  | "both" => .around
  | _ => .never

def digitRules : List OptionRule :=
  "0123456789".toList.map fun c => switch (String.ofList ['-', c]) c

/-- The options. -/
def rules : List OptionRule :=
  [switch "count" 'c', switch "repeated" 'd', ⟨"all-repeated", none, .perhaps⟩,
    switch "-D" 'D', switch "unique" 'u', switch "ignore-case" 'i', setting "skip-fields" 'f',
    setting "skip-chars" 's', setting "check-chars" 'w', switch "zero-terminated" 'z',
    ⟨"group", none, .perhaps⟩] ++ digitRules

def digitsOf (given : Invocation) : Option Nat :=
  Octets.number? (given.options.filterMap fun option =>
    if digitRules.any (·.word = option.word) then option.word.toList.getLast? else none)

def numberOf (given : Invocation) (word what : String) : Except Octets (Option Nat) :=
  match given.value? word with
  | none => .ok none
  | some text =>
      match Octets.number? (text.dropWhile (· = '+')) with
      | some n => .ok (some n)
      | none => .error (text ++ (": invalid number of " ++ what).toList)

def partFor (given : Invocation) : Except Octets (Octets → Octets) := do
  let fields ← numberOf given "skip-fields" "fields to skip"
  let characters ← numberOf given "skip-chars" "bytes to skip"
  let width ← numberOf given "check-chars" "bytes to compare"
  let fields := (fields.orElse fun _ => digitsOf given).getD 0
  return partOf fields (characters.getD 0) width (given.has "ignore-case")

/-- The lines that options ask for, and where marks stand between them. -/
def shapeOf (given : Invocation) : Choice × Separation :=
  let wordOf (option : String) (words : List (List String)) (usual : String) : Separation :=
    match given.value? option with
    | none => .ofWord usual
    | some text => .ofWord ((chosen? words text).getD usual)
  let further := given.has "-D" || given.has "all-repeated"
  let choice : Choice :=
    ⟨!(given.has "repeated" || further), !given.has "unique", further, given.has "count"⟩
  if given.has "group" then
    ({ choice with further := true }, wordOf "group" groupings "separate")
  else (choice, wordOf "all-repeated" delimitings "none")

/-- An option whose value is none of the words it may be. -/
def wrongChoice? (given : Invocation) : Option (String × List (List String) × Octets) :=
  given.options.findSome? fun option =>
    let words := match option.word with
      | "group" => groupings
      | "all-repeated" => delimitings
      | _ => []
    match option.value with
    | none => none
    | some value =>
        if words.isEmpty || (chosen? words value).isSome then none
        else some ("--" ++ option.word, words, value)

/-- What is wrong with options that do not go together. -/
def contradiction? (given : Invocation) : Option String :=
  let further := given.has "-D" || given.has "all-repeated"
  if given.has "group" &&
      (given.has "count" || given.has "repeated" || further || given.has "unique") then
    some "--group is mutually exclusive with -c/-d/-D/-u"
  else if given.has "count" && further then
    some "printing all duplicated lines and repeat counts is meaningless"
  else none

/-! ## The program -/

def withoutSkip (operands : List Octets) : List Octets × Option Octets :=
  let isSkip (operand : Octets) : Bool :=
    operand.head? = some '+' && (Octets.number? (operand.drop 1)).isSome
  (operands.filter (!isSkip ·), ((operands.filter isSkip).getLast?).map (·.drop 1))

def write (self : Octets) (given : Invocation) (operands : List Octets)
    (part : Octets → Octets) : Act Nat := do
  let (text, all) ← readJoined self { wordyVoice with unopened := named } (operands.take 1)
  if !all then return 1
  if let some path := operands[1]?.filter (· ≠ ['-']) then
    match ← openPath path .write with
    | .error error =>
        complainOf self path error
        return 1
    | .ok place => connect 1 (some place)
  let mark := lineEnd given
  let text := if operands[0]? = operands[1]? && operands[0]?.any (· ≠ ['-']) then [] else text
  let (choice, separation) := shapeOf given
  let written := (runs part (linesEndedBy mark text)).map choice.of
  let pieces := (written.filter (!·.isEmpty)).map (endedBy mark)
  finish (separated separation [mark] pieces) true

/-- Writes one of several equal lines that follow each other. -/
def uniq : Program := fun self arguments =>
  withOptions self rules true 1 arguments fun given => do
    if let some (option, words, value) := wrongChoice? given then
      complainOfChoice self option words value
      return 1
    let (operands, skip?) := withoutSkip given.operands
    let given := match skip? with
      | some digits =>
          { given with options := given.options ++ [⟨"skip-chars", some digits⟩] }
      | none => given
    match operands, partFor given with
    | _, .error problem =>
        complainAs self problem
        return 1
    | _ :: _ :: extra :: _, _ => refuseExtra self extra
    | operands, .ok part =>
        match contradiction? given with
        | some problem =>
            complainAs self problem.toList
            pointToHelp self
            return 1
        | none => write self given operands part

end BlockExtension.Shell.Utility.Repetition
