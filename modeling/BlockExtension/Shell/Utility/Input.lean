import BlockExtension.Shell.Utility.Options

/-!
# Inputs of programs

Most programs take names of files as operands and read one after the other; a
hyphen, or no operand at all, stands for the standard input. A file that cannot
be opened or read is complained about, and the rest are still read.
-/

namespace BlockExtension.Shell.Utility

open Act

/-- What a program does: it is called by a name, with arguments, and ends with a status. -/
abbrev Program := (self : Octets) → (arguments : List Octets) → Act Nat

/-- What comes of opening and reading a file. -/
inductive Input where
  | content (octets : Octets)
  | unopened (error : Files.OsError)
  | unread (error : Files.OsError)

/-- Opens and reads what an operand names. -/
def inputOf (name : Octets) : Act Input := do
  if name = ['-'] then
    match ← readAll 0 with
    | .ok octets => return .content octets
    | .error error => return .unread error
  match ← readPath name with
  | .ok content => return .content (Octets.ofBytes content)
  | .error .isDirectory => return .unread .isDirectory
  | .error error => return .unopened error

/--
The place from which an operand is read in the file that the standard output goes
to, if it names that file.
-/
def placeInOutput? (name : Octets) : Act (Option Nat) := do
  let input ←
    if name = ['-'] then
      match ← channelOf? 0 with
      | some (_, .file location offset ..) => pure (some (location, offset))
      | _ => pure none
    else pure (((← tree).find (pathOf name)).toOption.map fun found => (found.1, 0))
  match ← channelOf? 1, input with
  | some (_, .file output ..), some (location, place) =>
      return if output = location then some place else none
  | _, _ => return none

def inputNames (operands : List Octets) : List Octets :=
  if operands.isEmpty then [['-']] else operands

/-- How complaints about inputs are put, if not just with the name. -/
structure InputVoice where
  unopened : Octets → Octets
  unread : Octets → Octets

/-- A complaint starts with the name of the file. -/
def plainVoice : InputVoice := ⟨named, named⟩

/-- A complaint says what could not be done. -/
def wordyVoice : InputVoice where
  unopened name := "cannot open ".toList ++ quoted name ++ " for reading".toList
  unread name := "error reading ".toList ++ quoted name

/-- Reads inputs one after the other; tells what they hold and whether all could be read. -/
def readInputs (self : Octets) (voice : InputVoice) :
    List Octets → Act (List (Octets × Octets) × Bool)
  | [] => return ([], true)
  | name :: rest => do
      let refuse (text : Octets) (error : Files.OsError) : Act Unit :=
        complainAs self (text ++ (": " ++ error.wording).toList)
      match ← inputOf name with
      | .content octets =>
          let (more, all) ← readInputs self voice rest
          return ((name, octets) :: more, all)
      | .unopened error =>
          refuse (voice.unopened name) error
          return ((← readInputs self voice rest).1, false)
      | .unread error =>
          refuse (voice.unread name) error
          return ((← readInputs self voice rest).1, false)

def readJoined (self : Octets) (voice : InputVoice) (operands : List Octets) :
    Act (Octets × Bool) := do
  let (inputs, all) ← readInputs self voice (inputNames operands)
  return (inputs.flatMap (·.2), all)

/-- What ends the lines of a program: a line feed or, if that is asked for, a null character. -/
def lineEnd (given : Invocation) : Char := if given.has "zero-terminated" then '\x00' else '\n'

/-- The lines of a text that end in a character; the last one may do without. -/
def linesEndedBy (mark : Char) (text : Octets) : List Octets :=
  if text.isEmpty then []
  else
    let pieces := Octets.cutAt mark text
    if pieces.getLast? = some [] then pieces.dropLast else pieces

def endedBy (mark : Char) (lines : List Octets) : Octets := lines.flatMap (· ++ [mark])

/-- Writes what a program has to say, and tells with which status it ends. -/
def finish (output : Octets) (all : Bool) : Act Nat := do
  put output
  return if all then 0 else 1

def lackOperand (self : Octets) (what : String) (behind : Option Octets) : Act Nat := do
  let place := match behind with
    | some operand => " after ".toList ++ quoted operand
    | none => []
  complainAs self (("missing " ++ what).toList ++ place)
  pointToHelp self
  return 1

/-- Complains about an operand too many. -/
def refuseExtra (self operand : Octets) : Act Nat := do
  complainAs self ("extra operand ".toList ++ quoted operand)
  pointToHelp self
  return 1

def multiplier? (letters : String) : Option Nat :=
  match letters with
  | "" => some 1
  | "b" => some 512
  | "k" => some 1024
  | "K" => some 1024
  | "KiB" => some 1024
  | "kB" => some 1000
  | "KB" => some 1000
  | "M" => some 1048576
  | "MiB" => some 1048576
  | "MB" => some 1000000
  | "G" => some 1073741824
  | "GB" => some 1000000000
  | _ => none

/-- The number that a text is, perhaps with letters behind it that multiply it. -/
def amount? (text : Octets) : Option Nat := do
  let digits := text.takeWhile Char.isDigit
  let n ← if digits.isEmpty && !text.isEmpty then some 1 else Octets.number? digits
  let factor ← multiplier? (String.ofList (text.drop digits.length))
  return n * factor

end BlockExtension.Shell.Utility
