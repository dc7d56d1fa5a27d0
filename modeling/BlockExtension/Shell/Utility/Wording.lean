import BlockExtension.Shell.Utility.Entries
import BlockExtension.Shell.Utility.Print
import BlockExtension.Shell.Utility.Test

/-!
# Programs that put words together

The programs that write their arguments, or make texts of them, and the one that
only says whether something holds of them. A shell has some of them as its own;
as programs they put their complaints in another way.
-/

namespace BlockExtension.Shell.Utility

open Act

namespace Wording

/-! ## Arguments as they are -/

def echo : Program := fun _ arguments => finish (Print.plainEcho .hexadecimal arguments) true

/-- Writes its arguments as the first of them says. -/
def printf : Program := fun self arguments => do
  match if arguments.head? = some ['-', '-'] then arguments.drop 1 else arguments with
  | [] => lackOperand self "operand" none
  | format :: rest =>
      let (result, meaningless) := Print.format Print.programVoice format rest
      let status ← finish result.written true
      result.complaints.forM (complainAs self)
      if meaningless then return 1
      if let unused :: _ := if result.stopped then [] else result.arguments then
        complainAs self
          ("warning: ignoring excess arguments, starting with ".toList ++ quoted unused)
      return if result.failed then 1 else status

/-- How many lines are written without an end, more than any reader takes. -/
def endless : Nat := 20000

/-- Writes its arguments again and again, as long as they are read. -/
def yes : Program := fun self arguments =>
  withOptions self [] true 1 arguments fun given => do
    let words := if given.operands.isEmpty then [['y']] else given.operands
    let line := Octets.joined [' '] words ++ ['\n']
    finish (List.replicate endless line).flatten true

/-! ## Parts of paths -/

def withoutSuffix (suffix name : Octets) : Octets :=
  match Octets.behind? suffix.reverse name.reverse with
  | none => name
  | some rest => if rest.isEmpty then name else rest.reverse

/-- What ends each of the texts that are written. -/
def lineEnd (given : Invocation) : Octets := if given.has "zero" then ['\x00'] else ['\n']

/-- Writes the last names of paths. -/
def basename : Program := fun self arguments =>
  withOptions self [switch "multiple" 'a', setting "suffix" 's', switch "zero" 'z'] false 1
      arguments fun given => do
    let several := given.has "multiple" || given.has "suffix"
    match given.operands with
    | [] => lackOperand self "operand" none
    | path :: more =>
        if let extra :: _ := if several then [] else more.drop 1 then
          return ← refuseExtra self extra
        let suffix := if several then (given.value? "suffix").getD [] else more.headD []
        let paths := if several then path :: more else [path]
        finish (paths.flatMap fun path =>
          let name := if path.isEmpty then [] else Entries.lastName path
          (if name = ['/'] then name else withoutSuffix suffix name) ++ lineEnd given) true

/-- Writes the paths of the directories that paths are in. -/
def dirname : Program := fun self arguments =>
  withOptions self [switch "zero" 'z'] true 1 arguments fun given => do
    if given.operands.isEmpty then return ← lackOperand self "operand" none
    finish (given.operands.flatMap fun path => Entries.parent path ++ lineEnd given) true

/-! ## Copies -/

def openAll (self : Octets) (access : Access) :
    List Octets → Act (List (Octets × Nat) × Bool)
  | [] => return ([], true)
  | path :: rest => do
      match ← openPath path access with
      | .error error =>
          complainOf self path error
          return ((← openAll self access rest).1, false)
      | .ok place =>
          let (places, all) ← openAll self access rest
          return ((path, place) :: places, all)

/-- Writes what it reads, and to files as well. -/
def tee : Program := fun self arguments =>
  withOptions self
      [switch "append" 'a', switch "ignore-interrupts" 'i', switch "-p" 'p',
        ⟨"output-error", none, .perhaps⟩] true 1 arguments fun given => do
    let access := if given.has "append" then Access.append else .write
    let (places, all) ← openAll self access given.operands
    let text := match ← readAll 0 with
      | .ok text => text
      | .error _ => []
    let status ← finish text true
    let fine ← places.mapM fun (path, place) => do
      match ← writeAt place text with
      | none => return true
      | some error =>
          complainOf self path error
          return false
    return if all && fine.all id then status else 1

end Wording

/-! ## Whether something holds -/

namespace Assertion

/-- Complains, and gives up with the status of a test that has no meaning. -/
def refuse {α : Type} (self text : Octets) : Act α := do
  complainAs self text
  setStatus 2
  throw .quit

/-- Complaints of a program. -/
def voice (self : Octets) : Test.Voice where
  extended := true
  refuse word _ := refuse self ("invalid integer ".toList ++ quoted (word.getD []))

def isBinary (word : Octets) : Bool :=
  Test.kind? true word = some .binary

/-- Whether something holds of words, and the words behind. -/
abbrev Answer := Act (Bool × List Octets)

def lack {α : Type} (self : Octets) (all : List Octets) : Act α :=
  refuse self ("missing argument after ".toList ++ quoted (all.getLast?.getD []))

/-- What an operator says of one word. -/
def ofOne (self operator word : Octets) : Act Bool := do
  if Test.kind? true operator = some .unary then Test.ofWord (String.ofList operator) word
  else refuse self (quoted operator ++ ": unary operator expected".toList)

def ofTwo (self left operator right : Octets) : Act Bool :=
  Test.ofWords (voice self) left (String.ofList operator) right

def looksUnary (word : Octets) : Bool := word.length = 2 && word.head? = some '-'

/-- What an expression says of words, nested at most `fuel` deep. -/
def term (self : Octets) (all : List Octets) (several : Nat → List Octets → Answer) :
    (fuel : Nat) → List Octets → Answer
  | 0, words => return (false, words)
  | fuel + 1, words => do
      match words with
      | [] => lack self all
      | ['!'] :: rest =>
          let (holds, rest) ← term self all several fuel rest
          return (!holds, rest)
      | ['('] :: rest =>
          if rest.isEmpty then lack self all
          let inner := (rest.takeWhile (· ≠ [')'])).length
          let inner := if 4 < inner then rest.length else max inner 1
          let (holds, behind) ← several inner rest
          match behind with
          | [')'] :: behind => return (holds, behind)
          | [] => refuse self "')' expected".toList
          | found :: _ => refuse self ("')' expected, found ".toList ++ quoted found)
      | left :: operator :: right :: rest =>
          if isBinary operator then return (← ofTwo self left operator right, rest)
          if looksUnary left then return (← ofOne self left operator, right :: rest)
          return (!left.isEmpty, operator :: right :: rest)
      | [operator, word] =>
          if looksUnary operator then return (← ofOne self operator word, [])
          return (!operator.isEmpty, [word])
      | [word] =>
          if looksUnary word then lack self all
          return (!word.isEmpty, [])

def connected (connective : Octets) (combine : Bool → Bool → Bool)
    (below : List Octets → Answer) : (fuel : Nat) → Bool × List Octets → Answer
  | 0, answer => return answer
  | fuel + 1, (holds, words) => do
      match words with
      | word :: rest =>
          if word ≠ connective then return (holds, words)
          let (also, rest) ← below rest
          connected connective combine below fuel (combine holds also, rest)
      | [] => return (holds, [])

/-- What a number of words say, nested at most `fuel` deep. -/
def several (self : Octets) (all : List Octets) : (fuel count : Nat) → List Octets → Answer
  | 0, _, words => return (false, words)
  | fuel + 1, count, words => do
      let one := term self all (several self all fuel) (words.length + 1)
      let both (words : List Octets) : Answer := do
        connected ['-', 'a'] (· && ·) one words.length (← one words)
      let whole : Answer := do
        connected ['-', 'o'] (· || ·) both words.length (← both words)
      match count, words with
      | 1, word :: rest => return (!word.isEmpty, rest)
      | 2, operator :: word :: rest =>
          if operator = ['!'] then return (word.isEmpty, rest)
          if looksUnary operator then return (← ofOne self operator word, rest)
          lack self all
      | 3, left :: operator :: right :: rest =>
          if isBinary operator then return (← ofTwo self left operator right, rest)
          if left = ['!'] then
            let (holds, rest) ← several self all fuel 2 (operator :: right :: rest)
            return (!holds, rest)
          if left = ['('] && right = [')'] then return (!operator.isEmpty, rest)
          if operator = ['-', 'a'] || operator = ['-', 'o'] then return ← whole
          refuse self (quoted operator ++ ": binary operator expected".toList)
      | 4, first :: second :: third :: fourth :: rest =>
          if first = ['!'] then
            let (holds, rest) ← several self all fuel 3 (second :: third :: fourth :: rest)
            return (!holds, rest)
          if first = ['('] && fourth = [')'] then
            let (holds, _) ← several self all fuel 2 [second, third]
            return (holds, rest)
          whole
      | _, _ => whole

/-- Says whether something holds; under the name of a bracket it wants a closing one. -/
def test (bracketed : Bool) : Program := fun self arguments => do
  if bracketed && arguments.getLast? ≠ some [']'] then
    refuse self "missing ']'".toList
  let words := if bracketed then arguments.dropLast else arguments
  if words.isEmpty then return 1
  let (holds, rest) ← several self words (words.length + 2) words.length words
  if let extra :: _ := rest then refuse self ("extra argument ".toList ++ quoted extra)
  return if holds then 0 else 1

end Assertion

end BlockExtension.Shell.Utility
