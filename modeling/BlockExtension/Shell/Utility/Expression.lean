import BlockExtension.Shell.Regex
import BlockExtension.Shell.Utility.Input

/-!
# Expressions in arguments

The program that computes with its arguments. Each argument is one operand or
operator of an expression; operators bind in six levels. A value is a text, and
it is a number as well if it is written as one. What a choice leaves out is read
but not computed.
-/

namespace BlockExtension.Shell.Utility.Expression

open Act

/-- Why an expression has no value. -/
inductive Problem where
  | unexpected (argument : Octets)
  | missingAfter (argument : Octets)
  | unclosed (argument : Octets)
  | notClosed (argument : Octets)
  | closing
  | notNumber
  | divisionByZero
  | pattern (problem : Regex.Problem)

/-- The problem in words. -/
def Problem.message : Problem → Octets
  | .unexpected argument => "syntax error: unexpected argument ".toList ++ quoted argument
  | .missingAfter argument => "syntax error: missing argument after ".toList ++ quoted argument
  | .unclosed argument => "syntax error: expecting ')' after ".toList ++ quoted argument
  | .notClosed argument => "syntax error: expecting ')' instead of ".toList ++ quoted argument
  | .closing => "syntax error: unexpected ')'".toList
  | .notNumber => "non-integer argument".toList
  | .divisionByZero => "division by zero".toList
  | .pattern problem => problem.message.toList

/-- The argument read last, and those that are left. -/
structure Reading where
  last : Octets
  rest : List Octets

abbrev Read := StateT Reading (Except Problem)

/-! ## Values -/

def number? : Octets → Option Int
  | '-' :: digits => (Octets.number? digits).map fun n => -(n : Int)
  | digits => (Octets.number? digits).map fun n => (n : Int)

/-- The value counts as nothing: it is empty or zero. -/
def isNull (value : Octets) : Bool :=
  match value with
  | [] => true
  | '-' :: digits => !digits.isEmpty && digits.all (· = '0')
  | digits => digits.all (· = '0')

def truth (holds : Bool) : Octets := if holds then ['1'] else ['0']

/-- What two values have to do with each other: as numbers if both are, else as texts. -/
def comparison (left right : Octets) : Ordering :=
  match number? left, number? right with
  | some a, some b => compare a b
  | _, _ =>
      if left = right then .eq else if Octets.le left right then .lt else .gt

def comparison? (operator : String) : Option (Ordering → Bool) :=
  match operator with
  | "<" => some (·.isLT)
  | "<=" => some (·.isLE)
  | "=" => some (·.isEq)
  | "==" => some (·.isEq)
  | "!=" => some (·.isNe)
  | ">=" => some (·.isGE)
  | ">" => some (·.isGT)
  | _ => none

/-- The value of an operation on numbers. -/
def computed (operator : Char) (left right : Octets) : Except Problem Octets :=
  match number? left, number? right with
  | some a, some b =>
      match operator with
      | '+' => .ok (Octets.ofInt (a + b))
      | '-' => .ok (Octets.ofInt (a - b))
      | '*' => .ok (Octets.ofInt (a * b))
      | '/' => if b = 0 then .error .divisionByZero else .ok (Octets.ofInt (a.tdiv b))
      | _ => if b = 0 then .error .divisionByZero else .ok (Octets.ofInt (a.tmod b))
  | _, _ => .error .notNumber

def hasGroup : Regex → Bool
  | .group .. => true
  | .sequence first second => hasGroup first || hasGroup second
  | .alternative first second => hasGroup first || hasGroup second
  | .repeated body _ _ => hasGroup body
  | _ => false

def matched (text pattern : Octets) : Except Problem Octets :=
  match Regex.ofText false false pattern with
  | .error problem => .error (.pattern problem)
  | .ok regex =>
      let subject : Regex.Subject := ⟨text.toArray, false, false⟩
      match Regex.ends subject regex ⟨0, []⟩ with
      | [] => .ok (if hasGroup regex then [] else ['0'])
      | found :: _ =>
          if hasGroup regex then
            .ok (match found.groups.lookup 1 with
              | some (first, last) => subject.between first last
              | none => [])
          else .ok (Octets.ofNat found.place)

def part (text place length : Octets) : Octets :=
  match number? place, number? length with
  | some place, some length =>
      if place ≤ 0 || length ≤ 0 then []
      else (text.drop (place.toNat - 1)).take length.toNat
  | _, _ => []

/-- The place, counted from one, of the first character of a text that is among some. -/
def indexOf (text characters : Octets) : Octets :=
  match text.findIdx? (characters.contains ·) with
  | some place => Octets.ofNat (place + 1)
  | none => ['0']

/-! ## Operators -/

/-- The next argument, if it is one of some operators; then it has been read. -/
def operator? (operators : List String) : Read (Option String) := do
  let reading ← get
  match reading.rest with
  | argument :: rest =>
      let text := String.ofList argument
      if operators.contains text then
        set (Reading.mk argument rest)
        return some text
      return none
  | [] => return none

def next : Read Octets := do
  let reading ← get
  match reading.rest with
  | argument :: rest =>
      set (Reading.mk argument rest)
      return argument
  | [] => throw (.missingAfter reading.last)

def operand (whole : Bool → Read Octets) (counts : Bool) : Read Octets := do
  let argument ← next
  if argument = [')'] then throw .closing
  if argument ≠ ['('] then return argument
  let value ← whole counts
  let reading ← get
  match reading.rest with
  | [] => throw (.unclosed reading.last)
  | [')'] :: _ =>
      let _ ← next
      return value
  | other :: _ => throw (.notClosed other)

def worded (whole : Bool → Read Octets) (counts : Bool) : (fuel : Nat) → Read Octets
  | 0 => operand whole counts
  | fuel + 1 => do
      match ← operator? ["+", "length", "match", "index", "substr"] with
      | some "+" => next
      | some "length" => return Octets.ofNat (← worded whole counts fuel).length
      | some "match" =>
          let text ← worded whole counts fuel
          let pattern ← worded whole counts fuel
          if counts then matched text pattern else return text
      | some "index" =>
          let text ← worded whole counts fuel
          return indexOf text (← worded whole counts fuel)
      | some "substr" =>
          let text ← worded whole counts fuel
          let place ← worded whole counts fuel
          return part text place (← worded whole counts fuel)
      | _ => operand whole counts

/-- Operands of one level with operators of that level between them, from a value on. -/
def chain (operators : List String) (below : Bool → Read Octets)
    (combine : String → Octets → Octets → Except Problem Octets) (counts : Bool) :
    (fuel : Nat) → Octets → Read Octets
  | 0, left => return left
  | fuel + 1, left => do
      match ← operator? operators with
      | none => return left
      | some operator =>
          let right ← below counts
          let value ← if counts then combine operator left right else pure left
          chain operators below combine counts fuel value

def level (operators : List String) (combine : String → Octets → Octets → Except Problem Octets)
    (fuel : Nat) (below : Bool → Read Octets) (counts : Bool) : Read Octets := do
  chain operators below combine counts fuel (← below counts)

def compute (operator : String) (left right : Octets) : Except Problem Octets :=
  computed (operator.toList.headD '+') left right

def compareBy (operator : String) (left right : Octets) : Except Problem Octets :=
  .ok (truth (((comparison? operator).map fun asked => asked (comparison left right)).getD false))

def choice (operator : String) (leavesOut : Octets → Bool)
    (combine : Octets → Octets → Octets) (below : Bool → Read Octets) (counts : Bool) :
    (fuel : Nat) → Octets → Read Octets
  | 0, left => return left
  | fuel + 1, left => do
      match ← operator? [operator] with
      | none => return left
      | some _ =>
          let right ← below (counts && !leavesOut left)
          choice operator leavesOut combine below counts fuel (combine left right)

def orZero (value : Octets) : Octets := if isNull value then ['0'] else value

/-- A whole expression, nested at most `depth` deep. -/
def whole (fuel : Nat) : (depth : Nat) → (counts : Bool) → Read Octets
  | 0, _ => next
  | depth + 1, counts => do
      let words (counts : Bool) := worded (whole fuel depth) counts fuel
      let matching := level [":"] (fun _ => matched) fuel words
      let factors := level ["*", "/", "%"] compute fuel matching
      let terms := level ["+", "-"] compute fuel factors
      let compared := level ["<", "<=", "=", "==", "!=", ">=", ">"] compareBy fuel terms
      let both (counts : Bool) : Read Octets := do
        choice "&" isNull (fun a b => if isNull a || isNull b then ['0'] else a) compared counts
          fuel (← compared counts)
      choice "|" (!isNull ·) (fun a b => if isNull a then orZero b else a) both counts fuel
        (← both counts)

def value (arguments : List Octets) : Except Problem Octets :=
  let fuel := arguments.length + 1
  match (whole fuel fuel true).run ⟨[], arguments⟩ with
  | .error problem => .error problem
  | .ok (value, ⟨_, []⟩) => .ok value
  | .ok (_, ⟨_, argument :: _⟩) => .error (.unexpected argument)

/-- Computes the value of its arguments; it fails if that counts as nothing. -/
def expr : Program := fun self arguments => do
  let arguments := if arguments.head? = some ['-', '-'] then arguments.drop 1 else arguments
  if arguments.isEmpty then
    complainAs self "missing operand".toList
    pointToHelp self
    return 2
  match value arguments with
  | .error problem =>
      complainAs self problem.message
      return 2
  | .ok value =>
      let _ ← finish (value ++ ['\n']) true
      return if isNull value then 1 else 0

end BlockExtension.Shell.Utility.Expression
