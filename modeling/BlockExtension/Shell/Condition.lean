import BlockExtension.Shell.Expansion
import BlockExtension.Shell.Regex
import BlockExtension.Shell.Utility.Test

/-!
# Conditions

What stands between double brackets. Its words are not cut into fields, and the
word behind an equals sign is a pattern. Of a conjunction or a disjunction no
more is looked at than decides it.
-/

namespace BlockExtension.Shell

/-- A condition. -/
inductive Condition where
  | word (parts : Word)
  | unary (operator : String) (operand : Word)
  | binary (left : Word) (operator : String) (right : Word)
  | negation (body : Condition)
  | both (left right : Condition)
  | either (left right : Condition)

namespace Condition

/-- The text of an operator, or of a word in which nothing is quoted. -/
def markOf : Term → Option String
  | .operator text => some text
  | .word parts => (Word.bare? parts).map String.ofList

def binaryOperators : List String :=
  ["=", "==", "!=", "=~", "<", ">", "-eq", "-ne", "-lt", "-le", "-gt", "-ge", "-nt", "-ot", "-ef"]

def unaryOperators : List String := ["-a", "-o", "-R"]

/-- A condition at the start of some terms, and the terms behind it. -/
abbrev Found := Option (Condition × List Term)

/-- A condition without connectives. -/
def primary (whole : List Term → Found) : (fuel : Nat) → List Term → Found
  | 0, _ => none
  | fuel + 1, terms =>
      match terms with
      | [] => none
      | first :: rest =>
          match markOf first, rest with
          | some "!", rest => do
              let (body, rest) ← primary whole fuel rest
              return (.negation body, rest)
          | some "(", rest => do
              match ← whole rest with
              | (body, close :: rest) => if markOf close = some ")" then some (body, rest) else none
              | _ => none
          | mark, rest =>
              let unary? := mark.filter fun text => unaryOperators.contains text ||
                Utility.Test.kind? true text.toList = some .unary
              match first, rest, unary? with
              | .word left, operator :: .word right :: behind, unary? =>
                  let operator := (markOf operator).getD ""
                  if binaryOperators.contains operator then
                    some (.binary left operator right, behind)
                  else
                    match unary?, rest with
                    | some text, .word operand :: behind => some (.unary text operand, behind)
                    | _, rest => some (.word left, rest)
              | .word _, .word operand :: behind, some text => some (.unary text operand, behind)
              | .word left, rest, _ => some (.word left, rest)
              | .operator _, _, _ => none

/-- Conditions of which all must hold. -/
def conjunction (whole : List Term → Found) : (fuel : Nat) → List Term → Found
  | 0, _ => none
  | fuel + 1, terms => do
      let (left, rest) ← primary whole (terms.length + 1) terms
      match rest with
      | next :: behind =>
          if markOf next = some "&&" then
            let (right, rest) ← conjunction whole fuel behind
            return (.both left right, rest)
          return (left, rest)
      | [] => return (left, [])

/-- Conditions of which one must hold, nested at most `fuel` deep. -/
def disjunction : (fuel : Nat) → List Term → Found
  | 0, _ => none
  | fuel + 1, terms => do
      let (left, rest) ← conjunction (disjunction fuel) (terms.length + 1) terms
      match rest with
      | next :: behind =>
          if markOf next = some "||" then
            let (right, rest) ← disjunction fuel behind
            return (.either left right, rest)
          return (left, rest)
      | [] => return (left, [])

def ofTerms? (terms : List Term) : Option Condition :=
  match disjunction (terms.length + 1) terms with
  | some (condition, []) => some condition
  | _ => none

def compared? (operator : String) (a b : Int64) : Option Bool :=
  match operator with
  | "-eq" => some (a == b)
  | "-ne" => some (a != b)
  | "-lt" => some (a < b)
  | "-le" => some (a ≤ b)
  | "-gt" => some (b < a)
  | "-ge" => some (b ≤ a)
  | _ => none

def expressionText (glyphs : List Glyph) : Octets :=
  (Glyph.marks glyphs).flatMap fun mark =>
    if mark.quoted && !mark.char.isAlphanum && mark.char ≠ '_' then ['\\', mark.char]
    else [mark.char]

def matchName : Octets := "BASH_REMATCH".toList

/--
An expression occurs in a text; what it matches, and what its groups match, goes
into a variable. An expression that cannot be read is an error.
-/
def searched (text expression : Octets) : Act Bool := do
  match Regex.ofText true false expression with
  | .error _ =>
      Act.setStatus 2
      throw .fail
  | .ok regex =>
      let subject : Regex.Subject := ⟨text.toArray, ← Act.isChosen "nocasematch", false⟩
      match regex.find? subject 0 with
      | none =>
          Act.assign matchName (.row [])
          return false
      | some found =>
          let last := found.groups.foldl (fun last group => max last group.1) 0
          let groups := (List.range last).map fun n =>
            match found.groups.lookup (n + 1) with
            | some (first, behind) => subject.between first behind
            | none => []
          Act.assign matchName (.ofTexts (subject.between found.first found.last :: groups))
          return true

def ofWord (operator : String) (word : Octets) : Act Bool := do
  match operator with
  | "-a" => Utility.Test.ofFile "-e" word
  | "-o" => Utility.Test.isOn word
  | "-R" => return (← Act.variableOf? word).any (·.refers)
  | operator => Utility.Test.ofWord operator word

def holds (output : Expansion.Output) : Condition → Act Bool
  | .word parts => return !(← Expansion.text output parts).isEmpty
  | .unary operator operand => do
      ofWord operator (← Expansion.text output operand)
  | .negation body => return !(← holds output body)
  | .both left right => do
      if ← holds output left then holds output right else return false
  | .either left right => do
      if ← holds output left then return true else holds output right
  | .binary left operator right => do
      let text ← Expansion.text output left
      match operator with
      | "=~" => do
          let glyphs ← Expansion.glyphs output Expansion.depth false right
          searched text (expressionText glyphs)
      | "!=" => return !((← Expansion.pattern output true right).accepts text)
      | "=" => return (← Expansion.pattern output true right).accepts text
      | "==" => return (← Expansion.pattern output true right).accepts text
      | operator =>
          let other ← Expansion.text output right
          if (compared? operator 0 0).isSome then
            let a ← Arithmetic.value text
            let b ← Arithmetic.value other
            return (compared? operator a b).getD false
          Utility.Test.ofWords (Utility.Test.shellVoice true) text operator other

end Condition

end BlockExtension.Shell
