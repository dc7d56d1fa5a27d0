import BlockExtension.Shell.Octets

/-!
# Expressions that are tried in order

Regular expressions whose alternatives are tried one after the other: the first
way to match counts, whether or not it is the longest. Where a choice turns out
wrong the next one is tried, unless the expression says that choices are final.
-/

namespace BlockExtension.Shell.Ordered

/-! ## Expressions -/

/-- A place in a text that is matched without any character. -/
inductive Place where
  | textStart
  | textEnd
  /-- The end of the text, or of the line before a line feed that ends the text. -/
  | lastLineEnd
  | lineStart
  | lineEnd
  | wordEdge
  | noWordEdge
  | searchStart
  deriving DecidableEq, Repr

/-- How many rounds of a repetition are tried first. -/
inductive Manner where
  /-- As many as possible. -/
  | greedy
  /-- As few as possible. -/
  | modest
  /-- As many as possible, and no others. -/
  | final
  deriving DecidableEq, Repr

abbrev Characters := List (Char × Char)

/-- A description of texts. -/
inductive Expression where
  | empty
  | never
  | characters (ranges : Characters)
  | place (place : Place)
  | group (index : Nat) (body : Expression)
  /-- What a group has matched, perhaps in the other case. -/
  | again (index : Nat) (foldsCase : Bool)
  | sequence (first second : Expression)
  | alternative (first second : Expression)
  | repeated (body : Expression) (least : Nat) (most : Option Nat) (manner : Manner)
  /-- The first way to match is the only one. -/
  | atomic (body : Expression)
  /-- What follows does or does not match. -/
  | ahead (wanted : Bool) (body : Expression)
  /-- What stands before, in one of some lengths, does or does not match. -/
  | behind (wanted : Bool) (lengths : List Nat) (body : Expression)
  /-- One or another, as a group has matched or not. -/
  | choice (index : Nat) (yes no : Expression)
  /-- One or another, as something matches here or not. -/
  | test (condition yes no : Expression)
  /-- The description of a group once more. -/
  | call (index : Nat)
  /-- The match is taken to start here. -/
  | keep
  deriving DecidableEq, Repr

/-! ## Matching -/

/-- How far a match has come, where it starts, and what groups have matched. -/
structure State where
  place : Nat
  start : Nat
  groups : List (Nat × Nat × Nat)
  deriving DecidableEq, Repr

/-- The text that is matched against, and where the search in it has started. -/
structure Subject where
  text : Array Char
  origin : Nat

/-- What is to be done with a state from which the rest has yet to match. -/
abbrev Goal := State → Option State

/-- A character is in one of some ranges. -/
def isAmong (ranges : Characters) (c : Char) : Bool :=
  ranges.any fun (first, last) => first ≤ c && c ≤ last

def isWordPart (c : Char) : Bool := c.isAlphanum || c = '_'

namespace Subject

def isWordAt (subject : Subject) (place : Nat) : Bool := subject.text[place]?.any isWordPart

/-- A word starts or ends at a place. -/
def isEdge (subject : Subject) (place : Nat) : Bool :=
  (place ≠ 0 && subject.isWordAt (place - 1)) != subject.isWordAt place

/-- A place is of a kind. -/
def isAt (subject : Subject) (place : Nat) : Place → Bool
  | .textStart => place = 0
  | .textEnd => place = subject.text.size
  | .lastLineEnd =>
      place = subject.text.size ||
        (place + 1 = subject.text.size && subject.text[place]? = some '\n')
  | .lineStart =>
      place = 0 || (place < subject.text.size && subject.text[place - 1]? = some '\n')
  | .lineEnd => place = subject.text.size || subject.text[place]? = some '\n'
  | .wordEdge => subject.isEdge place
  | .noWordEdge => !subject.isEdge place
  | .searchStart => place = subject.origin

/-- The text from one place to another stands at a third one. -/
def repeats (subject : Subject) (foldsCase : Bool) (first last place : Nat) : Bool :=
  (List.range (last - first)).all fun i =>
    match subject.text[first + i]?, subject.text[place + i]? with
    | some a, some b => a = b || (foldsCase && a.toLower = b.toLower)
    | _, _ => false

end Subject

/--
Rounds of a repetition, up to `fuel` of them. A round beyond those that must be
made that comes to nothing new is the last.
-/
def rounds (step : Goal → Goal) (least : Nat) (most : Option Nat) (manner : Manner) (goal : Goal) :
    (fuel count : Nat) → Goal
  | 0, count, state => if least ≤ count then goal state else none
  | fuel + 1, count, state =>
      let once : Unit → Option State := fun _ =>
        if most.any (· ≤ count) then none
        else
          step (fun next =>
            if next.place = state.place && least ≤ count then goal next
            else rounds step least most manner goal fuel (count + 1) next) state
      if count < least then once ()
      else if manner = .modest then (goal state).orElse once
      else (once ()).orElse fun _ => goal state

/-- Matches an expression, and goes on to a goal; `call` is how groups are called. -/
def run (subject : Subject) (call : Nat → Goal → Goal) : Expression → Goal → Goal
  | .empty, goal, state => goal state
  | .never, _, _ => none
  | .characters ranges, goal, state =>
      match subject.text[state.place]? with
      | some c =>
          if isAmong ranges c then goal { state with place := state.place + 1 } else none
      | none => none
  | .place place, goal, state => if subject.isAt state.place place then goal state else none
  | .group index body, goal, state =>
      run subject call body (fun next =>
        let groups := (index, state.place, next.place) :: next.groups.filter (·.1 ≠ index)
        goal { next with groups }) state
  | .again index foldsCase, goal, state =>
      match state.groups.lookup index with
      | none => none
      | some (first, last) =>
          if subject.repeats foldsCase first last state.place then
            goal { state with place := state.place + (last - first) }
          else none
  | .sequence first second, goal, state =>
      run subject call first (run subject call second goal) state
  | .alternative first second, goal, state =>
      (run subject call first goal state).orElse fun _ => run subject call second goal state
  | .repeated body least most manner, goal, state =>
      let fuel := subject.text.size + least + 1
      let step := run subject call body
      match manner with
      | .final =>
          match rounds step least most .greedy some fuel 0 state with
          | some next => goal next
          | none => none
      | manner => rounds step least most manner goal fuel 0 state
  | .atomic body, goal, state =>
      match run subject call body some state with
      | some next => goal next
      | none => none
  | .ahead wanted body, goal, state =>
      match run subject call body some state with
      | some next => if wanted then goal { state with groups := next.groups } else none
      | none => if wanted then none else goal state
  | .behind wanted lengths body, goal, state =>
      let found := lengths.findSome? fun length =>
        if state.place < length then none
        else
          run subject call body (fun next => if next.place = state.place then some next else none)
            { state with place := state.place - length }
      match found with
      | some next => if wanted then goal { state with groups := next.groups } else none
      | none => if wanted then none else goal state
  | .choice index yes no, goal, state =>
      if (state.groups.lookup index).isSome then run subject call yes goal state
      else run subject call no goal state
  | .test condition yes no, goal, state =>
      if (run subject call condition some state).isSome then run subject call yes goal state
      else run subject call no goal state
  | .call index, goal, state => call index goal state
  | .keep, goal, state => goal { state with start := state.place }

/-! ## Calls -/

def groupIn? (index : Nat) : Expression → Option Expression
  | .group other body => if other = index then some body else groupIn? index body
  | .sequence first second => (groupIn? index first).orElse fun _ => groupIn? index second
  | .alternative first second => (groupIn? index first).orElse fun _ => groupIn? index second
  | .repeated body _ _ _ => groupIn? index body
  | .atomic body => groupIn? index body
  | .ahead _ body => groupIn? index body
  | .behind _ _ body => groupIn? index body
  | .choice _ yes no => (groupIn? index yes).orElse fun _ => groupIn? index no
  | .test condition yes no =>
      (groupIn? index condition).orElse fun _ =>
        (groupIn? index yes).orElse fun _ => groupIn? index no
  | _ => none

/-- Matches an expression in which groups of a whole one are called up to so deep. -/
def runWithin (subject : Subject) (whole : Expression) : (depth : Nat) → Expression → Goal → Goal
  | 0, expression => run subject (fun _ _ _ => none) expression
  | depth + 1, expression =>
      run subject (fun index goal state =>
        let called := if index = 0 then some whole else groupIn? index whole
        match called with
        | none => none
        | some body =>
            runWithin subject whole depth body
              (fun next => goal { next with groups := state.groups }) state) expression

def mostCalls : Nat := 250

/-- The first match that starts at one of some places. -/
def search (subject : Subject) (expression : Expression) : List Nat → Option State
  | [] => none
  | place :: rest =>
      match runWithin subject expression mostCalls expression some ⟨place, place, []⟩ with
      | some found => some found
      | none => search subject expression rest

/-- The first match in a text from a place on. -/
def find? (expression : Expression) (text : Array Char) (start : Nat) : Option State :=
  search ⟨text, start⟩ expression ((List.range (text.size + 1 - start)).map (start + ·))

end BlockExtension.Shell.Ordered
