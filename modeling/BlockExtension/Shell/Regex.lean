import BlockExtension.Shell.Pattern

/-!
# Regular expressions

The expressions that programs for text search with, in their basic and their
extended notation. Of the matches that start first the longest is taken; where
that leaves a choice, the parts of the expression take as much as they can from
the first to the last.
-/

namespace BlockExtension.Shell

/-- A description of texts by which parts of them are sought. -/
inductive Regex where
  | empty
  | single (element : Pattern.Element)
  | textStart
  | textEnd
  | lineStart
  | lineEnd
  | wordStart
  | wordEnd
  | wordEdge (wanted : Bool)
  | group (index : Nat) (body : Regex)
  /-- What a group has matched. -/
  | again (index : Nat)
  | sequence (first second : Regex)
  | alternative (first second : Regex)
  | repeated (body : Regex) (least : Nat) (most : Option Nat)
  deriving Repr

namespace Regex

/-! ## Matching -/

/-- How far a match has come, and what its groups have matched: from where to where. -/
structure Match where
  place : Nat
  groups : List (Nat × Nat × Nat)
  deriving DecidableEq, Repr

/-- The text that is matched against. -/
structure Subject where
  text : Array Char
  foldsCase : Bool
  perLine : Bool

def isWordPart (c : Char) : Bool := c.isAlphanum || c = '_'

namespace Subject

def isWordAt (subject : Subject) (place : Nat) : Bool := subject.text[place]?.any isWordPart

def isWordBefore (subject : Subject) (place : Nat) : Bool :=
  place ≠ 0 && subject.isWordAt (place - 1)

def startsLine (subject : Subject) (place : Nat) : Bool :=
  place = 0 || (subject.perLine && subject.text[place - 1]? = some '\n')

def endsLine (subject : Subject) (place : Nat) : Bool :=
  place = subject.text.size || (subject.perLine && subject.text[place]? = some '\n')

def between (subject : Subject) (first last : Nat) : Octets :=
  (subject.text.extract first last).toList

end Subject

/-- An element matches a character; one that is a set of others matches neither case of those. -/
def accepts (foldsCase : Bool) (element : Pattern.Element) (c : Char) : Bool :=
  if !foldsCase then element.accepts c
  else
    match element with
    | .set true _ => element.accepts c.toLower && element.accepts c.toUpper
    | element => element.accepts c.toLower || element.accepts c.toUpper

/-- An element that says what a character is not; where lines end, that is no line feed either. -/
def isOpen : Pattern.Element → Bool
  | .any => true
  | .set negated _ => negated
  | _ => false

/-- An element matches a character of a text. -/
def Subject.accepts (subject : Subject) (element : Pattern.Element) (c : Char) : Bool :=
  Regex.accepts subject.foldsCase element c && !(subject.perLine && c = '\n' && isOpen element)

/-- Matches without those that end where an earlier one ends, the longest first. -/
def distinct (all : List Match) : List Match :=
  let sorted := all.mergeSort fun a b => b.place ≤ a.place
  sorted.foldr (fun found kept =>
    found :: kept.filter (·.place ≠ found.place)) []

/--
What becomes of matches in up to `fuel` rounds, of which the first `least` must
be made. A round that only comes to places where others have been is the last.
-/
def rounds (step : Match → List Match) (least : Nat) (most : Option Nat) :
    (fuel count : Nat) → (current found : List Match) → List Match
  | 0, _, _, found => found
  | fuel + 1, count, current, found =>
      let found := if least ≤ count then found ++ current else found
      if most.any (· ≤ count) then found
      else
        let next := distinct (current.flatMap step)
        let next := if least ≤ count then
            next.filter fun new => !found.any (·.place = new.place)
          else next
        if next.isEmpty then found
        else rounds step least most fuel (count + 1) next found

/-- Where a match may end that has come to a place, the farthest first. -/
def ends (subject : Subject) : Regex → Match → List Match
  | .empty, found => [found]
  | .single element, found =>
      match subject.text[found.place]? with
      | some c =>
          if subject.accepts element c then [{ found with place := found.place + 1 }]
          else []
      | none => []
  | .textStart, found => if found.place = 0 then [found] else []
  | .textEnd, found => if found.place = subject.text.size then [found] else []
  | .lineStart, found => if subject.startsLine found.place then [found] else []
  | .lineEnd, found => if subject.endsLine found.place then [found] else []
  | .wordStart, found =>
      if subject.isWordAt found.place && !subject.isWordBefore found.place then [found] else []
  | .wordEnd, found =>
      if !subject.isWordAt found.place && subject.isWordBefore found.place then [found] else []
  | .wordEdge wanted, found =>
      if (subject.isWordAt found.place != subject.isWordBefore found.place) = wanted then [found]
      else []
  | .group index body, found =>
      (ends subject body found).map fun behind =>
        { behind with
          groups := (index, found.place, behind.place) ::
            behind.groups.filter (·.1 ≠ index) }
  | .again index, found =>
      match found.groups.lookup index with
      | none => []
      | some (first, last) =>
          let meant := subject.between first last
          let there := subject.between found.place (found.place + meant.length)
          let isSame := if subject.foldsCase then
              meant.map Char.toLower == there.map Char.toLower
            else meant == there
          if isSame then [{ found with place := found.place + meant.length }] else []
  | .sequence first second, found =>
      distinct ((ends subject first found).flatMap (ends subject second))
  | .alternative first second, found =>
      distinct (ends subject first found ++ ends subject second found)
  | .repeated body least most, found =>
      distinct
        (rounds (ends subject body) least most (subject.text.size + least + 2) 0 [found] []).reverse

/-- A stretch of a text that an expression matches, and its groups. -/
structure Found where
  first : Nat
  last : Nat
  groups : List (Nat × Nat × Nat)
  deriving DecidableEq, Repr

/-- The first stretch that an expression matches, from one of some places on. -/
def findAt? (regex : Regex) (subject : Subject) : List Nat → Option Found
  | [] => none
  | place :: rest =>
      match ends subject regex ⟨place, []⟩ with
      | found :: _ => some ⟨place, found.place, found.groups⟩
      | [] => findAt? regex subject rest

/-- The first stretch that an expression matches, from a place on. -/
def find? (regex : Regex) (subject : Subject) (start : Nat) : Option Found :=
  findAt? regex subject
    ((List.range (subject.text.size + 1 - start)).map (start + ·))

def occursIn (regex : Regex) (subject : Subject) : Bool := (regex.find? subject 0).isSome

/-! ## Notations -/

/-- Why an expression cannot be read. -/
inductive Problem where
  | unmatchedBracket
  | unmatchedOpening
  | unmatchedClosing
  | unmatchedBrace
  | trailingBackslash
  | badReference
  | badRange
  | badClass
  | badName
  | badBounds
  | nothingRepeated
  | tooLarge
  | bareClass
  | invalid
  deriving DecidableEq, Repr

/-- The problem in words. -/
def Problem.message : Problem → String
  | .unmatchedBracket => "Unmatched [, [^, [:, [., or [="
  | .unmatchedOpening => "Unmatched ( or \\("
  | .unmatchedClosing => "Unmatched ) or \\)"
  | .unmatchedBrace => "Unmatched \\\x7b"
  | .trailingBackslash => "Trailing backslash"
  | .badReference => "Invalid back reference"
  | .badRange => "Invalid range end"
  | .badClass => "Invalid character class name"
  | .badName => "Invalid collation character"
  | .badBounds => "Invalid content of \\\x7b\\\x7d"
  | .nothingRepeated => "Invalid preceding regular expression"
  | .tooLarge => "Regular expression too big"
  | .bareClass => "character class syntax is [[:space:]], not [:space:]"
  | .invalid => "Invalid regular expression"

/-- What is left of a written expression, and how many groups it has had. -/
structure Reading where
  rest : Octets
  groups : Nat
  /-- Marks that nothing has prepared stand for themselves, or are passed over. -/
  isLenient : Bool
  remarks : List String

abbrev Read := StateT Reading (Except Problem)

def goOn (rest : Octets) : Read Unit := modify fun reading => { reading with rest }

/-! ### Sets -/

def upToMark (mark : Char) : Octets → Option (Octets × Octets)
  | c :: d :: rest =>
      if c = mark && d = ']' then some ([], rest)
      else (upToMark mark (d :: rest)).map fun (text, behind) => (c :: text, behind)
  | _ => none

/-- A part of a written set. -/
inductive SetPart where
  | char (c : Char)
  | named (name : String)
  | hyphen

def setPart : Octets → Except Problem (SetPart × Octets)
  | [] => .error .unmatchedBracket
  | '[' :: mark :: rest =>
      if mark = ':' || mark = '.' || mark = '=' then
        match upToMark mark rest with
        | none => .error .unmatchedBracket
        | some (name, behind) =>
            if mark = ':' then
              let name := String.ofList name
              if Pattern.classNames.contains name then .ok (.named name, behind)
              else .error .badClass
            else
              match name with
              | [c] => .ok (.char c, behind)
              | _ => .error .badName
      else .ok (.char '[', mark :: rest)
  | '-' :: rest => .ok (.hyphen, rest)
  | c :: rest => .ok (.char c, rest)

/--
The members of a set up to its closing bracket, and what follows. A hyphen stands
for itself as the first part and as the last one.
-/
def setMembers : (fuel : Nat) → (isFirst : Bool) → Octets →
    Except Problem (List Pattern.Member × Octets)
  | 0, _, _ => .error .unmatchedBracket
  | fuel + 1, isFirst, text => do
      let stopsHere := match text with
        | ']' :: _ => !isFirst
        | _ => false
      if stopsHere then return ([], text.drop 1)
      let (part, behind) ← setPart text
      let withMember (member : Pattern.Member) (rest : Octets) :
          Except Problem (List Pattern.Member × Octets) := do
        let (more, behind) ← setMembers fuel false rest
        return (member :: more, behind)
      let startingAt (c : Char) : Except Problem (List Pattern.Member × Octets) := do
        match behind with
        | '-' :: ']' :: _ => withMember (.range c c) behind
        | '-' :: rest =>
            match ← setPart rest with
            | (.named _, _) => throw .badRange
            | (.char last, behind) =>
                if last < c then throw .badRange
                withMember (.range c last) behind
            | (.hyphen, behind) =>
                if '-' < c then throw .badRange
                withMember (.range c '-') behind
        | _ => withMember (.range c c) behind
      match part with
      | .char c => startingAt c
      | .hyphen =>
          if !isFirst && behind.head? ≠ some ']' then throw .badRange
          startingAt '-'
      | .named name =>
          match behind with
          | '-' :: ']' :: _ => withMember (.named name) behind
          | '-' :: _ => throw .badRange
          | _ => withMember (.named name) behind

def isBareClass (inside : Octets) : Bool :=
  inside.head? = some ':' && inside.getLast? = some ':' && inside.any (· ≠ ':') &&
    !inside.contains '-' && !inside.contains '['

/-- The set that stands behind an opening bracket. -/
def readSet : Read Regex := do
  let text := (← get).rest
  let (negated, inside) := match text with
    | '^' :: rest => (true, rest)
    | rest => (false, rest)
  if inside.isEmpty then throw .invalid
  let (members, behind) ← (setMembers (inside.length + 1) true inside : Except Problem _)
  let written := inside.take (inside.length - behind.length - 1)
  if !negated && isBareClass written then throw .bareClass
  goOn behind
  return .single (.set negated members)

def wordSet (negated : Bool) : Regex :=
  .single (.set negated [.named "alnum", .range '_' '_'])

/-- The characters that are blank, or those that are not. -/
def spaceSet (negated : Bool) : Regex := .single (.set negated [.named "space"])

/-- What a backslash and a letter mean, if they mean the same in both notations. -/
def escape? : Char → Option Regex
  | 'w' => some (wordSet false)
  | 'W' => some (wordSet true)
  | 's' => some (spaceSet false)
  | 'S' => some (spaceSet true)
  | 'b' => some (.wordEdge true)
  | 'B' => some (.wordEdge false)
  | '<' => some .wordStart
  | '>' => some .wordEnd
  | '\x60' => some .textStart
  | '\'' => some .textEnd
  | _ => none

/-! ### Repetitions -/

/-- A number of repetitions as it is written. -/
inductive Bound where
  | missing
  | number (n : Nat)
  | wrong
  deriving DecidableEq, Repr

/-- What stands behind a written number of repetitions. -/
inductive Behind where
  | comma
  | close
  | nothing
  deriving DecidableEq, Repr

def mostRepetitions : Nat := 32767

/-- The number that one goes on to be with another character. -/
def Bound.add (bound : Bound) (c : Char) : Bound :=
  if !c.isDigit then .wrong
  else
    let digit := c.toNat - '0'.toNat
    match bound with
    | .missing => .number digit
    | .number n => .number (min (mostRepetitions + 1) (n * 10 + digit))
    | .wrong => .wrong

/-- A number up to a comma or to closing marks, and what is behind these. -/
def readBound (extended : Bool) : Bound → Octets → Bound × Behind × Octets
  | _, [] => (.wrong, .nothing, [])
  | bound, ',' :: rest => (bound, .comma, rest)
  | bound, ['\x7d'] => if extended then (bound, .close, []) else (.wrong, .nothing, [])
  | bound, c :: d :: rest =>
      if extended && c = '\x7d' then (bound, .close, d :: rest)
      else if !extended && c = '\\' && d = '\x7d' then (bound, .close, rest)
      else readBound extended (bound.add c) (d :: rest)
  | bound, [c] => readBound extended (bound.add c) []

/-- What comes of reading the bounds between braces. -/
inductive Bounds where
  | between (least : Nat) (most : Option Nat) (rest : Octets)
  /-- They are no bounds, so that the brace may stand for itself. -/
  | plain (problem : Problem)
  | refused (problem : Problem)

def readBounds (extended : Bool) (text : Octets) : Bounds :=
  let unreadable (behind : Behind) : Bounds :=
    .plain (if behind = .nothing then .unmatchedBrace else .badBounds)
  let close (least : Nat) (most : Option Nat) (rest : Octets) : Bounds :=
    if most.any (· < least) then .refused .badBounds
    else if mostRepetitions < most.getD least then .refused .tooLarge
    else .between least most rest
  let goingOn (least : Nat) (rest : Octets) : Bounds :=
    match readBound extended .missing rest with
    | (.wrong, behind, _) => unreadable behind
    | (.missing, .close, rest) => close least none rest
    | (.number most, .close, rest) => close least (some most) rest
    | _ => .refused .badBounds
  match readBound extended .missing text with
  | (.wrong, behind, _) => unreadable behind
  | (.missing, .comma, rest) => goingOn 0 rest
  | (.number n, .comma, rest) => goingOn n rest
  | (.number n, .close, rest) => close n (some n) rest
  | _ => .refused .badBounds

/-- A mark that says how often something is repeated. -/
inductive Repetition where
  | bounded (least : Nat) (most : Option Nat) (sign : String)
  | none

def readRepetition (extended : Bool) : Read Repetition := do
  let reading ← get
  let simply (least : Nat) (most : Option Nat) (sign : String) (rest : Octets) :
      Read Repetition := do
    goOn rest
    return .bounded least most sign
  let braces (rest : Octets) : Read Repetition := do
    match readBounds extended rest with
    | .between least most rest => simply least most "\x7b...\x7d" rest
    | .refused problem => throw problem
    | .plain problem =>
        if extended && reading.isLenient then return .none
        throw problem
  match extended, reading.rest with
  | _, '*' :: rest => simply 0 Option.none "*" rest
  | true, '+' :: rest => simply 1 Option.none "+" rest
  | true, '?' :: rest => simply 0 (some 1) "?" rest
  | true, '\x7b' :: rest => braces rest
  | false, '\\' :: '+' :: rest => simply 1 Option.none "\\+" rest
  | false, '\\' :: '?' :: rest => simply 0 (some 1) "\\?" rest
  | false, '\\' :: '\x7b' :: rest => braces rest
  | _, _ => return .none

def readRepetitions (extended : Bool) : (fuel : Nat) → Regex → Read Regex
  | 0, body => return body
  | fuel + 1, body => do
      match ← readRepetition extended with
      | .none => return body
      | .bounded least most _ =>
          let reading ← get
          let isTwice := match reading.rest with
            | '*' :: _ => true
            | '\\' :: '\x7b' :: _ => true
            | _ => false
          if !extended && !reading.isLenient && isTwice then throw .nothingRepeated
          readRepetitions extended fuel (.repeated body least most)

def endsSequence (extended inGroup : Bool) : Octets → Bool
  | [] => true
  | '|' :: _ => extended
  | ')' :: _ => extended && inGroup
  | '\\' :: '|' :: _ => !extended
  | '\\' :: ')' :: _ => !extended
  | _ => false

/-- An expression in parentheses, behind the opening one. -/
def readGroup (extended : Bool) (whole : Read Regex) : Read Regex := do
  let index := (← get).groups + 1
  modify fun reading => { reading with groups := index }
  let body ← whole
  match extended, (← get).rest with
  | true, ')' :: rest => goOn rest
  | false, '\\' :: ')' :: rest => goOn rest
  | _, _ => throw .unmatchedOpening
  return .group index body

/-- An expression without what repeats it; `isFresh` says that a repetition would have nothing. -/
def readAtom (extended inGroup : Bool) (whole : Read Regex) (isFirst isFresh : Bool) :
    Read Regex := do
  let reading ← get
  let marksRepetition := isFresh && !reading.isLenient && match extended, reading.rest with
    | true, c :: _ => "*+?\x7b".toList.contains c
    | false, '\\' :: c :: _ => c = '\x7b'
    | _, _ => false
  if marksRepetition then throw .nothingRepeated
  match reading.rest with
  | [] => return .empty
  | '[' :: rest => do
      goOn rest
      readSet
  | '.' :: rest => do
      goOn rest
      return .single .any
  | '^' :: rest => do
      goOn rest
      return if extended || isFirst then .lineStart else .single (.one '^')
  | '$' :: rest => do
      goOn rest
      return if extended || endsSequence extended inGroup rest then .lineEnd
        else .single (.one '$')
  | '\\' :: c :: rest => do
      goOn rest
      if c = '(' && !extended then readGroup extended whole
      else if '1' ≤ c && c ≤ '9' then
        let index := c.toNat - '0'.toNat
        if (← get).groups < index then throw .badReference
        return .again index
      else return (escape? c).getD (.single (.one c))
  | ['\\'] => throw .trailingBackslash
  | '(' :: rest => do
      goOn rest
      if extended then readGroup extended whole else return .single (.one '(')
  | c :: rest => do
      goOn rest
      return .single (.one c)

def isPlace : Regex → Bool
  | .textStart => true
  | .textEnd => true
  | .lineStart => true
  | .lineEnd => true
  | .wordStart => true
  | .wordEnd => true
  | .wordEdge _ => true
  | _ => false

def passesRepetition (extended : Bool) : Read Bool := do
  if !extended || !(← get).isLenient then return false
  match ← readRepetition extended with
  | .none => return false
  | .bounded _ _ sign =>
      modify fun reading =>
        { reading with remarks := (sign ++ " at start of expression") :: reading.remarks }
      return true

/-- Expressions one behind the other. -/
def readSequence (extended inGroup : Bool) (whole : Read Regex) :
    (fuel : Nat) → (isFirst isFresh : Bool) → Read Regex
  | 0, _, _ => return .empty
  | fuel + 1, isFirst, isFresh => do
      let text := (← get).rest
      if endsSequence extended inGroup text then
        match text with
        | '\\' :: ')' :: _ => if !inGroup then throw .unmatchedClosing
        | _ => pure ()
        return .empty
      match extended, text with
      | true, ')' :: rest => do
          unless (← get).isLenient do throw .unmatchedClosing
          goOn rest
          return .sequence (.single (.one ')'))
            (← readSequence extended inGroup whole fuel false false)
      | _, _ =>
          let passes ← if isFresh then passesRepetition extended else pure false
          if passes then return ← readSequence extended inGroup whole fuel isFirst isFresh
          let atom ← readAtom extended inGroup whole isFirst isFresh
          let reading ← get
          let staysFresh := if reading.isLenient then atom matches .lineStart else isPlace atom
          let atom ← if staysFresh then pure atom
            else readRepetitions extended (reading.rest.length + 1) atom
          return .sequence atom (← readSequence extended inGroup whole fuel false staysFresh)

/-- A whole expression, or one in parentheses, nested at most `fuel` deep. -/
def readWhole (extended : Bool) : (fuel : Nat) → (inGroup : Bool) → Read Regex
  | 0, _ => throw .unmatchedOpening
  | fuel + 1, inGroup => do
      let text := (← get).rest
      let first ← readSequence extended inGroup (readWhole extended fuel true) (text.length + 1)
        true true
      match extended, (← get).rest with
      | true, '|' :: rest => do
          goOn rest
          return .alternative first (← readWhole extended fuel inGroup)
      | false, '\\' :: '|' :: rest => do
          goOn rest
          return .alternative first (← readWhole extended fuel inGroup)
      | _, _ => return first

/--
The expression that a text writes, and what is odd about it. In a lenient reading
marks that nothing has prepared stand for themselves, or are passed over.
-/
def readText (extended lenient : Bool) (text : Octets) :
    Except Problem (Regex × List String) :=
  match (readWhole extended (text.length + 2) false).run ⟨text, 0, lenient, []⟩ with
  | .ok (regex, reading) => .ok (regex, reading.remarks.reverse)
  | .error problem => .error problem

def ofText (extended lenient : Bool) (text : Octets) : Except Problem Regex :=
  (readText extended lenient text).map (·.1)

/-- The expression that matches a text and nothing else. -/
def ofPlain (text : Octets) : Regex :=
  text.foldr (fun c rest => .sequence (.single (.one c)) rest) .empty

end Regex

end BlockExtension.Shell
