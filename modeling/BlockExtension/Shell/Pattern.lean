import BlockExtension.Shell.Octets

/-!
# Patterns

Patterns describe texts: a question mark stands for any character, an asterisk
for any text, and brackets for one character of a set. They choose files by
name, cases by subject, and ends to be taken off a value. A character that is
quoted stands for itself. Where groups are in use, a sign and a parenthesis open
a choice between patterns, and the sign says how often one of them may occur.
-/

namespace BlockExtension.Shell

/-- A member of a set of characters. -/
inductive Pattern.Member where
  | range (first last : Char)
  | named (name : String)
  deriving DecidableEq, Repr

/-- An element of a pattern. -/
inductive Pattern.Element where
  | one (c : Char)
  | any
  | many
  | set (negated : Bool) (members : List Pattern.Member)
  /-- Patterns, one of which occurs as often as a sign says. -/
  | group (sign : Char) (choices : List (List Pattern.Element))
  deriving Repr

/-- A description of texts. -/
abbrev Pattern := List Pattern.Element

namespace Pattern

def isOfClass (name : String) (c : Char) : Bool :=
  let graphic := '!' ≤ c && c ≤ '~'
  match name with
  | "alpha" => c.isAlpha
  | "digit" => c.isDigit
  | "alnum" => c.isAlphanum
  | "upper" => c.isUpper
  | "lower" => c.isLower
  | "space" => Octets.isSpace c
  | "blank" => Octets.isBlank c
  | "punct" => graphic && !c.isAlphanum
  | "print" => graphic || c = ' '
  | "graph" => graphic
  | "cntrl" => c < ' ' || c = '\x7f'
  | "xdigit" => c.isDigit || ('a' ≤ c && c ≤ 'f') || ('A' ≤ c && c ≤ 'F')
  | _ => false

def classNames : List String :=
  ["alpha", "digit", "alnum", "upper", "lower", "space", "blank", "punct", "print", "graph",
    "cntrl", "xdigit"]

def Member.contains (member : Member) (c : Char) : Bool :=
  match member with
  | .range first last => first ≤ c && c ≤ last
  | .named name => isOfClass name c

/-- An element that stands for one character matches this one. -/
def Element.accepts (element : Element) (c : Char) : Bool :=
  match element with
  | .one d => d = c
  | .any => true
  | .many => true
  | .set negated members => members.any (·.contains c) != negated
  | .group .. => false

def ends : Octets → List Octets
  | [] => [[]]
  | c :: rest => (c :: rest) :: ends rest

def distinctEnds (found : List Octets) : List Octets :=
  (found.foldl (fun kept text =>
    if kept.any (·.length = text.length) then kept else text :: kept) []).reverse

/-- What may be left of texts behind any number of steps, each of which takes something. -/
def afterAll (step : Octets → List Octets) : (fuel : Nat) → List Octets → List Octets
  | 0, texts => texts
  | fuel + 1, texts =>
      let shorter := texts.flatMap fun text =>
        (step text).filter fun left => left.length < text.length
      if shorter.isEmpty then texts
      else distinctEnds (texts ++ afterAll step fuel (distinctEnds shorter))

/-- What may be left of a text behind a group; `step` is what one of its choices leaves. -/
def afterGroup (sign : Char) (step : Octets → List Octets) (text : Octets) : List Octets :=
  match sign with
  | '?' => distinctEnds (text :: step text)
  | '@' => distinctEnds (step text)
  | '*' => afterAll step text.length [text]
  | '+' => afterAll step text.length (distinctEnds (step text))
  | _ =>
      let taken := step text
      (ends text).filter fun left => !taken.any (·.length = left.length)

/-- What may be left of a text behind a pattern, nested at most `fuel` deep. -/
def leftovers : (fuel : Nat) → Pattern → Octets → List Octets
  | 0, _, _ => []
  | _, [], text => [text]
  | fuel + 1, .many :: rest, text =>
      distinctEnds ((ends text).flatMap (leftovers fuel rest))
  | fuel + 1, .group sign choices :: rest, text =>
      let step (text : Octets) : List Octets :=
        choices.flatMap fun choice => leftovers fuel choice text
      distinctEnds ((afterGroup sign step text).flatMap (leftovers fuel rest))
  | _, _, [] => []
  | fuel + 1, element :: rest, c :: text =>
      if element.accepts c then leftovers fuel rest text else []

def groupDepth : Nat := 1000

/-- A text is as a pattern describes it. -/
def accepts : Pattern → Octets → Bool
  | [], text => text.isEmpty
  | .many :: rest, [] => accepts rest []
  | .many :: rest, c :: text => accepts rest (c :: text) || accepts (.many :: rest) text
  | .group sign choices :: rest, text =>
      let step (text : Octets) : List Octets :=
        choices.flatMap fun choice => leftovers groupDepth choice text
      (afterGroup sign step text).any fun left => accepts rest left
  | _ :: _, [] => false
  | element :: rest, c :: text => element.accepts c && accepts rest text
termination_by pattern text => (pattern.length, text.length)

/-! ## Reading patterns -/

/-- A character of a written pattern; one that is quoted stands for itself. -/
structure Mark where
  char : Char
  quoted : Bool
  deriving DecidableEq, Repr

def className? : List Mark → Option (String × List Mark)
  | ⟨'[', false⟩ :: ⟨':', false⟩ :: rest =>
      let name := rest.takeWhile (·.char ≠ ':')
      match rest.drop name.length with
      | ⟨':', false⟩ :: ⟨']', false⟩ :: behind =>
          some (String.ofList (name.map (·.char)), behind)
      | _ => none
  | _ => none

/-- The members of a set up to its closing bracket, and what follows; none if it has no end. -/
def members? : (fuel : Nat) → (first : Bool) → List Mark → Option (List Member × List Mark)
  | 0, _, _ => none
  | _, _, [] => none
  | fuel + 1, first, mark :: rest =>
      if mark = ⟨']', false⟩ && !first then some ([], rest)
      else
        match className? (mark :: rest) with
        | some (name, behind) =>
            (members? fuel false behind).map fun (more, behind) => (.named name :: more, behind)
        | none =>
            let (mark, rest) :=
              match mark, rest with
              | ⟨'\\', false⟩, next :: rest => (next, rest)
              | mark, rest => (mark, rest)
            match rest with
            | ⟨'-', false⟩ :: last :: behind =>
                if last = ⟨']', false⟩ then
                  (members? fuel false rest).map fun (more, behind) =>
                    (.range mark.char mark.char :: more, behind)
                else
                  (members? fuel false behind).map fun (more, behind) =>
                    (.range mark.char last.char :: more, behind)
            | rest =>
                (members? fuel false rest).map fun (more, behind) =>
                  (.range mark.char mark.char :: more, behind)

/-- The set that opens a written pattern, behind its bracket. -/
def set? (marks : List Mark) : Option (Element × List Mark) :=
  let (negated, rest) :=
    match marks with
    | ⟨'!', false⟩ :: rest => (true, rest)
    | ⟨'^', false⟩ :: rest => (true, rest)
    | rest => (false, rest)
  (members? (rest.length + 1) true rest).map fun (members, behind) =>
    (.set negated members, behind)

def isGroupSign (c : Char) : Bool := c = '?' || c = '*' || c = '+' || c = '@' || c = '!'

def choices? : (depth : Nat) → (current : List Mark) → List Mark →
    Option (List (List Mark) × List Mark)
  | _, _, [] => none
  | 0, current, ⟨')', false⟩ :: rest => some ([current.reverse], rest)
  | 0, current, ⟨'|', false⟩ :: rest =>
      (choices? 0 [] rest).map fun (more, behind) => (current.reverse :: more, behind)
  | depth + 1, current, ⟨')', false⟩ :: rest => choices? depth (⟨')', false⟩ :: current) rest
  | depth, current, ⟨'(', false⟩ :: rest => choices? (depth + 1) (⟨'(', false⟩ :: current) rest
  | depth, current, mark :: rest => choices? depth (mark :: current) rest

def group? (groups : Bool) : List Mark → Option (Char × List (List Mark) × List Mark)
  | ⟨sign, false⟩ :: ⟨'(', false⟩ :: rest =>
      if groups && isGroupSign sign then
        (choices? 0 [] rest).map fun (found, behind) => (sign, found, behind)
      else none
  | _ => none

/-- The pattern that is written; a bracket without an end stands for itself. -/
def read (groups : Bool) : (fuel : Nat) → List Mark → Pattern
  | 0, _ => []
  | _, [] => []
  | fuel + 1, mark :: rest =>
      match group? groups (mark :: rest) with
      | some (sign, found, behind) =>
          .group sign (found.map (read groups fuel)) :: read groups fuel behind
      | none =>
          match mark, rest with
          | ⟨c, true⟩, rest => .one c :: read groups fuel rest
          | ⟨'*', false⟩, rest => .many :: read groups fuel rest
          | ⟨'?', false⟩, rest => .any :: read groups fuel rest
          | ⟨'\\', false⟩, next :: rest => .one next.char :: read groups fuel rest
          | ⟨'[', false⟩, rest =>
              match set? rest with
              | some (element, behind) => element :: read groups fuel behind
              | none => .one '[' :: read groups fuel rest
          | ⟨c, false⟩, rest => .one c :: read groups fuel rest

def ofMarks (groups : Bool) (marks : List Mark) : Pattern := read groups (marks.length + 1) marks

def otherCase (c : Char) : Char := if c.isUpper then c.toLower else c.toUpper

def Member.caseless : Member → List Member
  | .range first last =>
      let own := Member.range first last
      if first.isAlpha && last.isAlpha then [own, .range (otherCase first) (otherCase last)]
      else [own]
  | .named "upper" => [.named "alpha"]
  | .named "lower" => [.named "alpha"]
  | member => [member]

/-- A pattern for which capital and small letters are the same. -/
def caseless : (fuel : Nat) → Pattern → Pattern
  | 0, pattern => pattern
  | fuel + 1, pattern => pattern.map fun
      | .one c => .set false (Member.caseless (.range c c))
      | .set negated members => .set negated (members.flatMap Member.caseless)
      | .group sign choices => .group sign (choices.map (caseless fuel))
      | element => element

/-- A written pattern, in which a backslash takes the meaning from what follows it. -/
def marksOf : Octets → List Mark
  | '\\' :: c :: rest => ⟨c, true⟩ :: marksOf rest
  | c :: rest => ⟨c, false⟩ :: marksOf rest
  | [] => []

def describes (pattern text : Octets) : Bool := (ofMarks false (marksOf pattern)).accepts text

/-- The marks hold a character that may make them more than a text. -/
def isMagic (groups : Bool) : List Mark → Bool
  | [] => false
  | mark :: rest =>
      (!mark.quoted && (mark.char = '*' || mark.char = '?' || mark.char = '[')) ||
        (group? groups (mark :: rest)).isSome || isMagic groups rest

/-! ## Ends of texts -/

/-- The ways to cut a text in two, from the shortest first part on. -/
def cuts (text : Octets) : List (Octets × Octets) :=
  (List.range (text.length + 1)).map fun n => (text.take n, text.drop n)

/-- A text without its shortest, or longest, first part that a pattern matches. -/
def dropFront (pattern : Pattern) (longest : Bool) (text : Octets) : Octets :=
  let cuts := if longest then (cuts text).reverse else cuts text
  ((cuts.find? fun cut => pattern.accepts cut.1).map (·.2)).getD text

/-- A text without its shortest, or longest, last part that a pattern matches. -/
def dropBack (pattern : Pattern) (longest : Bool) (text : Octets) : Octets :=
  let cuts := if longest then cuts text else (cuts text).reverse
  ((cuts.find? fun cut => pattern.accepts cut.2).map (·.1)).getD text

def longestFront? (pattern : Pattern) (text : Octets) : Option (Octets × Octets) :=
  (cuts text).reverse.find? fun cut => pattern.accepts cut.1

/-- A text with others in place of the stretches that a pattern matches. -/
def replaceAll (pattern : Pattern) (replacement : Octets → Octets) (once : Bool) :
    (fuel : Nat) → Octets → Octets
  | 0, text => text
  | _, [] => []
  | fuel + 1, c :: rest =>
      match longestFront? pattern (c :: rest) with
      | some (d :: found, behind) =>
          replacement (d :: found) ++
            if once then behind else replaceAll pattern replacement once fuel behind
      | _ => c :: replaceAll pattern replacement once fuel rest

end Pattern

end BlockExtension.Shell
