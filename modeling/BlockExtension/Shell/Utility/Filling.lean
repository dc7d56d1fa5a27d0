import BlockExtension.Shell.Utility.Input

/-!
# Filled paragraphs

The program that breaks the lines of paragraphs anew. Where the lines of a
paragraph end is chosen so that the costs of all of them together are least: a
line costs more the further its length is from a goal and from the length of the
next line, and less if it ends where a sentence does.
-/

namespace BlockExtension.Shell.Utility.Filling

open Act

/-! ## Words -/

/-- A word of a paragraph, and what stands around it. -/
structure Term where
  text : Octets
  /-- The blanks behind the word if the line goes on. -/
  space : Nat
  opens : Bool
  isPunctuated : Bool
  /-- The word ends like a sentence. -/
  isPeriod : Bool
  /-- The word ends a sentence. -/
  isFinal : Bool
  deriving DecidableEq, Repr

def isMark (c : Char) : Bool := '!' ≤ c && c ≤ '~' && !c.isAlphanum

def Term.ofText (text : Octets) (space : Nat) : Term :=
  let closed := (text.drop 1).reverse.dropWhile fun c => ")]'\"".toList.contains c
  let ends := (closed ++ text.take 1).head?
  { text, space
    opens := text.head?.any fun c => "(['\x60\"\x00".toList.contains c
    isPunctuated := text.getLast?.any isMark
    isPeriod := ends.any fun c => ".?!\x00".toList.contains c
    isFinal := false }

def Term.ending (term : Term) : Term := { term with isPeriod := true, isFinal := true }

/-! ## Costs -/

/-- How paragraphs are to be filled. -/
structure Form where
  isCrown : Bool
  isTagged : Bool
  splitsOnly : Bool
  isUniform : Bool
  /-- The blanks before what lines must start with. -/
  lead : Nat
  /-- What lines must start with, without blanks around it. -/
  mark : Octets
  /-- The length of what lines must start with, with the blanks behind it. -/
  full : Nat
  width : Nat
  goal : Nat
  deriving DecidableEq, Repr

def square (n : Int) : Int := n * n

/-- The plan for a line that starts at a word. -/
structure Stop where
  cost : Int
  /-- The number of words behind the first one that the line holds. -/
  more : Nat
  length : Nat
  /-- No line comes behind this one. -/
  isLast : Bool
  deriving DecidableEq, Repr

/-- What it costs to start a line at a word, with the words before it, the last one first. -/
def startCost (before : List Term) (term : Term) : Int :=
  let behind := match before with
    | [] => 0
    | last :: others =>
        if last.isPeriod then (if last.isFinal then -square 50 else square 600)
        else if last.isPunctuated then -square 40
        else if others.head?.any (·.isFinal) then square 200 / (last.text.length + 2)
        else 0
  let own :=
    if term.opens then -square 40
    else if term.isFinal then square 150 / (term.text.length + 2)
    else 0
  square 70 + behind + own

def endCost (form : Form) (length : Nat) : List (Term × Stop) → Int
  | [] => 0
  | (_, next) :: _ =>
      square (10 * ((form.goal : Int) - length)) +
        (if next.isLast then 0 else square (10 * ((length : Int) - next.length)) / 2)

/--
The cheapest of the lines that go on for `more` words and a `length`, and of those
that take some more of the words behind; `extra` is what the length costs besides.
-/
def cheapest (form : Form) (extra : Nat → Int) :
    (best : Stop) → (more length space : Nat) → List (Term × Stop) → Stop
  | best, _, _, _, [] => best
  | best, more, length, space, (term, _) :: rest =>
      let length := length + space + term.text.length
      if form.width ≤ length then best
      else
        let more := more + 1
        let cost := endCost form length rest + (rest.head?.elim 0 (·.2.cost)) + extra length
        let best := if cost < best.cost then ⟨cost, more, length, rest.isEmpty⟩ else best
        cheapest form extra best more length term.space rest

/-- Where the lines of a paragraph stand: the first one, the others, and the line before. -/
structure Setting where
  first : Nat
  other : Nat
  lastLength : Nat
  deriving DecidableEq, Repr

/-- The plan for a line that starts at a word, before words that have plans. -/
def stopAt (form : Form) (place : Setting) (before : List Term) (term : Term)
    (rest : List (Term × Stop)) : Stop :=
  let indent := if before.isEmpty then place.first else place.other
  let extra (length : Nat) : Int :=
    if before.isEmpty && 0 < place.lastLength then
      square (10 * ((length : Int) - place.lastLength)) / 2
    else 0
  let length := indent + term.text.length
  let cost := endCost form length rest + (rest.head?.elim 0 (·.2.cost)) + extra length
  let stop := cheapest form extra ⟨cost, 0, length, rest.isEmpty⟩ 0 length term.space rest
  { stop with cost := stop.cost + startCost before term }

/-- Words, each with the plan for a line that starts at it. -/
def stopsOf (form : Form) (place : Setting) :
    (before : List Term) → List Term → List (Term × Stop)
  | _, [] => []
  | before, term :: rest =>
      let planned := stopsOf form place (term :: before.take 1) rest
      (term, stopAt form place before term planned) :: planned

/-! ## Lines -/

def linesOf : (fuel : Nat) → List (Term × Stop) → List (List (Term × Stop))
  | 0, _ => []
  | _, [] => []
  | fuel + 1, (term, stop) :: rest =>
      ((term, stop) :: rest.take stop.more) :: linesOf fuel (rest.drop stop.more)

/-- Blanks that lead from a column to one further right, or tabs if there may be some. -/
def blanks (tabs : Bool) (column space : Nat) : Octets :=
  let target := column + space
  let stop := target / 8 * 8
  if tabs && column + 1 < stop then
    List.replicate (stop / 8 - column / 8) '\t' ++ List.replicate (target - stop) ' '
  else List.replicate space ' '

/-- A text behind another one that starts at column zero of a line; blanks may become tabs. -/
def behind (tabs : Bool) (column : Nat) : List Term → Octets × Nat
  | [] => ([], column)
  | [term] => (term.text, column + term.text.length)
  | term :: rest =>
      let column := column + term.text.length
      let (others, last) := behind tabs (column + term.space) rest
      (term.text ++ blanks tabs column term.space ++ others, last)

def line (form : Form) (tabs : Bool) (start indent : Nat) (terms : List Term) : Octets × Nat :=
  let before := start + form.mark.length
  let (text, column) := behind tabs (max before indent) terms
  (blanks tabs 0 start ++ form.mark ++ blanks tabs before (indent - before) ++ text ++ ['\n'],
    column)

/-- Some lines of a paragraph, and the length of the last one. -/
def block (form : Form) (tabs : Bool) (start : Nat) (place : Setting)
    (lines : List (List Term)) : Octets × Nat :=
  let written := (lines.zipIdx).map fun (terms, n) =>
    line form tabs start (if n = 0 then place.first else place.other) terms
  (written.flatMap (·.1), (written.getLast?.map (·.2)).getD place.lastLength)

def planned (form : Form) (place : Setting) (terms : List Term) : List (List (Term × Stop)) :=
  linesOf terms.length (stopsOf form place [] terms)

/-! ## Paragraphs -/

def mostWords : Nat := 998

def mostCharacters : Nat := 5000

/-- What has been written of a paragraph, and what has not. -/
structure Held where
  /-- What was written, backwards. -/
  output : List Octets
  lastLength : Nat
  /-- The words that are still held, backwards. -/
  terms : List Term
  count : Nat
  size : Nat

/--
Of some lines, those up to where a paragraph is best cut in two: the costs that
each of them adds tell that, and a later cut is better than an early one.
-/
def firstPart (lines : List (List (Term × Stop))) : Nat :=
  let costs := lines.map fun line => (line.head?.map (·.2.cost)).getD 0
  let steps := (costs.zip (costs.drop 1 ++ [0])).map fun (cost, next) => cost - next
  let chosen := ((steps.zipIdx).drop 1).foldl (fun (best : Option Int × Nat) (step, n) =>
    let isBetter := best.1.all (step < ·)
    if isBetter then (some (step + 9), n) else (best.1.map (· + 9), best.2)) (none, lines.length)
  chosen.2

/-- Writes the first lines of a paragraph that has become too long to hold. -/
def Held.flush (form : Form) (tabs : Bool) (start : Nat) (place : Setting) (held : Held) : Held :=
  let place := { place with lastLength := held.lastLength }
  let lines := planned form place held.terms.reverse
  let (now, later) := lines.splitAt (firstPart lines)
  let (text, last) := block form tabs start place (now.map fun line => line.map (·.1))
  let kept := later.flatMap fun line => line.map (·.1)
  { output := text :: held.output, lastLength := last, terms := kept.reverse,
    count := kept.length, size := kept.foldl (fun n term => n + term.text.length) 0 }

/-- A paragraph with one more word. -/
def Held.add (form : Form) (tabs : Bool) (start : Nat) (place : Setting) :
    (fuel : Nat) → Held → Term → Held
  | 0, held, term =>
      { held with terms := term :: held.terms, count := held.count + 1,
                  size := held.size + term.text.length }
  | fuel + 1, held, term =>
      if mostCharacters < held.size + term.text.length then
        if held.terms.isEmpty then
          Held.add form tabs start place fuel
            { held with output := term.text.take mostCharacters :: held.output }
            { term with text := term.text.drop mostCharacters }
        else Held.add form tabs start place fuel (held.flush form tabs start place) term
      else if held.count = mostWords then
        Held.add form tabs start place 0 (held.flush form tabs start place) term
      else Held.add form tabs start place 0 held term

def filled (form : Form) (tabs : Bool) (start : Nat) (place : Setting) (terms : List Term) :
    Octets :=
  let add (held : Held) (term : Term) : Held :=
    Held.add form tabs start place (held.count + term.text.length + 1) held term
  let held := terms.foldl add ⟨[], place.lastLength, [], 0, 0⟩
  let place := { place with lastLength := held.lastLength }
  let rest := match held.terms with
    | [] => []
    | last :: others => (last.ending :: others).reverse
  let lines := (planned form place rest).map fun line => line.map (·.1)
  held.output.reverse.flatten ++ (block form tabs start place lines).1

/-! ## Lines of a text -/

/-- A line of a text, up to where its words start. -/
structure Line where
  /-- The column of what it must start with. -/
  indent : Nat
  column : Nat
  rest : Octets
  hasTabs : Bool
  /-- No end of a line is behind the line. -/
  isLast : Bool
  deriving DecidableEq, Repr

def passBlanks : (column : Nat) → Octets → Nat × Octets
  | column, ' ' :: rest => passBlanks (column + 1) rest
  | column, '\t' :: rest => passBlanks ((column / 8 + 1) * 8) rest
  | column, rest => (column, rest)

/-- The part of a text that it has in common with another one, and what is behind it. -/
def passMark : (mark : Octets) → (column : Nat) → Octets → Bool × Nat × Octets
  | [], column, rest => (true, column, rest)
  | _, column, [] => (false, column, [])
  | m :: mark, column, c :: rest =>
      if m = c then passMark mark (column + 1) rest else (false, column, c :: rest)

def Line.ofText (form : Form) (isLast : Bool) (text : Octets) : Line :=
  let (indent, rest) := passBlanks 0 text
  let (indent, column, rest) :=
    if form.mark.isEmpty then (min form.lead indent, indent, rest)
    else
      match passMark form.mark indent rest with
      | (false, column, rest) => (indent, column, rest)
      | (true, column, rest) => (indent, passBlanks column rest)
  { indent, column, rest, isLast
    hasTabs := (text.take (text.length - rest.length)).contains '\t' }

/-- The line can be one of a paragraph. -/
def Line.isFit (form : Form) (line : Line) : Bool :=
  !line.rest.isEmpty && form.lead ≤ line.indent && line.indent + form.full ≤ line.column

/-- The line can be in one paragraph with another one. -/
def Line.goesOn (form : Form) (start : Line) (line : Line) : Bool :=
  !line.rest.isEmpty && line.indent = start.indent && line.indent + form.full ≤ line.column

/-- The line as it is. -/
def Line.copied (form : Form) (tabs : Bool) (line : Line) : Octets :=
  let before :=
    if line.indent < line.column || !line.rest.isEmpty then
      let mark := form.mark.take (line.column - line.indent)
      let behind := line.indent + mark.length
      blanks tabs 0 line.indent ++ mark ++
        (if line.rest.isEmpty then [] else blanks tabs behind (line.column - behind)) ++
        (if line.rest.isEmpty && line.isLast && line.indent + form.mark.length ≤ line.column then
          ['\n'] else [])
    else []
  before ++ line.rest ++ (if line.isLast then [] else ['\n'])

/-- The words in the rest of a line, which starts at a column. -/
def termsIn (isUniform isLast : Bool) : (fuel : Nat) → (column : Nat) → Octets → List Term
  | 0, _, _ => []
  | _, _, [] => []
  | fuel + 1, column, c :: more =>
      let word := c :: more.takeWhile fun c => !Octets.isSpace c
      let column := column + word.length
      let (next, rest) := passBlanks column (more.drop (word.length - 1))
      let term := Term.ofText word (next - column)
      let isFinal := (rest.isEmpty && isLast) ||
        (term.isPeriod && (rest.isEmpty || 1 < term.space))
      let space := if rest.isEmpty || isUniform then (if isFinal then 2 else 1) else term.space
      { term with isFinal, space } :: termsIn isUniform isLast fuel next rest

def Line.terms (form : Form) (line : Line) : List Term :=
  termsIn form.isUniform line.isLast line.rest.length line.column line.rest

def further (form : Form) (other : Nat) (first : Line) (next : Option Line) : Nat × Bool :=
  let goesOn := next.any (Line.goesOn form first)
  let column := (next.map (·.column)).getD 0
  if form.splitsOnly then (first.column, false)
  else if form.isCrown then (if goesOn then column else first.column, goesOn)
  else if form.isTagged then
    if goesOn && column ≠ first.column then (column, true)
    else if other = first.column then (if first.column = 0 then 3 else 0, false)
    else (other, false)
  else (first.column, true)

/-- A text with its paragraphs filled; `other` is an indentation that was used before. -/
def fill (form : Form) (tabs : Bool) (other : Nat) : List Line → Octets
  | [] => []
  | first :: rest =>
      let tabs := tabs || first.hasTabs
      if !first.isFit form then first.copied form tabs ++ fill form tabs other rest
      else
        let (other, hasMore) := further form other first rest.head?
        let isMore (line : Line) : Bool :=
          hasMore && Line.goesOn form first line && line.column = other
        let lines := first :: rest.takeWhile isMore
        let after := rest.dropWhile isMore
        have : after.length < rest.length + 1 :=
          Nat.lt_succ_of_le (List.dropWhile_suffix isMore).length_le
        let tabs := tabs ||
          lines.any (fun line => line.hasTabs || line.rest.contains '\t') ||
          after.head?.any (·.hasTabs)
        let words := lines.flatMap (Line.terms form)
        filled form tabs first.indent ⟨first.column, other, 0⟩ words ++
          fill form tabs other after
termination_by lines => lines.length
decreasing_by
  · exact Nat.lt_succ_self rest.length
  · exact this

def filledText (form : Form) (text : Octets) : Octets :=
  let pieces := Octets.cutAt '\n' text
  let lines := pieces.dropLast.map (Line.ofText form false) ++
    pieces.getLast?.toList.map (Line.ofText form true)
  fill form false 0 lines

/-! ## The program -/

/-- The options. -/
def rules : List OptionRule :=
  [switch "crown-margin" 'c', setting "goal" 'g', setting "prefix" 'p', switch "split-only" 's',
    switch "tagged-paragraph" 't', switch "uniform-spacing" 'u', setting "width" 'w']

def width (text : Octets) (most : Nat) : Except Octets Nat :=
  let wrong := "invalid width: ".toList ++ quoted text
  let digits := text.dropWhile Octets.isSpace
  let digits := if digits.head? = some '+' then digits.drop 1 else digits
  match Octets.number? digits with
  | none => .error wrong
  | some n =>
      if 18446744073709551616 ≤ n then
        .error (wrong ++ ": Value too large for defined data type".toList)
      else if most < n then .error (wrong ++ ": Numerical result out of range".toList)
      else .ok n

/-- How an invocation wants paragraphs to be filled, or what is wrong with it. -/
def formOf (given : Invocation) : Except Octets Form := do
  let mark := (given.value? "prefix").getD []
  let marked := mark.dropWhile (· = ' ')
  let ownWidth ← (given.value? "width").mapM (width · 2500)
  let most := ownWidth.getD 75
  let ownGoal ← (given.value? "goal").mapM (width · most)
  return { isCrown := given.has "crown-margin"
           isTagged := given.has "tagged-paragraph"
           splitsOnly := given.has "split-only"
           isUniform := given.has "uniform-spacing"
           lead := mark.length - marked.length
           mark := (marked.reverse.dropWhile (· = ' ')).reverse
           full := marked.length
           width := if ownWidth.isNone then (ownGoal.map (· + 10)).getD most else most
           goal := ownGoal.getD (most * 187 / 200) }

/-- Reads and fills the inputs one after the other; tells whether all could be read. -/
def fillAll (self : Octets) (form : Form) : List Octets → Act Bool
  | [] => return true
  | name :: rest => do
      match ← inputOf name with
      | .content text =>
          put (filledText form text)
          fillAll self form rest
      | .unopened error =>
          complainAs self ("cannot open ".toList ++ quoted name ++
            (" for reading: " ++ error.wording).toList)
          discard (fillAll self form rest)
          return false
      | .unread _ =>
          complainAs self "read error".toList
          discard (fillAll self form rest)
          return false

def strayNumber? (arguments : List Octets) : Option Char :=
  let before := arguments.takeWhile (· ≠ ['-', '-'])
  before.findSome? fun argument =>
    match argument with
    | '-' :: '-' :: _ => none
    | '-' :: letters =>
        let plain := letters.dropWhile fun c => "cstu".toList.contains c
        plain.head?.filter Char.isDigit
    | _ => none

/-- Breaks the lines of paragraphs anew. -/
def fmt : Program := fun self arguments => do
  let arguments := match arguments with
    | first :: rest => spelledOut "-w" first :: rest
    | [] => []
  if let some digit := strayNumber? arguments then
    complainAs self ("invalid option -- ".toList ++ [digit] ++
      ("; -WIDTH is recognized only when it is the first\n" ++
        "option; use -w N instead").toList)
    pointToHelp self
    return 1
  withOptions self rules true 1 arguments fun given => do
    match formOf given with
    | .error text =>
        complainAs self text
        return 1
    | .ok form => return if ← fillAll self form (inputNames given.operands) then 0 else 1

end BlockExtension.Shell.Utility.Filling
