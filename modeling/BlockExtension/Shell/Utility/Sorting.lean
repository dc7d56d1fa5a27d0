import BlockExtension.Shell.Utility.Input
import BlockExtension.Shell.Utility.Ranking

/-!
# Lines in order

The program that puts lines in order. What it compares are keys, which are parts
of lines; each key may be compared in a manner of its own.
-/

namespace BlockExtension.Shell.Utility.Sorting

open Act Ranking

/-! ## Keys -/

/-- How parts of lines are compared. -/
structure Manner where
  /-- Blanks before the start of a key do not count, and neither do those before its end. -/
  skipsAtStart : Bool
  skipsAtEnd : Bool
  /-- Only blanks, letters and digits count. -/
  isDictionary : Bool
  ignoresCase : Bool
  isGeneral : Bool
  isHuman : Bool
  isPrinting : Bool
  isMonth : Bool
  isNumeric : Bool
  isRandom : Bool
  reverses : Bool
  isVersion : Bool
  deriving DecidableEq, Repr

/-- Parts of lines are compared as they are. -/
def Manner.plain : Manner :=
  ⟨false, false, false, false, false, false, false, false, false, false, false, false⟩

/-- The manner that a letter asks for besides; blanks may count less at one end only. -/
def Manner.withLetter (atStart atEnd : Bool) (manner : Manner) (letter : Char) : Manner :=
  match letter with
  | 'b' =>
      { manner with
        skipsAtStart := manner.skipsAtStart || atStart
        skipsAtEnd := manner.skipsAtEnd || atEnd }
  | 'd' => { manner with isDictionary := true }
  | 'f' => { manner with ignoresCase := true }
  | 'g' => { manner with isGeneral := true }
  | 'h' => { manner with isHuman := true }
  | 'i' => { manner with isPrinting := true }
  | 'M' => { manner with isMonth := true }
  | 'n' => { manner with isNumeric := true }
  | 'R' => { manner with isRandom := true }
  | 'r' => { manner with reverses := true }
  | 'V' => { manner with isVersion := true }
  | _ => manner

def Manner.letters (manner : Manner) : Octets :=
  [(manner.isDictionary, 'd'), (manner.ignoresCase, 'f'), (manner.isGeneral, 'g'),
    (manner.isHuman, 'h'), (manner.isPrinting && !manner.isDictionary, 'i'),
    (manner.isMonth, 'M'), (manner.isNumeric, 'n'), (manner.isRandom, 'R'),
    (manner.isVersion, 'V')].filterMap fun (isOn, letter) => if isOn then some letter else none

/-- More than one order is asked for. -/
def Manner.isContradictory (manner : Manner) : Bool :=
  let asText := manner.isVersion || manner.isRandom || manner.isDictionary || manner.isPrinting
  1 < [manner.isNumeric, manner.isGeneral, manner.isHuman, manner.isMonth, asText].countP id

/-- A part of a line: from a character of a field to one of another field, or to its end. -/
structure Key where
  startField : Nat
  startCharacter : Nat
  stop : Option (Nat × Nat)
  manner : Manner
  deriving DecidableEq, Repr

/-- A number at the start of a text, and what follows. -/
def count (what : String) (text : Octets) : Except Octets (Nat × Octets) :=
  let digits := text.takeWhile Char.isDigit
  match Octets.number? digits with
  | some n => .ok (n, text.drop digits.length)
  | none => .error ((what ++ ": invalid count at start of ").toList ++ quoted text)

def Key.ofText (usual : Manner) (text : Octets) : Except Octets Key := do
  let bad (what : String) : Octets :=
    (what ++ ": invalid field specification ").toList ++ quoted text
  let (field, rest) ← count "invalid number at field start" text
  if field = 0 then throw (bad "field number is zero")
  let (character, rest) ← match rest with
    | '.' :: rest => do
        let (character, rest) ← count "invalid number after '.'" rest
        if character = 0 then throw (bad "character offset is zero")
        pure (character, rest)
    | rest => pure (1, rest)
  let isLetter (c : Char) : Bool := "bdfghiMnRrV".toList.contains c
  let letters := rest.takeWhile isLetter
  let rest := rest.drop letters.length
  let manner := letters.foldl (Manner.withLetter true false) .plain
  let (stop, manner, rest) ← match rest with
    | ',' :: rest => do
        let (last, rest) ← count "invalid number after ','" rest
        if last = 0 then throw (bad "field number is zero")
        let (limit, rest) ← match rest with
          | '.' :: rest => count "invalid number after '.'" rest
          | rest => pure (0, rest)
        let letters := rest.takeWhile isLetter
        pure (some (last, limit), letters.foldl (Manner.withLetter false true) manner,
          rest.drop letters.length)
    | rest => pure (none, manner, rest)
  unless rest.isEmpty do throw (bad "stray character in field spec")
  return ⟨field, character, stop, if manner = .plain then usual else manner⟩

/-- What is behind the first fields of a line; without a separator blanks start a field. -/
def behindFields (separator : Option Char) : Nat → Octets → Octets
  | 0, line => line
  | count + 1, line =>
      match separator with
      | some c =>
          match line.dropWhile (· ≠ c) with
          | [] => []
          | _ :: rest => behindFields separator count rest
      | none =>
          behindFields separator count
            ((line.dropWhile Octets.isBlank).dropWhile (!Octets.isBlank ·))

def Key.part (separator : Option Char) (key : Key) (line : Octets) : Octets :=
  let skip (skips : Bool) (text : Octets) : Octets :=
    if skips then text.dropWhile Octets.isBlank else text
  let start := (skip key.manner.skipsAtStart
    (behindFields separator (key.startField - 1) line)).drop (key.startCharacter - 1)
  match key.stop with
  | none => start
  | some (field, character) =>
      let left :=
        if character = 0 then
          match separator with
          | some c =>
              let rest := (behindFields separator (field - 1) line).dropWhile (· ≠ c)
              rest.length
          | none => (behindFields separator field line).length
        else
          ((skip key.manner.skipsAtEnd (behindFields separator (field - 1) line)).drop
            character).length
      start.take (start.length - left)

/-! ## Comparison -/

/-- What counts of a text. -/
def Manner.seen (manner : Manner) (text : Octets) : Octets :=
  let text :=
    if manner.isDictionary then text.filter fun c => Octets.isBlank c || c.isAlphanum
    else if manner.isPrinting then text.filter fun c => ' ' ≤ c && c < '\x7f'
    else text
  if manner.ignoresCase then text.map Char.toUpper else text

/-- The order of two parts of lines. -/
def Manner.compared (manner : Manner) (a b : Octets) : Ordering :=
  let a := manner.seen a
  let b := manner.seen b
  let order :=
    if manner.isNumeric then (Numeral.of a).compared (Numeral.of b)
    else if manner.isGeneral then (General.of a).compared (General.of b)
    else if manner.isHuman then (Numeral.of a).comparedScaled (Numeral.of b)
    else if manner.isMonth then compare (monthOf a) (monthOf b)
    else if manner.isVersion then comparedVersions a b
    else comparedTexts a b
  if manner.reverses then order.swap else order

/-- How lines are put in order. -/
structure Rule where
  separator : Option Char
  keys : List Key
  manner : Manner
  /-- Lines that are equal by all keys stay as they are. -/
  stable : Bool
  unique : Bool

def Rule.byKeys (rule : Rule) (a b : Octets) : Ordering :=
  rule.keys.foldl (fun order key =>
    order.then (key.manner.compared (key.part rule.separator a) (key.part rule.separator b)))
    .eq

/-- The order of two lines. -/
def Rule.compared (rule : Rule) (a b : Octets) : Ordering :=
  let order := rule.byKeys a b
  if rule.stable || rule.unique then order
  else
    let last := comparedTexts a b
    order.then (if rule.manner.reverses then last.swap else last)

def Rule.withoutEqual (rule : Rule) : List Octets → List Octets
  | [] => []
  | [line] => [line]
  | a :: b :: rest =>
      if rule.byKeys a b = .eq then rule.withoutEqual (a :: rest)
      else a :: rule.withoutEqual (b :: rest)
  termination_by lines => lines.length

/-- Lines in order. -/
def Rule.sorted (rule : Rule) (lines : List Octets) : List Octets :=
  let lines := lines.mergeSort fun a b => rule.compared a b ≠ .gt
  if rule.unique then rule.withoutEqual lines else lines

/-- The lines of inputs that are in order by themselves. -/
def Rule.merged (rule : Rule) (inputs : List (List Octets)) : List Octets :=
  let lines := inputs.foldl (fun before lines =>
    List.merge before lines fun a b => rule.compared a b ≠ .gt) []
  if rule.unique then rule.withoutEqual lines else lines

/-- The number and the text of the first line that is out of order. -/
def Rule.disorder? (rule : Rule) : (number : Nat) → List Octets → Option (Nat × Octets)
  | number, a :: b :: rest =>
      let order := rule.compared a b
      if order = .gt || (rule.unique && order = .eq) then some (number + 1, b)
      else rule.disorder? (number + 1) (b :: rest)
  | _, _ => none

/-! ## The program -/

/-- The options. -/
def rules : List OptionRule :=
  [switch "ignore-leading-blanks" 'b', switch "dictionary-order" 'd', switch "ignore-case" 'f',
    switch "general-numeric-sort" 'g', switch "ignore-nonprinting" 'i', switch "month-sort" 'M',
    switch "human-numeric-sort" 'h', switch "numeric-sort" 'n', switch "random-sort" 'R',
    switch "reverse" 'r', switch "version-sort" 'V', ⟨"check", none, .perhaps⟩,
    switch "-c" 'c', switch "-C" 'C', setting "key" 'k', switch "merge" 'm', setting "output" 'o',
    switch "stable" 's', setting "buffer-size" 'S', setting "field-separator" 't',
    setting "temporary-directory" 'T', switch "unique" 'u', switch "zero-terminated" 'z',
    ⟨"parallel", none, .value⟩, ⟨"debug", none, .nothing⟩, ⟨"sort", none, .value⟩,
    ⟨"random-source", none, .value⟩, ⟨"files0-from", none, .value⟩,
    ⟨"batch-size", none, .value⟩, ⟨"compress-program", none, .value⟩]

def orders : List (String × Char) :=
  [("general-numeric", 'g'), ("human-numeric", 'h'), ("month", 'M'), ("numeric", 'n'),
    ("random", 'R'), ("version", 'V')]

def checks : List (List String) := [["quiet", "silent"], ["diagnose-first"]]

def letterOf? (option : GivenOption) : Option Char :=
  match option.word with
  | "sort" => (chosen? (orders.map fun (word, _) => [word]) (option.value.getD [])).bind
      fun word => orders.lookup word
  | word => (rules.find? (·.word = word)).bind (·.letter)

/-- What options ask for about the way lines are compared. -/
def mannerOf (given : Invocation) : Manner :=
  (given.options.filterMap letterOf?).foldl (Manner.withLetter true true) .plain

/-- The character between fields that options ask for. -/
def separatorOf (values : List Octets) : Except Octets (Option Char) := do
  let characters ← values.mapM fun text =>
    match text with
    | [] => .error "empty tab".toList
    | [c] => .ok c
    | ['\\', '0'] => .ok '\x00'
    | text => .error ("multi-character tab ".toList ++ quoted text)
  if 1 < characters.eraseDups.length then throw "incompatible tabs".toList
  return characters.head?

def readUntilFailure (self : Octets) (voice : InputVoice) :
    List Octets → Act (List Octets × Bool)
  | [] => return ([], true)
  | name :: rest => do
      let (inputs, all) ← readInputs self voice [name]
      if !all then return ([], false)
      let (more, all) ← readUntilFailure self voice rest
      return (inputs.map (·.2) ++ more, all)

/-- How complaints about inputs are put. -/
def voice : InputVoice :=
  ⟨fun name => "cannot read: ".toList ++ named name,
    fun name => "read failed: ".toList ++ named name⟩

def ruleOf (given : Invocation) : Except Octets Rule := do
  let manner := mannerOf given
  let keys ← (given.values "key").mapM (Key.ofText manner)
  let separator ← separatorOf (given.values "field-separator")
  let keys := if keys.isEmpty then [⟨1, 1, none, manner⟩] else keys
  if let some key := keys.find? (·.manner.isContradictory) then
    throw ("options '-".toList ++ key.manner.letters ++ "' are incompatible".toList)
  return ⟨separator, keys, manner, given.has "stable", given.has "unique"⟩

/-- Tells whether an input is in order, aloud if it is not. -/
def check (self : Octets) (rule : Rule) (isQuiet : Bool) (name : Octets) (lines : List Octets) :
    Act Nat := do
  match rule.disorder? 1 lines with
  | none => return 0
  | some (number, line) =>
      unless isQuiet do
        complainAs self (named name ++ ':' :: Octets.ofNat number ++
          ": disorder: ".toList ++ line)
      return 1

def namesOf (self : Octets) (given : Invocation) : Act (Option (List Octets)) := do
  match given.value? "files0-from" with
  | none => return some (inputNames given.operands)
  | some list =>
      if let extra :: _ := given.operands then
        complainAs self ("extra operand ".toList ++ quoted extra)
        report "file operands cannot be combined with --files0-from\n".toList
        pointToHelp self
        return none
      match ← inputOf list with
      | .content text => return some (linesEndedBy '\x00' text)
      | _ =>
          complainAs self ("open failed: ".toList ++ named list ++
            ": No such file or directory".toList)
          return none

/-- Puts the lines of inputs in order, or checks that they are, by a rule. -/
def sortBy (self : Octets) (given : Invocation) (rule : Rule) : Act Nat := do
  let some names ← namesOf self given | return 2
  let words := given.options.filterMap fun option =>
    match option.word with
    | "-c" => some "diagnose-first"
    | "-C" => some "quiet"
    | "check" =>
        (chosen? checks (option.value.getD "diagnose-first".toList)).orElse
          fun _ => some "diagnose-first"
    | _ => none
  let letter := if words.getLast? = some "quiet" then 'C' else 'c'
  if let (false, extra :: _) := (words.isEmpty, names.drop 1) then
    complainAs self ("extra operand ".toList ++ quoted extra ++
      " not allowed with -".toList ++ [letter])
    return 2
  if !words.isEmpty && given.has "output" then
    complainAs self ("options '-".toList ++ [letter] ++ "o' are incompatible".toList)
    return 2
  let (inputs, all) ← readUntilFailure self voice names
  if !all then return 2
  let lines := inputs.map (linesEndedBy (lineEnd given))
  if !words.isEmpty then
    return ← check self rule (letter = 'C') (names.headD []) lines.flatten
  let lines := if given.has "merge" then rule.merged lines else rule.sorted lines.flatten
  if let some path := given.value? "output" then
    match ← openPath path .write with
    | .error error =>
        complainAs self ("open failed: ".toList ++ named path ++
          (": " ++ error.wording).toList)
        return 2
    | .ok place =>
        match ← writeAt place (endedBy (lineEnd given) lines) with
        | none => return 0
        | some error =>
            complainAs self ("fflush failed: ".toList ++ named path ++
              (": " ++ error.wording).toList)
            complainAs self "write error".toList
            return 2
  finish (endedBy (lineEnd given) lines) true

/-- The first option whose value is none of the words it may be. -/
def wrongChoice? (given : Invocation) : Option (String × List (List String) × Octets) :=
  given.options.findSome? fun option =>
    let words := match option.word with
      | "sort" => orders.map fun (word, _) => [word]
      | "check" => checks
      | _ => []
    match option.value with
    | none => none
    | some value =>
        if words.isEmpty || (chosen? words value).isSome then none
        else some ("--" ++ option.word, words, value)

/-- An option for a size or a number that is none. -/
def wrongAmount? (given : Invocation) : Option Octets :=
  [("buffer-size", "-S"), ("parallel", "--parallel"), ("batch-size", "--batch-size")].findSome?
    fun (word, shown) => (given.value? word).bind fun value =>
      if value.head?.any Char.isDigit then none
      else some (("invalid " ++ shown ++ " argument ").toList ++ quoted value)

def placeFromNought (text : Octets) : Option (Nat × Nat × Octets) := do
  let number (text : Octets) : Octets × Octets := text.span Char.isDigit
  let (field, rest) := number text
  let field ← Octets.number? field
  match rest with
  | '.' :: rest =>
      let (character, rest) := number rest
      return (field, ← Octets.number? character, rest)
  | rest => return (field, 0, rest)

/-- The text of a key whose places are counted from nought; the second may be missing. -/
def keyFromNought (start stop : Octets) : Option Octets := do
  let place (field character : Nat) : Octets := Octets.ofNat field ++ '.' :: Octets.ofNat character
  let (field, character, letters) ← placeFromNought start
  let key := place (field + 1) (character + 1) ++ letters
  if stop.isEmpty then return key
  let (field, character, letters) ← placeFromNought stop
  return key ++ ',' :: place (if character = 0 then field else field + 1) character ++ letters

def withKeys : List Octets → List Octets
  | [] => []
  | word :: rest =>
      let others := withKeys rest
      let key (stop : Octets) : Option Octets :=
        if word.head? = some '+' then keyFromNought (word.drop 1) stop else none
      if word = ['-', '-'] then word :: rest
      else
        match rest with
        | ('-' :: c :: stop) :: more =>
            match key (c :: stop), key [] with
            | some key, _ => ['-', 'k'] :: key :: withKeys more
            | none, some key => ['-', 'k'] :: key :: others
            | none, none => word :: others
        | _ =>
            match key [] with
            | some key => ['-', 'k'] :: key :: others
            | none => word :: others

/-- Puts the lines of its inputs in order. -/
def sort : Program := fun self arguments =>
  withOptions self rules true 2 (withKeys arguments) fun given => do
    if let some (option, words, value) := wrongChoice? given then
      complainOfChoice self option words value
      return 1
    if let some problem := wrongAmount? given then
      complainAs self problem
      return 2
    match ruleOf given with
    | .error problem =>
        complainAs self problem
        return 2
    | .ok rule => sortBy self given rule

end BlockExtension.Shell.Utility.Sorting
