import BlockExtension.Decimal.Double
import BlockExtension.Shell.Doubles
import BlockExtension.Shell.Utility.Input

/-!
# Numbers for people

The program that writes large numbers with a letter that multiplies them, and
reads such numbers. A number is a fraction, so nothing is lost before it is
rounded to be written.
-/

namespace BlockExtension.Shell.Utility.Scaling

open Act

/-! ## Fractions -/

/-- A number: a whole number divided by one above nought. -/
structure Amount where
  top : Int
  bottom : Nat
  deriving DecidableEq, Repr

def Amount.times (amount : Amount) (top bottom : Nat) : Amount :=
  ⟨amount.top * top, amount.bottom * bottom⟩

def Amount.isBelow (amount : Amount) (n : Nat) : Bool := amount.top.natAbs < n * amount.bottom

/-- The ways to round. -/
inductive Rounding where
  | up
  | down
  | fromZero
  | towardsZero
  | nearest
  deriving DecidableEq, Repr

/-- A number without what is behind its point. -/
def Amount.rounded (rounding : Rounding) (amount : Amount) : Int :=
  let size := amount.top.natAbs
  let isNegative := amount.top < 0
  let below := size / amount.bottom
  let above := (size + amount.bottom - 1) / amount.bottom
  let chosen := match rounding with
    | .up => if isNegative then below else above
    | .down => if isNegative then above else below
    | .fromZero => above
    | .towardsZero => below
    | .nearest => (2 * size + amount.bottom) / (2 * amount.bottom)
  if isNegative then -(chosen : Int) else chosen

/-! ## Scales -/

/-- What the letters behind numbers stand for. -/
inductive Scale where
  | plain
  /-- Both kinds of letters are read. -/
  | either
  | thousands
  | binary
  /-- As before, with another letter behind the first. -/
  | binaryMarked
  deriving DecidableEq, Repr

def letters : List Char := "KMGTPEZYRQ".toList

/-- The number that a letter multiplies by once more than the one before. -/
def Scale.base : Scale → Nat
  | .thousands => 1000
  | .either => 1000
  | _ => 1024

/-- The product of equal factors. -/
def raised (base : Nat) : Nat → Nat
  | 0 => 1
  | count + 1 => raised base count * base

/-- Why a text is no number. -/
inductive Fault where
  | noNumber
  | tooLarge
  | unexpectedLetter
  | wrongLetter
  | unmarked
  | trailing (text : Octets)

/-- What is said of a text that is no number. -/
def Fault.message (text : Octets) : Fault → Octets
  | .noNumber => "invalid number: ".toList ++ quoted text
  | .tooLarge => "value too large to be converted: ".toList ++ quoted text
  | .unexpectedLetter =>
      "rejecting suffix in input: ".toList ++ quoted text ++ " (consider using --from)".toList
  | .wrongLetter => "invalid suffix in input: ".toList ++ quoted text
  | .unmarked =>
      "missing 'i' suffix in input: ".toList ++ quoted text ++ " (e.g Ki/Mi/Gi)".toList
  | .trailing rest =>
      "invalid suffix in input ".toList ++ quoted text ++ ": ".toList ++ quoted rest

/-- A number that has been read: its value, and how many places are behind its point. -/
structure Found where
  amount : Amount
  places : Nat

/-- The number that a text is. -/
def read (scale : Scale) (text : Octets) : Except Fault Found := do
  let isNegative := text.head? = some '-'
  let unsigned := if isNegative then text.drop 1 else text
  let (whole, rest) := unsigned.span Char.isDigit
  let (fraction, rest, isPointed) := match rest with
    | '.' :: rest => (rest.takeWhile Char.isDigit, rest.dropWhile Char.isDigit, true)
    | rest => ([], rest, false)
  if (whole.isEmpty || isPointed) && fraction.isEmpty then throw .noNumber
  if 33 < (whole.dropWhile (· = '0')).length then throw .tooLarge
  let size := Octets.valueOf (whole ++ fraction)
  let amount : Amount :=
    ⟨if isNegative then -(size : Int) else size, Decimal.tenPow fraction.length⟩
  match rest with
  | [] => return ⟨amount, fraction.length⟩
  | _ =>
      match rest.dropWhile Octets.isBlank with
      | [] => throw .wrongLetter
      | letter :: rest =>
          match letters.idxOf? letter with
          | none => throw .wrongLetter
          | some place =>
              let (base, rest) ← match scale, rest with
                | .plain, _ => throw Fault.unexpectedLetter
                | .either, 'i' :: rest => pure (1024, rest)
                | .binaryMarked, 'i' :: rest => pure (1024, rest)
                | .binaryMarked, _ => throw .unmarked
                | scale, rest => pure (scale.base, rest)
              unless rest.isEmpty do throw (.trailing rest)
              return ⟨amount.times (raised base (place + 1)) 1, 0⟩

/-! ## Writing -/

/-- How numbers are written. -/
structure Form where
  scale : Scale
  rounding : Rounding
  places : Option Nat
  zeros : Nat

/-- A number of units as text. -/
def Form.shown (form : Form) (places : Nat) (units : Int) (letter : Octets) : Octets :=
  let text := Decimal.pointed places (Decimal.padded (places + 1) units.natAbs)
  let sign : Octets := if units < 0 then ['-'] else []
  let count := form.zeros - sign.length - text.length
  sign ++ List.replicate count '0' ++ text ++ letter

/-- A number divided by a base until it is below it, and how often that took. -/
def reduced (base : Nat) : (fuel : Nat) → Amount → Amount × Nat
  | 0, amount => (amount, 0)
  | fuel + 1, amount =>
      if amount.isBelow base then (amount, 0)
      else
        let (last, count) := reduced base fuel (amount.times 1 base)
        (last, count + 1)

/-- A number with the places that it was read with. -/
def Form.plainly (form : Form) (found : Found) : Octets :=
  let places := form.places.getD found.places
  let units := (found.amount.times (Decimal.tenPow places) 1).rounded form.rounding
  form.shown places units []

/-- A number with the largest letter that leaves something before its point. -/
def Form.scaled (form : Form) (amount : Amount) : Octets :=
  let base := form.scale.base
  let (small, power) := reduced base 40 amount
  let shift := match form.places with
    | some places => min (power * 3) places
    | none => if small.isBelow 10 then 1 else 0
  let ten := Decimal.tenPow shift
  let rounded : Amount := ⟨(small.times ten 1).rounded form.rounding, ten⟩
  let (last, power) := if rounded.isBelow base then (rounded, power)
    else (rounded.times 1 base, power + 1)
  let pointed := last.top ≠ 0 && last.isBelow 10 && 0 < power
  let places := form.places.getD (if pointed then 1 else 0)
  let size := Decimal.roundHalfEven (last.top.natAbs * Decimal.tenPow places) last.bottom
  let units := if last.top < 0 then -(size : Int) else size
  let letter := if power = 0 then [] else ((letters[power - 1]?).map ([·])).getD []
  let mark := if form.scale = .binaryMarked && 0 < power then ['i'] else []
  form.shown places units (letter ++ mark)

/-- A large number with six digits and an exponent. -/
def rough (amount : Amount) : Octets :=
  let (small, power) := reduced 10 80 amount
  let digits := (small.times 100000 1).rounded .nearest
  let text := Octets.ofNat digits.natAbs
  let fraction := ((text.drop 1).reverse.dropWhile (· = '0')).reverse
  (if digits < 0 then ['-'] else []) ++ text.take 1 ++
    (if fraction.isEmpty then [] else '.' :: fraction) ++ "e+".toList ++
    (if power < 10 then ['0'] else []) ++ Octets.ofNat power

def Form.written (form : Form) (found : Found) : Except Octets Octets :=
  let power := (reduced 10 80 found.amount).2
  let places := form.places.getD found.places
  let value := rough found.amount
  if form.scale = .plain then
    if 18 < power + places then
      if places = 0 then
        .error ("value too large to be printed: '".toList ++ value ++
          "' (consider using --to)".toList)
      else
        .error ("value/precision too large to be printed: '".toList ++ value ++ '/' ::
          Octets.ofNat places ++ "' (consider using --to)".toList)
    else .ok (form.plainly found)
  else if 32 < power then
    .error ("value too large to be printed: '".toList ++ value ++
      "' (cannot handle values > 999Q)".toList)
  else .ok (form.scaled found.amount)

/-! ## Lines -/

/-- What is done about texts that are no numbers. -/
inductive Strictness where
  | abort
  | fail
  | warn
  | ignore
  deriving DecidableEq, Repr

/-- What is done with the fields of lines. -/
structure Plan where
  form : Form
  source : Scale
  factor : Nat × Nat
  suffix : Octets
  separator : Option Char
  /-- The fields that are numbers. -/
  isChosen : Nat → Bool
  width : Option Nat
  toRight : Bool
  before : Octets
  behind : Octets
  strictness : Strictness

/-- A field with a number as it is to be written, or what is wrong with it. -/
def Plan.converted (plan : Plan) (field : Octets) (number : Nat) : Except Octets Octets := do
  let size := field.length - plan.suffix.length
  let bare := if !plan.suffix.isEmpty && 0 < size && field.drop size = plan.suffix
    then field.take size else field
  let text := bare.dropWhile Octets.isBlank
  let width := match plan.width with
    | some width => width
    | none =>
        if plan.separator.isNone && (text.length < bare.length || 1 < number) then bare.length
        else 0
  let found ← (read plan.source text).mapError (·.message text)
  let amount := found.amount.times plan.factor.1 plan.factor.2
  let shown := (← plan.form.written ⟨amount, found.places⟩) ++ plan.suffix
  let blanks := List.replicate (width - shown.length) ' '
  return plan.before ++ (if plan.toRight then blanks ++ shown else shown ++ blanks) ++ plan.behind

/-- The fields of a line; without a separator the blanks before a field belong to it. -/
def fieldsOf (separator : Option Char) (line : Octets) : List Octets :=
  match separator with
  | some c => Octets.cutAt c line
  | none => split (line.length + 1) line
where
  /-- The fields that blanks stand between. -/
  split : (fuel : Nat) → Octets → List Octets
    | 0, _ => []
    | fuel + 1, line =>
        let blanks := line.takeWhile Octets.isBlank
        let word := (line.drop blanks.length).takeWhile (!Octets.isBlank ·)
        match line.drop (blanks.length + word.length) with
        | [] => [blanks ++ word]
        | _ :: rest => (blanks ++ word) :: split fuel rest

/-- What came of a line, or of several. -/
inductive Outcome where
  | well
  | invalid
  /-- It is the last line. -/
  | given

def showFields (self : Octets) (plan : Plan) : (number : Nat) → List Octets → Act Outcome
  | _, [] => return .well
  | number, field :: rest => do
      let goOn (ownOutcome : Outcome) : Act Outcome := do
        unless rest.isEmpty do put [plan.separator.getD ' ']
        match ← showFields self plan (number + 1) rest, ownOutcome with
        | .well, own => return own
        | other, _ => return other
      if !plan.isChosen number then
        put field
        return ← goOn .well
      match plan.converted field number with
      | .ok text =>
          put text
          goOn .well
      | .error problem =>
          unless plan.strictness = .ignore do complainAs self problem
          if plan.strictness = .abort then return .given
          put field
          goOn .invalid

def showLines (self : Octets) (plan : Plan) (mark : Char) : List (Octets × Bool) → Act Outcome
  | [] => return .well
  | (line, isEnded) :: rest => do
      match ← showFields self plan 1 (fieldsOf plan.separator line) with
      | .given => return .given
      | outcome =>
          if isEnded then put [mark]
          match ← showLines self plan mark rest, outcome with
          | .well, own => return own
          | other, _ => return other

/-! ## Options -/

/-- The options. -/
def rules : List OptionRule :=
  [⟨"debug", none, .nothing⟩, setting "delimiter" 'd', ⟨"field", none, .value⟩,
    ⟨"format", none, .value⟩, ⟨"from", none, .value⟩, ⟨"from-unit", none, .value⟩,
    ⟨"grouping", none, .nothing⟩, ⟨"header", none, .perhaps⟩, ⟨"invalid", none, .value⟩,
    ⟨"padding", none, .value⟩, ⟨"round", none, .value⟩, ⟨"suffix", none, .value⟩,
    ⟨"to", none, .value⟩, ⟨"to-unit", none, .value⟩, switch "zero-terminated" 'z']

def scales : List (String × Scale) :=
  [("none", .plain), ("auto", .either), ("si", .thousands), ("iec", .binary),
    ("iec-i", .binaryMarked)]

def roundings : List (String × Rounding) :=
  [("up", .up), ("down", .down), ("from-zero", .fromZero), ("towards-zero", .towardsZero),
    ("nearest", .nearest)]

/-- The words for what is done about texts that are no numbers. -/
def strictnesses : List (String × Strictness) :=
  [("abort", .abort), ("fail", .fail), ("warn", .warn), ("ignore", .ignore)]

/-- The words that options may have as values. -/
def choices : List (String × List String) :=
  [("from", scales.map (·.1)), ("to", (scales.map (·.1)).filter (· ≠ "auto")),
    ("round", roundings.map (·.1)), ("invalid", strictnesses.map (·.1))]

def unitOf (text : Octets) : Option Nat := do
  let digits := text.takeWhile Char.isDigit
  let factor ← match text.drop digits.length with
    | [] => some 1
    | [letter] => (letters.idxOf? letter).map fun place => raised 1000 (place + 1)
    | [letter, 'i'] => (letters.idxOf? letter).map fun place => raised 1024 (place + 1)
    | _ => none
  let count ← if digits.isEmpty then (if text.isEmpty then none else some 1)
    else Octets.number? digits
  if count * factor = 0 then none else some (count * factor)

/-- A format: what stands before and behind a number, and how it is written. -/
structure Format where
  before : Octets
  behind : Octets
  zeros : Nat
  width : Option Nat
  toRight : Bool
  places : Option Nat

def directiveAt : Octets → Option (Nat × Nat)
  | '%' :: '%' :: rest => (directiveAt rest).map fun (place, count) => (place + 2, count + 1)
  | '%' :: _ => some (0, 0)
  | _ :: rest => (directiveAt rest).map fun (place, count) => (place + 1, count + 1)
  | [] => none

def Format.ofText (text : Octets) : Except Octets Format := do
  let shown := quoted text
  let some (place, count) := directiveAt text
    | throw ("format ".toList ++ shown ++ " has no % directive".toList)
  let (flags, rest) := (text.drop (place + 1)).span [' ', '\'', '0'].contains
  let (isNegative, digits, rest) := match rest with
    | '-' :: rest => (true, rest.takeWhile Char.isDigit, rest.dropWhile Char.isDigit)
    | rest => (false, rest.takeWhile Char.isDigit, rest.dropWhile Char.isDigit)
  let width := Octets.valueOf digits
  if rest.isEmpty && !(isNegative && digits.isEmpty) then
    throw ("format ".toList ++ shown ++ " ends in %".toList)
  let invalid := "invalid format ".toList ++ shown ++
    ", directive must be %[0]['][-][N][.][N]f".toList
  if isNegative && digits.isEmpty then throw invalid
  let (places, rest) ← match rest with
    | '.' :: rest =>
        if rest.head?.any fun c => Octets.isBlank c || c = '+' || c = '-' then
          throw ("invalid precision in format ".toList ++ shown)
        else
          pure (some (Octets.valueOf (rest.takeWhile Char.isDigit)),
            rest.dropWhile Char.isDigit)
    | rest => pure (none, rest)
  match rest with
  | 'f' :: rest =>
      if (directiveAt rest).isSome then
        throw ("format ".toList ++ shown ++ " has too many % directives".toList)
      let hasZeros := flags.contains '0' && !isNegative
      return {
        before := text.take count
        behind := rest
        zeros := if hasZeros then width else 0
        width := if hasZeros || width = 0 then none else some width
        toRight := !isNegative
        places }
  | _ => throw invalid

/-- Something that keeps the program from running, and whether help is offered. -/
abbrev Refusal := Octets × Bool

def fieldsNamed (text : Octets) : Except Refusal (Nat → Bool) := do
  let ranges ← (Octets.cutAt ',' text).mapM fun piece => do
    let number (digits : Octets) (usual : Nat) : Except Refusal Nat :=
      if digits.isEmpty then .ok usual
      else
        match Octets.number? digits with
        | none => .error ("invalid field value ".toList ++ quoted text, true)
        | some 0 => .error ("fields are numbered from 1".toList, true)
        | some n => .ok n
    match piece.span (· ≠ '-') with
    | ([], []) => throw ("invalid field range".toList, true)
    | (first, []) => do
        let n ← number first 1
        pure (n, n)
    | (first, _ :: last) => do
        let least ← number first 1
        let most ← number last 1000000000
        if most < least then throw ("invalid decreasing range".toList, true)
        pure (least, most)
  return fun n => ranges.any fun (least, most) => least ≤ n && n ≤ most

/-- What options ask for. -/
def planOf (given : Invocation) : Except Refusal Plan := do
  let unit (word : String) : Except Refusal Nat :=
    match given.value? word with
    | none => .ok 1
    | some text =>
        match unitOf text with
        | some n => .ok n
        | none => .error ("invalid unit size: ".toList ++ quoted text, false)
  let fromUnit ← unit "from-unit"
  let toUnit ← unit "to-unit"
  let padding : Int ← match given.value? "padding" with
    | none => pure 0
    | some text =>
        let size? := Octets.number? (if text.head? = some '-' then text.drop 1 else text)
        match size? with
        | some (n + 1) =>
            pure (if text.head? = some '-' then -((n : Int) + 1) else (n : Int) + 1)
        | _ => throw ("invalid padding value ".toList ++ quoted text, false)
  let separator ← match given.value? "delimiter" with
    | none => pure none
    | some [c] => pure (some c)
    | some [] => pure (some '\x00')
    | some _ => throw ("the delimiter must be a single character".toList, false)
  let isChosen ← match given.values "field" with
    | [] => pure fun n => decide (n = 1)
    | [text] => fieldsNamed text
    | _ => throw ("multiple field specifications".toList, false)
  let format ← match given.value? "format" with
    | none => pure none
    | some text =>
        if given.has "grouping" then
          throw ("--grouping cannot be combined with --format".toList, false)
        match Format.ofText text with
        | .ok format => pure (some format)
        | .error problem => throw (problem, false)
  let chosen {α : Type} (word : String) (words : List (String × α)) (usual : α) : α :=
    (((given.value? word).bind (chosen? (words.map fun (word, _) => [word]))).bind
      fun word => words.lookup word).getD usual
  let scale := chosen "to" scales .plain
  if given.has "grouping" && scale ≠ .plain then
    throw ("grouping cannot be combined with --to".toList, false)
  let ownWidth := format.bind (·.width)
  return {
    form :=
      ⟨scale, chosen "round" roundings .fromZero, format.bind (·.places),
        (format.map (·.zeros)).getD 0⟩
    source := chosen "from" scales .plain
    factor := (fromUnit, toUnit)
    suffix := (given.value? "suffix").getD []
    separator
    isChosen
    width := ownWidth.orElse fun _ => if padding = 0 then none else some padding.natAbs
    toRight := if ownWidth.isSome then (format.map (·.toRight)).getD true else 0 ≤ padding
    before := (format.map (·.before)).getD []
    behind := (format.map (·.behind)).getD []
    strictness := chosen "invalid" strictnesses .abort }

/-- The number of lines at the start that are not changed. -/
def headerOf (given : Invocation) : Except Refusal Nat :=
  if !given.has "header" then .ok 0
  else
    match given.value? "header" with
    | none => .ok 1
    | some text =>
        match Octets.number? text with
        | some (n + 1) => .ok (n + 1)
        | _ => .error ("invalid header value ".toList ++ quoted text, false)

/-- Writes numbers as a plan says. -/
def convert (self : Octets) (given : Invocation) (plan : Plan) (header : Nat) : Act Nat := do
  let mark := lineEnd given
  if given.has "debug" && plan.form.scale = .plain && plan.source = .plain &&
      !given.has "grouping" && !given.has "padding" && !given.has "format" then
    complainAs self "no conversion option specified".toList
  let outcome ← if given.operands.isEmpty then do
      let (text, _) ← readJoined self plainVoice []
      let lines := Octets.keepingEnds mark text
      put (lines.take header).flatten
      showLines self plan mark ((lines.drop header).map fun line =>
        if line.getLast? = some mark then (line.dropLast, true) else (line, false))
    else showLines self plan mark (given.operands.map (·, true))
  match outcome with
  | .well => return 0
  | .given => return 2
  | .invalid =>
      return if plan.strictness = .warn || plan.strictness = .ignore then 0 else 2

/-- Writes numbers with letters that multiply them, or without. -/
def numfmt : Program := fun self arguments =>
  withOptions self rules true 1 arguments fun given => do
    let wrong := given.options.findSome? fun option => do
      let words ← choices.lookup option.word
      let value ← option.value
      if (chosen? (words.map ([·])) value).isSome then none
      else some (option.word, words, value)
    if let some (word, words, value) := wrong then
      complainOfChoice self ("--" ++ word) (words.map ([·])) value
      return 1
    let plan? := do return (← planOf given, ← headerOf given)
    match plan? with
    | .ok (plan, header) => convert self given plan header
    | .error (problem, offersHelp) =>
        complainAs self problem
        if offersHelp then pointToHelp self
        return 1

end BlockExtension.Shell.Utility.Scaling
