import BlockExtension.Shell.Doubles
import BlockExtension.Shell.Calendar
import BlockExtension.Shell.Reader.Words
import BlockExtension.Shell.Utility.Options

/-!
# Writing arguments

The two utilities that write their arguments: one as they are, with escapes in
them perhaps, the other as a format says. What they write is a value, and so is
what they complain about, since both go out in an order of their own.
-/

namespace BlockExtension.Shell.Utility.Print

open Reader (digit? digits letterEscape?)

/-! ## Escapes -/

/-- Whose rules for escapes in an argument apply. -/
inductive Escapes where
  | octal
  | hexadecimal
  /-- Those, and numbers of characters that are no octets. -/
  | extended
  deriving DecidableEq, Repr

/-- A text with its escapes replaced; the flag says that output ends here. -/
def unescaped (escapes : Escapes) : (fuel : Nat) → Octets → Octets × Bool
  | 0, _ => ([], false)
  | _, [] => ([], false)
  | fuel + 1, '\\' :: c :: rest =>
      let followed (found rest : Octets) : Octets × Bool :=
        let (more, stop) := unescaped escapes fuel rest
        (found ++ more, stop)
      if c = 'c' then ([], true)
      else if c = '0' then
        let (value, rest) := digits 8 3 0 rest
        followed [Char.ofNat (value % 256)] rest
      else if (digit? 8 c).isSome then
        let (value, rest) := digits 8 3 0 (c :: rest)
        followed [Char.ofNat (value % 256)] rest
      else if escapes ≠ .octal && c = 'x' && (rest.head?.bind (digit? 16)).isSome then
        let (value, rest) := digits 16 2 0 rest
        followed [Char.ofNat value] rest
      else if escapes = .extended && (c = 'u' || c = 'U') &&
          (rest.head?.bind (digit? 16)).isSome then
        let (value, rest) := digits 16 (if c = 'u' then 4 else 8) 0 rest
        followed (Reader.numberedShortly value) rest
      else
        match letterEscape? c with
        | some found => followed [found] rest
        | none => followed ['\\', c] rest
  | fuel + 1, c :: rest =>
      let (more, stop) := unescaped escapes fuel rest
      (c :: more, stop)

/-- A text with its escapes replaced, and whether output ends with it. -/
def interpreted (escapes : Escapes) (text : Octets) : Octets × Bool :=
  unescaped escapes (text.length + 1) text

/-! ## Arguments as they are -/

/-- Arguments with blanks between them, as a script's own utility writes them. -/
def echo (arguments : List Octets) : Octets :=
  let (feed, words) :=
    match arguments with
    | ['-', 'n'] :: rest => (false, rest)
    | words => (true, words)
  let (text, stop) := interpreted .octal (Octets.joined [' '] words)
  if feed && !stop then text ++ ['\n'] else text

def echoOptions : List Octets → Octets × List Octets
  | ('-' :: c :: letters) :: rest =>
      if (c :: letters).all (['n', 'e', 'E'].contains ·) then
        let (more, words) := echoOptions rest
        (c :: letters ++ more, words)
      else ([], ('-' :: c :: letters) :: rest)
  | words => ([], words)

/-- Arguments with blanks between them; options say whether escapes have a meaning. -/
def plainEcho (kind : Escapes) (arguments : List Octets) : Octets :=
  let (letters, words) := echoOptions arguments
  let escapes := (letters.filter (· ≠ 'n')).getLast? = some 'e'
  let text := Octets.joined [' '] words
  let (text, stop) := if escapes then interpreted kind text else (text, false)
  if letters.contains 'n' || stop then text else text ++ ['\n']

/-! ## Formats -/

/-- How complaints about numbers and formats are put. -/
structure Voice where
  escapes : Escapes
  noNumber : Octets → Octets
  leftover : Octets → Octets
  tooLarge : Octets → Octets
  badDirective : Octets → Octets
  noDirective : Octets
  takesLoneQuote : Bool
  asWord : Option (Octets → Octets)
  /-- The moment that it is, if there are directives for moments. -/
  now : Option Int

def shellVoice : Voice where
  escapes := .octal
  noNumber text := text ++ ": expected numeric value".toList
  leftover text := text ++ ": not completely converted".toList
  tooLarge text := text ++ ": Numerical result out of range".toList
  badDirective text := text ++ ": invalid directive".toList
  noDirective := "missing format character".toList
  takesLoneQuote := true
  asWord := none
  now := none

def extendedVoice (now : Int) : Voice where
  escapes := .extended
  noNumber text := text ++ ": invalid number".toList
  leftover text := text ++ ": invalid number".toList
  tooLarge text := "warning: ".toList ++ text ++ ": Numerical result out of range".toList
  badDirective text :=
    match text.reverse with
    | c :: _ => ['\x60', c] ++ "': invalid format character".toList
    | [] => []
  noDirective := "missing format character".toList
  takesLoneQuote := true
  asWord := some Quotation.asWord
  now := some now

def programVoice : Voice where
  escapes := .hexadecimal
  noNumber text := quoted text ++ ": expected a numeric value".toList
  leftover text := quoted text ++ ": value not completely converted".toList
  tooLarge text := quoted text ++ ": Numerical result out of range".toList
  badDirective text := text ++ ": invalid conversion specification".toList
  noDirective := "%: invalid conversion specification".toList
  takesLoneQuote := false
  asWord := some named
  now := none

/-- How far the writing of a format has come. -/
structure Progress where
  written : Octets
  complaints : List Octets
  arguments : List Octets
  /-- Output ends here. -/
  stopped : Bool
  failed : Bool

namespace Progress

def put (progress : Progress) (text : Octets) : Progress :=
  { progress with written := progress.written ++ text }

/-- Says that something is wrong with an argument. -/
def complain (progress : Progress) (text : Octets) : Progress :=
  { progress with complaints := progress.complaints ++ [text], failed := true }

/-- The next argument, if there is one left. -/
def take (progress : Progress) : Option Octets × Progress :=
  (progress.arguments.head?, { progress with arguments := progress.arguments.drop 1 })

end Progress

/-- A directive of a format. -/
structure Directive where
  flags : Octets
  width : Nat
  places : Option Nat
  letter : Char
  moment : Option Octets
  /-- As it is written. -/
  text : Octets

namespace Directive

/-- A text brought to the width, with a sign or another start that zeros go behind. -/
def fill (directive : Directive) (zeros : Bool) (start text : Octets) : Octets :=
  let missing := directive.width - (start.length + text.length)
  if directive.flags.contains '-' then start ++ text ++ List.replicate missing ' '
  else if zeros && directive.flags.contains '0' then
    start ++ List.replicate missing '0' ++ text
  else List.replicate missing ' ' ++ start ++ text

def sign (directive : Directive) (negative : Bool) : Octets :=
  if negative then ['-']
  else if directive.flags.contains '+' then ['+']
  else if directive.flags.contains ' ' then [' ']
  else []

def digitsOf (directive : Directive) (base n : Nat) : Octets :=
  let digits := if n = 0 && directive.places = some 0 then [] else Nat.toDigits base n
  List.replicate (directive.places.getD 1 - digits.length) '0' ++ digits

def signed (directive : Directive) (n : Int) : Octets :=
  directive.fill directive.places.isNone (directive.sign (n < 0))
    (directive.digitsOf 10 n.natAbs)

/-- A whole number without a sign. -/
def unsigned (directive : Directive) (n : Nat) : Octets :=
  let marked := directive.flags.contains '#' && n ≠ 0
  let fill := directive.fill directive.places.isNone
  match directive.letter with
  | 'o' =>
      let digits := directive.digitsOf 8 n
      fill [] (if marked && digits.head? ≠ some '0' then '0' :: digits else digits)
  | 'x' => fill (if marked then ['0', 'x'] else []) (directive.digitsOf 16 n)
  | 'X' =>
      fill (if marked then ['0', 'X'] else []) ((directive.digitsOf 16 n).map Char.toUpper)
  | _ => fill [] (directive.digitsOf 10 n)

/-- A number that need not be whole. -/
def real (directive : Directive) (x : Decimal.Double) : Octets :=
  let places := directive.places.getD 6
  let text :=
    match directive.letter with
    | 'f' => x.fixed places
    | 'F' => x.fixed places
    | 'e' => x.scientific places 'e'
    | 'E' => x.scientific places 'E'
    | 'g' => x.general places 'e'
    | _ => x.general places 'E'
  directive.fill true (directive.sign x.negative) text

def texts (directive : Directive) (text : Octets) : Octets :=
  directive.fill false []
    (match directive.places with
      | some places => text.take places
      | none => text)

end Directive

/-- The whole number at the start of a text, and what follows it; nothing if there is none. -/
def wholeNumber? (text : Octets) : Option (Int × Octets) :=
  let text := text.dropWhile Octets.isSpace
  let (negative, text) :=
    match text with
    | '-' :: rest => (true, rest)
    | '+' :: rest => (false, rest)
    | rest => (false, rest)
  let (base, found) :=
    match text with
    | '0' :: x :: rest =>
        if (x = 'x' || x = 'X') && (rest.head?.bind (digit? 16)).isSome then (16, rest)
        else (8, text)
    | text => (10, text)
  let digits := found.takeWhile fun c => (digit? base c).isSome
  if digits.isEmpty then none
  else
    let n := digits.foldl (fun total c => total * base + (digit? base c).getD 0) 0
    some (if negative then -(n : Int) else n, found.drop digits.length)

/-- The number at the start of a text, with a fraction and an exponent, and what follows it. -/
def realNumber? (text : Octets) : Option (Decimal.Double × Octets) :=
  let text := text.dropWhile Octets.isSpace
  let (negative, text) :=
    match text with
    | '-' :: rest => (true, rest)
    | '+' :: rest => (false, rest)
    | rest => (false, rest)
  let whole := text.takeWhile Char.isDigit
  let rest := text.drop whole.length
  let (fraction, rest) :=
    match rest with
    | '.' :: behind =>
        let fraction := behind.takeWhile Char.isDigit
        (fraction, behind.drop fraction.length)
    | rest => ([], rest)
  if whole.isEmpty && fraction.isEmpty then none
  else
    let (exponent, rest) : Int × Octets :=
      match rest with
      | e :: behind =>
          if e = 'e' || e = 'E' then
            let (minus, behind) :=
              match behind with
              | '-' :: rest => (true, rest)
              | '+' :: rest => (false, rest)
              | rest => (false, rest)
            let digits := behind.takeWhile Char.isDigit
            if digits.isEmpty then (0, rest)
            else
              let n := min (Octets.valueOf digits) 5000
              (if minus then -(n : Int) else n, behind.drop digits.length)
          else (0, rest)
      | [] => (0, rest)
    let power := exponent - fraction.length
    let n := Octets.valueOf (whole ++ fraction) * Decimal.twoPow 1074
    let found :=
      if power < 0 then Decimal.Double.nearest negative n (Decimal.tenPow power.natAbs)
      else Decimal.Double.nearest negative (n * Decimal.tenPow power.natAbs) 1
    some (found.getD (.zero negative), rest)

def wholeBounds : Nat × Nat := (9223372036854775807, 18446744073709551616)

/-- A whole number for a directive; what is wrong with the argument is complained about. -/
def wholeArgument (voice : Voice) (signed : Bool) (progress : Progress) : Int × Progress :=
  match progress.take with
  | (none, progress) => (0, progress)
  | (some ('\'' :: c :: _), progress) => (c.toNat, progress)
  | (some ('"' :: c :: _), progress) => (c.toNat, progress)
  | (some text, progress) =>
      if voice.takesLoneQuote && (text = ['\''] || text = ['"']) then (0, progress)
      else checked text progress
where
  /-- The number of an argument that is no character. -/
  checked (text : Octets) (progress : Progress) : Int × Progress :=
    match wholeNumber? text with
    | none => (0, if text.isEmpty then progress else progress.complain (voice.noNumber text))
    | some (n, rest) =>
        let (greatest, beyond) := wholeBounds
        let top : Int := if signed then greatest else beyond - 1
        let bottom : Int := if signed then -(greatest : Int) - 1 else -(beyond : Int) + 1
        if top < n then (top, progress.complain (voice.tooLarge text))
        else if n < bottom then (bottom, progress.complain (voice.tooLarge text))
        else if rest.isEmpty then (n, progress)
        else (n, progress.complain (voice.leftover text))

/-- A number that need not be whole, for a directive. -/
def realArgument (voice : Voice) (progress : Progress) : Decimal.Double × Progress :=
  match progress.take with
  | (none, progress) => (.zero false, progress)
  | (some text, progress) =>
      match realNumber? text with
      | none =>
          (.zero false,
            if text.isEmpty then progress else progress.complain (voice.noNumber text))
      | some (x, []) => (x, progress)
      | some (x, _) => (x, progress.complain (voice.leftover text))

/-- A moment that an argument names by its seconds, or by a number below nought for now. -/
def momentArgument (voice : Voice) (progress : Progress) : Calendar.Moment × Progress :=
  let now := voice.now.getD 0
  if progress.arguments.isEmpty then (⟨now, 0⟩, progress)
  else
    let (n, progress) := wholeArgument voice true progress
    (⟨if n = -1 || n = -2 then now else n, 0⟩, progress)

/-- What a directive writes; nothing if it has no meaning. -/
def conversion? (voice : Voice) (directive : Directive) (progress : Progress) :
    Option Progress :=
  match directive.letter with
  | '%' => if directive.text = ['%', '%'] then some (progress.put ['%']) else none
  | 's' =>
      let (text, progress) := progress.take
      some (progress.put (directive.texts (text.getD [])))
  | 'c' =>
      let (text, progress) := progress.take
      let c := match text with
        | some (c :: _) => c
        | _ => '\x00'
      some (progress.put (directive.fill false [] [c]))
  | 'b' =>
      let (text, progress) := progress.take
      let (text, stop) := interpreted voice.escapes (text.getD [])
      let progress := progress.put (directive.texts text)
      some { progress with stopped := progress.stopped || stop }
  | 'q' =>
      voice.asWord.map fun asWord =>
        let (text, progress) := progress.take
        progress.put (directive.texts (asWord (text.getD [])))
  | 'T' =>
      directive.moment.map fun format =>
        let format := if format.isEmpty then "%X".toList else format
        let (moment, progress) := momentArgument voice progress
        progress.put (directive.texts (moment.written false format))
  | letter =>
      if letter = 'd' || letter = 'i' then
        let (n, progress) := wholeArgument voice true progress
        some (progress.put (directive.signed n))
      else if ['o', 'u', 'x', 'X'].contains letter then
        let (n, progress) := wholeArgument voice false progress
        some (progress.put (directive.unsigned (n % (wholeBounds.2 : Int)).toNat))
      else if ['f', 'F', 'e', 'E', 'g', 'G'].contains letter then
        let (x, progress) := realArgument voice progress
        some (progress.put (directive.real x))
      else none

def directiveNumber (progress : Progress) : Octets → Option Int × Octets × Octets × Progress
  | '*' :: rest =>
      let (text, progress) := progress.take
      (some (((text.bind wholeNumber?).map (·.1)).getD 0), ['*'], rest, progress)
  | text =>
      let digits := text.takeWhile Char.isDigit
      (if digits.isEmpty then none else some (Octets.valueOf digits), digits,
        text.drop digits.length, progress)

def momentFormat? : (depth : Nat) → Octets → Option (Octets × Octets)
  | _, [] => none
  | 0, ')' :: 'T' :: rest => some ([], 'T' :: rest)
  | 0, ')' :: _ => none
  | depth + 1, ')' :: rest => (momentFormat? depth rest).map fun (format, rest) =>
      (')' :: format, rest)
  | depth, '(' :: rest => (momentFormat? (depth + 1) rest).map fun (format, rest) =>
      ('(' :: format, rest)
  | depth, c :: rest => (momentFormat? depth rest).map fun (format, rest) => (c :: format, rest)

def directive? (voice : Voice) (text : Octets) (progress : Progress) :
    Option Directive × Octets × Progress :=
  let flags := text.takeWhile (['#', '-', '+', ' ', '0'].contains ·)
  let (width, shownWidth, rest, progress) := directiveNumber progress (text.drop flags.length)
  let (places, shownPlaces, rest, progress) :=
    match rest with
    | '.' :: rest =>
        let (places, shown, rest, progress) := directiveNumber progress rest
        (some (places.getD 0), '.' :: shown, rest, progress)
    | rest => (none, [], rest, progress)
  let rest := if voice.escapes = .octal then rest
    else rest.dropWhile (['l', 'h', 'j', 'z', 't', 'L'].contains ·)
  let (moment, rest) := match voice.now, rest with
    | some _, '(' :: behind =>
        match momentFormat? 0 behind with
        | some (format, rest) => (some format, rest)
        | none => (none, rest)
    | _, rest => (none, rest)
  let flags := if width.any (· < 0) then '-' :: flags else flags
  match rest with
  | [] => (none, [], progress)
  | letter :: rest =>
      (some
        { flags
          width := (width.getD 0).natAbs
          places := places.bind fun n => if n < 0 then none else some n.toNat
          letter
          moment
          text := '%' :: flags ++ shownWidth ++ shownPlaces ++ [letter] }, rest, progress)

/-- One pass over a format; the flag says that the format has no meaning. -/
def pass (voice : Voice) : (fuel : Nat) → Octets → Progress → Progress × Bool
  | 0, _, progress => (progress, false)
  | _, [], progress => (progress, false)
  | fuel + 1, '\\' :: c :: rest, progress =>
      if (digit? 8 c).isSome then
        let (value, rest) := digits 8 3 0 (c :: rest)
        pass voice fuel rest (progress.put [Char.ofNat (value % 256)])
      else if voice.escapes ≠ .octal && c = 'x' &&
          (rest.head?.bind (digit? 16)).isSome then
        let (value, rest) := digits 16 2 0 rest
        pass voice fuel rest (progress.put [Char.ofNat value])
      else if voice.escapes ≠ .octal && c = 'c' then
        ({ progress with stopped := true }, false)
      else if voice.escapes ≠ .octal && c = '"' then
        pass voice fuel rest (progress.put [c])
      else if voice.escapes ≠ .octal && (c = 'u' || c = 'U') then
        let places := if c = 'u' then 4 else 8
        let (value, behind) := digits 16 places 0 rest
        let found := rest.length - behind.length
        if voice.escapes = .extended then
          if found = 0 then pass voice fuel rest (progress.put ['\\', c])
          else pass voice fuel behind (progress.put (Reader.numberedShortly value))
        else if found < places then
          (progress.complain "missing hexadecimal number in escape".toList, true)
        else if 0xd800 ≤ value && value ≤ 0xdfff then
          (progress.complain ("invalid universal character name \\".toList ++
            c :: rest.take places), true)
        else pass voice fuel behind (progress.put (Reader.numberedShortly value))
      else
        match letterEscape? c with
        | some found => pass voice fuel rest (progress.put [found])
        | none => pass voice fuel rest (progress.put ['\\', c])
  | fuel + 1, '%' :: rest, progress =>
      match directive? voice rest progress with
      | (none, _, progress) => (progress.complain voice.noDirective, true)
      | (some directive, rest, progress) =>
          match conversion? voice directive progress with
          | none => (progress.complain (voice.badDirective directive.text), true)
          | some progress =>
              if progress.stopped then (progress, false) else pass voice fuel rest progress
  | fuel + 1, c :: rest, progress => pass voice fuel rest (progress.put [c])

def passes (voice : Voice) (format : Octets) : (fuel : Nat) → Progress → Progress × Bool
  | 0, progress => (progress, false)
  | fuel + 1, progress =>
      match pass voice (format.length + 1) format progress with
      | (next, true) => (next, true)
      | (next, false) =>
          if next.stopped || next.arguments.isEmpty ||
              next.arguments.length = progress.arguments.length then (next, false)
          else passes voice format fuel next

/-- Writes arguments as a format says; the flag says that the format has no meaning. -/
def format (voice : Voice) (format : Octets) (arguments : List Octets) : Progress × Bool :=
  passes voice format (arguments.length + 1) ⟨[], [], arguments, false, false⟩

end BlockExtension.Shell.Utility.Print
