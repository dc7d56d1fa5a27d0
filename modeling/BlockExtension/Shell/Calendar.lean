import BlockExtension.Shell.Doubles
import BlockExtension.Shell.Octets

/-!
# Calendar

Days by their numbers, from the first of January 1970 on and before it, and
moments as a format shows them. There is one time zone, the one that the
numbers of the seconds are counted in.
-/

namespace BlockExtension.Shell.Calendar

/-! ## Days -/

/-- A day, as a year, a month and a day of the month. -/
structure Day where
  year : Int
  month : Nat
  day : Nat
  deriving DecidableEq, Repr

/-- How many days there are in four hundred years. -/
def eraLength : Nat := 146097

/-- The number of the first of March of the year nought, from which eras are counted. -/
def eraStart : Int := -719468

/-- The year in an era that a day of it falls into, if years begin in March. -/
def yearOfEra (day : Nat) : Nat :=
  (day - day / 1460 + day / 36524 - day / 146096) / 365

def daysBefore (year : Nat) : Nat := 365 * year + year / 4 - year / 100

/-- The day that is some days behind the first of January 1970. -/
def Day.ofNumber (number : Int) : Day :=
  let shifted := number - eraStart
  let era := shifted.fdiv eraLength
  let inEra := (shifted.fmod eraLength).toNat
  let year := yearOfEra inEra
  let dayOfYear := inEra - daysBefore year
  let shiftedMonth := (5 * dayOfYear + 2) / 153
  let month := if shiftedMonth < 10 then shiftedMonth + 3 else shiftedMonth - 9
  { year := (year : Int) + era * 400 + (if month ≤ 2 then 1 else 0)
    month
    day := dayOfYear - (153 * shiftedMonth + 2) / 5 + 1 }

/-- How many days a day is behind the first of January 1970. -/
def Day.number (day : Day) : Int :=
  let year := if day.month ≤ 2 then day.year - 1 else day.year
  let era := year.fdiv 400
  let inEra := (year.fmod 400).toNat
  let shiftedMonth := if 2 < day.month then day.month - 3 else day.month + 9
  let dayOfYear := (153 * shiftedMonth + 2) / 5 + day.day - 1
  era * eraLength + (daysBefore inEra + dayOfYear : Nat) + eraStart

def Day.first (year : Int) : Day := ⟨year, 1, 1⟩

def monthLength (year : Int) (month : Nat) : Nat :=
  let next : Day := if month = 12 then ⟨year + 1, 1, 1⟩ else ⟨year, month + 1, 1⟩
  (next.number - (⟨year, month, 1⟩ : Day).number).toNat

def weekdays : List String :=
  ["Sunday", "Monday", "Tuesday", "Wednesday", "Thursday", "Friday", "Saturday"]

def months : List String :=
  ["January", "February", "March", "April", "May", "June", "July", "August", "September",
    "October", "November", "December"]

def weekdayOf (number : Int) : Nat := ((number + 4).fmod 7).toNat

/-! ## Moments -/

/-- A moment: seconds from the start of 1970, and parts of a second. -/
structure Moment where
  seconds : Int
  nanos : Nat
  deriving DecidableEq, Repr

namespace Moment

def toNanos (moment : Moment) : Int := moment.seconds * 1000000000 + moment.nanos

def ofNanos (nanos : Int) : Moment :=
  ⟨nanos.fdiv 1000000000, (nanos.fmod 1000000000).toNat⟩

def dayNumber (moment : Moment) : Int := moment.seconds.fdiv 86400

def timeOfDay (moment : Moment) : Nat := (moment.seconds.fmod 86400).toNat

def day (moment : Moment) : Day := Day.ofNumber moment.dayNumber

def weekday (moment : Moment) : Nat := weekdayOf moment.dayNumber

def dayOfYear (moment : Moment) : Nat :=
  (moment.dayNumber - (Day.first moment.day.year).number).toNat

/-- The year and the week of it that a day falls into, if weeks are not cut by the year's end. -/
def isoWeek (moment : Moment) : Int × Nat :=
  let monday := (moment.weekday + 6) % 7
  let thursday := moment.dayNumber - monday + 3
  let year := (Day.ofNumber thursday).year
  (year, ((thursday - (Day.first year).number) / 7).toNat + 1)

end Moment

/-! ## Formats -/

/-- What a directive shows: a number with so many digits, or a text. -/
inductive Piece where
  | number (n : Int) (width : Nat) (pad : Char)
  | text (text : Octets)
  deriving DecidableEq, Repr

/-- The format that a directive is short for. -/
def abbreviation? (letter : Char) : Option String :=
  match letter with
  | 'c' => some "%a %b %e %H:%M:%S %Y"
  | 'D' => some "%m/%d/%y"
  | 'F' => some "%Y-%m-%d"
  | 'r' => some "%I:%M:%S %p"
  | 'R' => some "%H:%M"
  | 'T' => some "%H:%M:%S"
  | 'x' => some "%m/%d/%y"
  | 'X' => some "%H:%M:%S"
  | _ => none

def twelveHour (hour : Nat) : Nat := if hour % 12 = 0 then 12 else hour % 12

/-- What a directive that is not short for others shows of a moment. -/
def piece? (moment : Moment) (letter : Char) : Option Piece :=
  let day := moment.day
  let time := moment.timeOfDay
  let hour := time / 3600
  let two (n : Int) : Option Piece := some (.number n 2 '0')
  let spaced (n : Int) : Option Piece := some (.number n 2 ' ')
  let text (text : String) : Option Piece := some (.text text.toList)
  let weekday := weekdays[moment.weekday]?.getD ""
  let month := months[day.month - 1]?.getD ""
  match letter with
  | 'a' => text (weekday.take 3).toString
  | 'A' => text weekday
  | 'b' => text (month.take 3).toString
  | 'h' => text (month.take 3).toString
  | 'B' => text month
  | 'C' => two (day.year.fdiv 100)
  | 'd' => two day.day
  | 'e' => spaced day.day
  | 'g' => two (moment.isoWeek.1.fmod 100)
  | 'G' => some (.number moment.isoWeek.1 4 '0')
  | 'H' => two hour
  | 'I' => two (twelveHour hour)
  | 'j' => some (.number (moment.dayOfYear + 1 : Nat) 3 '0')
  | 'k' => spaced hour
  | 'l' => spaced (twelveHour hour)
  | 'm' => two day.month
  | 'M' => two (time / 60 % 60 : Nat)
  | 'n' => text "\n"
  | 'p' => text (if hour < 12 then "AM" else "PM")
  | 'P' => text (if hour < 12 then "am" else "pm")
  | 's' => some (.number moment.seconds 1 '0')
  | 'S' => two (time % 60 : Nat)
  | 't' => text "\t"
  | 'u' => some (.number (if moment.weekday = 0 then 7 else moment.weekday : Nat) 1 '0')
  | 'U' => two ((moment.dayOfYear + 7 - moment.weekday) / 7 : Nat)
  | 'V' => two moment.isoWeek.2
  | 'w' => some (.number moment.weekday 1 '0')
  | 'W' => two ((moment.dayOfYear + 7 - (moment.weekday + 6) % 7) / 7 : Nat)
  | 'y' => two (day.year.fmod 100)
  | 'Y' => some (.number day.year 4 '0')
  | 'z' => text "+0000"
  | 'Z' => text "UTC"
  | '%' => text "%"
  | _ => none

/-- How a directive is to be shown. -/
structure Manner where
  flags : Octets
  width : Option Nat

namespace Manner

/-- The last flag that says what numbers are filled up with; a hyphen for nothing. -/
def filling? (manner : Manner) : Option Char :=
  (manner.flags.filter fun c => c = '-' || c = '_' || c = '0' || c = '+').getLast?

/-- A text with its letters as the flags want them. -/
def cased (manner : Manner) (letter : Char) (text : Octets) : Octets :=
  if manner.flags.contains '^' then text.map Char.toUpper
  else if manner.flags.contains '#' then
    if letter = 'p' || letter = 'Z' then text.map Char.toLower else text.map Char.toUpper
  else text

/-- A text brought to the width that is wanted. -/
def padded (manner : Manner) (text : Octets) : Octets :=
  let fill := if manner.filling? = some '0' then '0' else ' '
  if manner.filling? = some '-' then text
  else List.replicate (manner.width.getD 0 - text.length) fill ++ text

def shown (manner : Manner) (letter : Char) : Piece → Octets
  | .text text => manner.padded (manner.cased letter text)
  | .number n width pad =>
      let digits := Octets.ofNat n.natAbs
      let sign : Octets := if n < 0 then ['-'] else []
      let width := manner.width.getD width
      let missing := width - sign.length - digits.length
      match manner.filling?.getD pad with
      | '-' => sign ++ digits
      | '_' => List.replicate missing ' ' ++ sign ++ digits
      | ' ' => List.replicate missing ' ' ++ sign ++ digits
      | _ => sign ++ List.replicate missing '0' ++ digits

end Manner

/-- The digits of the parts of a second, nine of them or as many as are wanted. -/
def fraction (manner : Manner) (nanos : Nat) : Octets :=
  let all := Decimal.padded 9 nanos
  let width := manner.width.getD 9
  all.take width ++ List.replicate (width - 9) '0'

/-- A text in which a percent sign introduces a directive, at most so many in a row. -/
def written (precise : Bool) (moment : Moment) : (fuel : Nat) → Octets → Octets
  | 0, text => text
  | _, [] => []
  | fuel + 1, '%' :: rest =>
      let flags := rest.takeWhile fun c => "-_0+^#".toList.contains c
      let behind := rest.drop flags.length
      let digits := behind.takeWhile Char.isDigit
      let behind := behind.drop digits.length
      let colons := behind.takeWhile (· = ':')
      let behind := behind.drop colons.length
      let behind := match behind with
        | c :: next :: more => if c = 'E' || c = 'O' then next :: more else c :: next :: more
        | behind => behind
      let manner : Manner := ⟨flags, Octets.number? digits⟩
      match behind with
      | [] => manner.padded ('%' :: rest)
      | letter :: behind =>
          let taken := rest.take (rest.length - behind.length)
          let more := written precise moment fuel behind
          if letter = '%' && 1 < taken.length then manner.padded ('%' :: taken) ++ more
          else if letter = 'N' && precise then fraction manner moment.nanos ++ more
          else if letter = 'q' && precise then
            manner.shown letter (.number ((moment.day.month + 2) / 3 : Nat) 1 '0') ++ more
          else if letter = 'z' && precise && !colons.isEmpty then
            let zone := match colons.length with
              | 1 => "+00:00"
              | 2 => "+00:00:00"
              | _ => "+00"
            manner.padded zone.toList ++ more
          else
            match abbreviation? letter, piece? moment letter with
            | some format, _ =>
                manner.padded (manner.cased letter (written precise moment fuel format.toList)) ++
                  more
            | none, some piece => manner.shown letter piece ++ more
            | none, none => manner.padded ('%' :: taken) ++ more
  | fuel + 1, c :: rest => c :: written precise moment fuel rest

/-- How deep formats are short for others, beyond the length of a format. -/
def depth : Nat := 30

/-- A moment as a format shows it; the flag says that parts of seconds have directives, too. -/
def Moment.written (precise : Bool) (moment : Moment) (format : Octets) : Octets :=
  Calendar.written precise moment (format.length + depth) format

end BlockExtension.Shell.Calendar
