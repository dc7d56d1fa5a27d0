import BlockExtension.Shell.Utility.Input

/-!
# Tabs and blanks

The programs that put blanks in the place of tabs, and tabs in the place of
blanks. Where tabs lead to is told by tab stops: columns from which on another
rule holds for all further ones.
-/

namespace BlockExtension.Shell.Utility.Tabulation

open Act

/-! ## Tab stops -/

/-- Where tabs lead to behind the last stop of a list. -/
inductive Further where
  /-- One column on. -/
  | nowhere
  | multiples (size : Nat)
  /-- To the next stop at a distance from the last one of the list. -/
  | steps (size : Nat)
  deriving DecidableEq, Repr

/-- The stops that tabs lead to. -/
structure Stops where
  columns : List Nat
  further : Further
  deriving DecidableEq, Repr

def Stops.every (size : Nat) : Stops := ⟨[], .multiples size⟩

/-- The stop that a tab at a column leads to, if there is one. -/
def Stops.next? (stops : Stops) (column : Nat) : Option Nat :=
  match stops.columns.find? (column < ·) with
  | some stop => some stop
  | none =>
      match stops.further with
      | .nowhere => none
      | .multiples size => some (column + (size - column % size))
      | .steps size =>
          let last := stops.columns.getLast?.getD 0
          some (column + (size - (column - last) % size))

/-! ## Lists of stops -/

/-- What has been read of a list of stops. -/
structure Listing where
  columns : List Nat
  extended : Option Nat
  stepped : Option Nat
  deriving DecidableEq, Repr

/-- A listing with one more number, which a mark may stand before. -/
def Listing.add (listing : Listing) (mark : Option Char) (n : Nat) : Except Octets Listing :=
  match mark with
  | some '/' =>
      if listing.extended.isSome then
        .error "'/' specifier only allowed with the last value".toList
      else .ok { listing with extended := some n }
  | some _ =>
      if listing.stepped.isSome then
        .error "'+' specifier only allowed with the last value".toList
      else .ok { listing with stepped := some n }
  | none =>
      if listing.extended.isSome then
        .error "'/' specifier only allowed with the last value".toList
      else if listing.stepped.isSome then
        .error "'+' specifier only allowed with the last value".toList
      else .ok { listing with columns := listing.columns ++ [n] }

/-- A listing with the numbers of a text, between commas and blanks. -/
def Listing.read (listing : Listing) (text : Octets) : Except Octets Listing :=
  let pieces := (Octets.cutAt ',' text).flatMap fun piece =>
    (Octets.cutAt ' ' piece).flatMap (Octets.cutAt '\t')
  pieces.foldlM (fun listing piece =>
    match piece with
    | [] => .ok listing
    | piece =>
        let (mark, digits) := match piece with
          | '/' :: rest => (some '/', rest)
          | '+' :: rest => (some '+', rest)
          | rest => (none, rest)
        let number := digits.takeWhile Char.isDigit
        let behind := digits.drop number.length
        match behind with
        | [] =>
            if number.isEmpty then .ok listing
            else listing.add mark (Octets.valueOf number)
        | c :: _ =>
            if (c = '/' || c = '+') && !number.isEmpty then
              .error (('\'' :: c :: "' specifier not at start of number: ".toList) ++
                quoted behind)
            else .error ("tab size contains invalid character(s): ".toList ++ quoted behind))
    listing

def Listing.stops (listing : Listing) : Except Octets Stops := do
  let rec check : Nat → List Nat → Except Octets Unit
    | _, [] => .ok ()
    | before, column :: rest =>
        if column = 0 then .error "tab size cannot be 0".toList
        else if column ≤ before then .error "tab sizes must be ascending".toList
        else check column rest
  check 0 listing.columns
  match listing.columns, listing.extended, listing.stepped with
  | _, some _, some _ => .error "'/' specifier is mutually exclusive with '+'".toList
  | [], none, none => return .every 8
  | [], some size, _ => return .every (if size = 0 then 8 else size)
  | [], _, some size => return .every (if size = 0 then 8 else size)
  | [size], none, none => return .every size
  | columns, some size, _ => return ⟨columns, if size = 0 then .nowhere else .multiples size⟩
  | columns, _, some size => return ⟨columns, if size = 0 then .nowhere else .steps size⟩
  | columns, none, none => return ⟨columns, .nowhere⟩

def bareNumber : OptionRule := setting "\x01" '\x01'

def stopsOf (given : Invocation) : Except Octets Stops := do
  let values := given.options.filterMap fun option =>
    if option.word = "tabs" || option.word = bareNumber.word then option.value else none
  let listing ← values.foldlM Listing.read ⟨[], none, none⟩
  listing.stops

/-! ## Blanks for tabs -/

/-- A text with blanks in place of its tabs, or of those only that start a line. -/
def expanded (stops : Stops) (onlyFirst : Bool) : (converts : Bool) → (column : Nat) →
    Octets → Octets
  | _, _, [] => []
  | converts, column, c :: rest =>
      if c = '\n' then '\n' :: expanded stops onlyFirst true 0 rest
      else if !converts then c :: expanded stops onlyFirst false column rest
      else if c = '\t' then
        let stop := (stops.next? column).getD (column + 1)
        List.replicate (stop - column) ' ' ++ expanded stops onlyFirst true stop rest
      else
        let column := if c = '\x08' then column - 1 else column + 1
        c :: expanded stops onlyFirst (!onlyFirst || Octets.isBlank c) column rest

def withTabLetter (arguments : List Octets) : List Octets :=
  arguments.map (spelledOut "-\x01")

/-- Puts blanks in the place of the tabs of its inputs. -/
def expand : Program := fun self arguments =>
  withOptions self [switch "initial" 'i', setting "tabs" 't', bareNumber] true 1
      (withTabLetter arguments) fun given => do
    match stopsOf given with
    | .error problem =>
        complainAs self problem
        return 1
    | .ok stops =>
        let (text, all) ← readJoined self plainVoice given.operands
        finish (expanded stops (given.has "initial") true 0 text) all

/-! ## Tabs for blanks -/

/-- Where the work on a line is. -/
structure Progress where
  column : Nat
  converts : Bool
  isBeforeStop : Bool
  wasBlank : Bool
  /-- Blanks that may yet become a tab, backwards. -/
  waiting : Octets

def Progress.start : Progress := ⟨0, true, false, true, []⟩

/-- The blanks that wait, as they are written when something else follows. -/
def Progress.released (progress : Progress) : Octets :=
  let waiting := progress.waiting.reverse
  match waiting with
  | _ :: second :: rest => if progress.isBeforeStop then '\t' :: second :: rest else waiting
  | _ => waiting

/-- What is written for a character, and where the work is behind it. -/
def Progress.step (stops : Stops) (all : Bool) (progress : Progress) (c : Char) :
    Octets × Progress :=
  if c = '\n' then (progress.released ++ ['\n'], .start)
  else if !progress.converts then ([c], progress)
  else
    let releasing (c : Char) (progress : Progress) (isBlank : Bool) : Octets × Progress :=
      (progress.released ++ [c],
        { progress with
          waiting := []
          isBeforeStop := false
          wasBlank := isBlank
          converts := progress.converts && (all || isBlank) })
    if !Octets.isBlank c then
      let column := if c = '\x08' then progress.column - 1 else progress.column + 1
      releasing c { progress with column } false
    else
      match stops.next? progress.column with
      | none => releasing c { progress with converts := false } true
      | some stop =>
          let kept (waiting : Octets) : Octets :=
            if progress.isBeforeStop then waiting.drop (waiting.length - 1) else []
          if c = '\t' then
            let waiting := if progress.waiting.isEmpty then []
              else progress.waiting.dropLast ++ ['\t']
            releasing '\t' { progress with column := stop, waiting := kept waiting } true
          else
            let column := progress.column + 1
            if progress.wasBlank && column = stop then
              let waiting := if progress.waiting.isEmpty then ['\t']
                else progress.waiting.dropLast ++ ['\t']
              releasing '\t' { progress with column, waiting := kept waiting } true
            else
              ([], { progress with
                column
                isBeforeStop := progress.isBeforeStop || column = stop
                wasBlank := true
                waiting := ' ' :: progress.waiting })

/-- A text with tabs in place of blanks before a stop. -/
def unexpanded (stops : Stops) (all : Bool) : Progress → Octets → Octets
  | progress, [] => progress.released
  | progress, c :: rest =>
      let (text, progress) := progress.step stops all c
      text ++ unexpanded stops all progress rest

/-- Puts tabs in the place of the blanks of its inputs. -/
def unexpand : Program := fun self arguments =>
  withOptions self
      [switch "all" 'a', ⟨"first-only", none, .nothing⟩, setting "tabs" 't', bareNumber] true 1
      (withTabLetter arguments) fun given => do
    match stopsOf given with
    | .error problem =>
        complainAs self problem
        return 1
    | .ok stops =>
        let all := (given.has "all" || given.has "tabs") && !given.has "first-only"
        let (text, read) ← readJoined self plainVoice given.operands
        finish (unexpanded stops all .start text) read

end BlockExtension.Shell.Utility.Tabulation
