import BlockExtension.Shell.Calendar
import BlockExtension.Shell.Utility.Entries
import BlockExtension.Shell.Utility.Ranking

/-!
# What there is in directories

The program that shows the names of files, and what is known of the files besides.
Names are shown one in a line, in columns, in one stretch with commas between
them, or behind the permission bits, the owners, the size and the time.
-/

namespace BlockExtension.Shell.Utility.Listing

open Act
open Calendar
open Entries
open Permission (inside)

/-! ## Settings -/

/-- How names are put on lines. -/
inductive Layout where
  | single
  | long
  | commas
  /-- In columns, one column after the other. -/
  | down
  /-- In columns, one line after the other. -/
  | across
  deriving DecidableEq, Repr

/-- The order in which names are shown. -/
inductive Arrangement where
  | name
  | none
  | time
  | size
  | extension
  | version
  | width
  deriving DecidableEq, Repr

/-- How the characters of names are shown. -/
inductive Spelling where
  | literal
  | hidden
  | double
  | escaped
  | shell (always escapes : Bool)
  deriving DecidableEq, Repr

/-- Which kinds of files have a mark behind their names. -/
inductive Marking where
  | none
  | directories
  | kinds
  | all
  deriving DecidableEq, Repr

/-- Which links are shown as what they lead to. -/
inductive Deref where
  | never
  | namedDirectories
  | named
  | always
  deriving DecidableEq, Repr

/-- How sizes are shown. -/
inductive Measure where
  | plain
  | scaled (base : Nat)
  | units (size : Nat)
  deriving DecidableEq, Repr

/-- What an invocation asks for. -/
structure Plan where
  layout : Layout
  arrangement : Arrangement
  reversed : Bool
  directoriesFirst : Bool
  spelling : Spelling
  marking : Marking
  deref : Deref
  measure : Measure
  showsHidden : Bool
  showsDots : Bool
  ignored : List Octets
  recursive : Bool
  asEntries : Bool
  showsOwner : Bool
  showsGroup : Bool
  asNumbers : Bool
  showsBlocks : Bool
  showsSerial : Bool
  timeFormats : Octets × Octets
  width : Nat
  tabSize : Nat
  lineEnd : Char
  deriving Repr

/-- A file that is shown. -/
structure Item where
  name : Octets
  location : Files.Location
  entry : Files.Entry
  /-- What a link leads to. -/
  target : Option Files.Entry
  names : Nat
  time : Int

/-! ## Names -/

def escapedCharacter (special : List Char) (c : Char) : Octets :=
  let letter? : Option Char := match c with
    | '\x07' => some 'a'
    | '\x08' => some 'b'
    | '\x0c' => some 'f'
    | '\n' => some 'n'
    | '\r' => some 'r'
    | '\t' => some 't'
    | '\x0b' => some 'v'
    | _ => none
  match letter? with
  | some letter => ['\\', letter]
  | none =>
      if special.contains c then ['\\', c]
      else if Quotation.unprintable c then Quotation.escapedOctet c
      else [c]

/-- A name as it is shown. -/
def spelled (spelling : Spelling) (name : Octets) : Octets :=
  match spelling with
  | .literal => name
  | .hidden => name.map fun c => if Quotation.unprintable c then '?' else c
  | .double => '"' :: name.flatMap (escapedCharacter ['"', '\\']) ++ ['"']
  | .escaped => name.flatMap (escapedCharacter [' ', '\\'])
  | .shell always _ => if always && named name = name then '\'' :: name ++ ['\''] else named name

def mark (marking : Marking) (entry : Files.Entry) : Octets :=
  match marking, entry with
  | .none, _ => []
  | _, .directory _ => ['/']
  | .all, .file _ mode => if mode &&& 0o111 ≠ 0 then ['*'] else []
  | .all, .link _ => ['@']
  | .kinds, .link _ => ['@']
  | _, _ => []

/-! ## Order -/

/-- The part of a name from its last point on. -/
def extension (name : Octets) : Octets :=
  if name.contains '.' then '.' :: (name.reverse.takeWhile (· ≠ '.')).reverse else []

def ordered (plan : Plan) (items : List Item) : List Item :=
  let named := items.mergeSort fun a b => Octets.le a.name b.name
  let sorted := match plan.arrangement with
    | .name => named
    | .none => named
    | .size => named.mergeSort fun a b => lengthOf b.entry ≤ lengthOf a.entry
    | .time => named.mergeSort fun a b => b.time ≤ a.time
    | .extension => named.mergeSort fun a b => Octets.le (extension a.name) (extension b.name)
    | .version => named.mergeSort fun a b => Ranking.comparedVersions a.name b.name ≠ .gt
    | .width => named.mergeSort fun a b => a.name.length ≤ b.name.length
  let turned := if plan.reversed && plan.arrangement ≠ .none then sorted.reverse else sorted
  if plan.directoriesFirst then
    let isDirectory (item : Item) : Bool :=
      item.entry.isDirectory || item.target.any (·.isDirectory)
    turned.filter isDirectory ++ turned.filter (!isDirectory ·)
  else turned

/-! ## Columns -/

/-- The widths that columns need for names of some lengths, if there are so many of them. -/
def columnWidths (isDown : Bool) (lengths : List Nat) (columns : Nat) : List Nat :=
  let rows := (lengths.length + columns - 1) / columns
  (List.range columns).map fun column =>
    (lengths.zipIdx).foldl (fun most (length, n) =>
      let place := if isDown then n / rows else n % columns
      let needed := length + (if place + 1 = columns then 0 else 2)
      if place = column then max most needed else most) 3

/-- Columns with some widths fit into a line. -/
def isNarrow (width : Nat) (widths : List Nat) : Bool :=
  width = 0 || widths.foldl (· + ·) 0 < width

def columnCount (isDown : Bool) (width : Nat) (lengths : List Nat) : Nat :=
  let most := if width = 0 then lengths.length
    else min lengths.length (width / 3 + (if width % 3 = 0 then 0 else 1))
  let counts := ((List.range most).map (most - ·)).filter fun columns =>
    isNarrow width (columnWidths isDown lengths columns)
  max 1 (counts.headD 1)

/-- Blanks from one column to another, with tabs as far as they go. -/
def indented (tabSize : Nat) : (fuel : Nat) → (start goal : Nat) → Octets
  | 0, _, _ => []
  | fuel + 1, start, goal =>
      if goal ≤ start then []
      else if tabSize ≠ 0 && (start + 1) / tabSize < goal / tabSize then
        '\t' :: indented tabSize fuel (start + tabSize - start % tabSize) goal
      else ' ' :: indented tabSize fuel (start + 1) goal

/-- A line of cells, the first of which starts at a column. -/
def row (tabSize : Nat) : (start : Nat) → List (Octets × Nat) → Octets
  | _, [] => []
  | _, [(cell, _)] => cell
  | start, (cell, width) :: rest =>
      cell ++ indented tabSize (width + 1) (start + cell.length) (start + width) ++
        row tabSize (start + width) rest

def inColumns (plan : Plan) (isDown : Bool) (cells : List Octets) : List Octets :=
  let lengths := cells.map List.length
  let columns := columnCount isDown plan.width lengths
  let rows := (cells.length + columns - 1) / columns
  let columns := if isDown then (cells.length + rows - 1) / max 1 rows else columns
  let widths := columnWidths isDown lengths
    (columnCount isDown plan.width lengths)
  (List.range rows).map fun n =>
    let places := (List.range columns).map fun column =>
      if isDown then column * rows + n else n * columns + column
    let found := (places.zip widths).filterMap fun (place, width) =>
      (cells[place]?).map fun cell => (cell, width)
    row plan.tabSize 0 found

def withCommas (width : Nat) : (place : Nat) → List Octets → Octets
  | _, [] => []
  | _, [cell] => cell
  | place, cell :: next :: rest =>
      let behind := place + cell.length
      let fits := width = 0 || behind + next.length + 2 < width
      cell ++ ',' :: (if fits then ' ' else '\n') ::
        withCommas width (if fits then behind + 2 else 0) (next :: rest)

/-! ## Numbers -/

/-- A number of octets in the greatest units that leave some, rounded up. -/
def scaledText (base : Nat) (n : Nat) : Octets :=
  if n < base then Octets.ofNat n
  else
    let rec climb : (fuel : Nat) → (unit : Nat) → (letters : List Char) → Octets
      | fuel + 1, unit, letter :: letters =>
          let tenths := (n * 10 + unit - 1) / unit
          if tenths < 100 then
            Octets.ofNat (tenths / 10) ++ '.' :: Octets.ofNat (tenths % 10) ++ [letter]
          else
            let whole := (n + unit - 1) / unit
            if whole < base || letters.isEmpty then Octets.ofNat whole ++ [letter]
            else climb fuel (unit * base) letters
      | _, _, _ => Octets.ofNat n
    climb 10 base ((if base = 1000 then 'k' else 'K') :: "MGTPEZY".toList)

/-- The size of something that has so many octets. -/
def measured (measure : Measure) (n : Nat) : Octets :=
  match measure with
  | .plain => Octets.ofNat n
  | .scaled base => scaledText base n
  | .units size => Octets.ofNat ((n + size - 1) / max 1 size)

def measuredBlocks (measure : Measure) (blocks : Nat) : Octets :=
  match measure with
  | .plain => Octets.ofNat blocks
  | .scaled base => scaledText base (blocks * 1024)
  | .units size => Octets.ofNat ((blocks * 1024 + size - 1) / max 1 size)

/-! ## Long lines -/

def halfYear : Int := 15778476000000000

/-- The time of a file as it is shown; times of long ago are shown in another format. -/
def shownTime (plan : Plan) (now time : Int) : Octets :=
  let isRecent := now - halfYear < time && time ≤ now
  (Moment.ofNanos time).written true (if isRecent then plan.timeFormats.1 else plan.timeFormats.2)

/-- Who a file belongs to. -/
def ownersShown (plan : Plan) (location : Files.Location) : Octets × Octets :=
  let (owner, group) := ownersOf location
  if plan.asNumbers then
    (Octets.ofNat (numberOf owner), Octets.ofNat (numberOf group))
  else (owner, group)

/-- A text with blanks behind it up to a width. -/
def padRight (width : Nat) (text : Octets) : Octets :=
  text ++ List.replicate (width - text.length) ' '

/-- Texts with blanks before or behind them, so that all have the same length. -/
def aligned (left : Bool) (texts : List Octets) : List Octets :=
  let width := (texts.map List.length).foldl max 0
  texts.map fun text => if left then padRight width text else Octets.padLeft width text

/-- The name of a file with a mark behind it and, in a long line, what it leads to. -/
def shownName (plan : Plan) (item : Item) : Octets :=
  let name := spelled plan.spelling item.name
  match plan.layout, item.entry with
  | .long, .link path =>
      name ++ " -> ".toList ++ spelled plan.spelling (Octets.ofText path) ++
        (item.target.elim [] (mark plan.marking))
  | _, entry => name ++ mark plan.marking entry

/-- What is shown of files before their names, in columns. -/
def fronts (plan : Plan) (now : Int) (tree : Files.Tree) (items : List Item) :
    List Octets :=
  let size (item : Item) : Octets := match item.entry with
    | .device device =>
        Octets.ofNat device.numbers.1 ++ ", ".toList ++ Octets.ofNat device.numbers.2
    | entry => measured plan.measure (lengthOf entry)
  let columns : List (Bool × List Octets) :=
    (if plan.showsSerial then
      [(false, items.map fun item => Octets.ofNat (serialOf tree item.location))] else []) ++
    (if plan.showsBlocks then
      [(false, items.map fun item => measuredBlocks plan.measure (blocksOf item.entry))]
      else []) ++
    (if plan.layout ≠ .long then [] else
      [(true, items.map fun item =>
        kindLetter item.entry :: Permission.letters item.entry.mode),
      (false, items.map fun item => Octets.ofNat item.names)] ++
      (if plan.showsOwner then
        [(!plan.asNumbers, items.map fun item => (ownersShown plan item.location).1)] else []) ++
      (if plan.showsGroup then
        [(!plan.asNumbers, items.map fun item => (ownersShown plan item.location).2)] else []) ++
      [(false, items.map size),
        (true, items.map fun item => shownTime plan now item.time)])
  let columns := columns.map fun (left, texts) => aligned left texts
  items.zipIdx.map fun (_, n) =>
    columns.flatMap fun texts => texts.getD n [] ++ [' ']

def shown (plan : Plan) (now : Int) (tree : Files.Tree) (items : List Item) : Octets :=
  let fronts := fronts plan now tree items
  let cells := (fronts.zip items).map fun (front, item) => front ++ shownName plan item
  match plan.layout with
  | .commas =>
      if cells.isEmpty then [] else withCommas plan.width 0 cells ++ [plan.lineEnd]
  | .down => endedBy plan.lineEnd (inColumns plan true cells)
  | .across => endedBy plan.lineEnd (inColumns plan false cells)
  | _ => endedBy plan.lineEnd cells

/-! ## Directories -/

/-- A file with a name, as far as it can be looked at. -/
def itemAt (path name : Octets) (follows : Bool) : Act (Except Files.OsError Item) := do
  match ← lookedUp follows path with
  | .error error => return .error error
  | .ok (location, entry) =>
      let names ← nameCount location entry
      let target ← if entry.isLink then pure ((← entryAt? path).map (·.2)) else pure none
      return .ok ⟨name, location, entry, target, names, (← get).timeOf location⟩

def isLeftOut (plan : Plan) (name : Octets) : Bool :=
  (!plan.showsHidden && name.head? = some '.') ||
    plan.ignored.any fun pattern => Pattern.describes pattern name

/-- What is shown of a directory; a status tells whether all of it could be looked at. -/
def contents (self : Octets) (plan : Plan) (path : Octets) (location : Files.Location) :
    Act (List Item × Nat) := do
  let names := ((← tree).children location).map fun (name, _) => Octets.ofText name
  let dots := if plan.showsDots then [['.'], ['.', '.']] else []
  let kept := dots ++ names.filter (!isLeftOut plan ·)
  let found ← kept.mapM fun name => do
    let inner := inside path name
    match ← itemAt inner name (plan.deref = .always) with
    | .ok item => return some item
    | .error error =>
        let _ ← refuse self "cannot access " inner error
        return none
  return (ordered plan (found.filterMap id), if found.all (·.isSome) then 0 else 1)

def showDirectory (self : Octets) (plan : Plan) :
    (fuel : Nat) → (headed first : Bool) → Octets → Act Nat
  | 0, _, _, _ => return 0
  | fuel + 1, headed, first, path => do
      match ← entryAt? path with
      | none => return 2
      | some (location, entry) =>
          if !entry.isReadable then
            let _ ← refuse self "cannot open directory " path .permissionDenied
            return if headed && !first then 1 else 2
          let (items, status) ← contents self plan path location
          let header := if headed then spelled plan.spelling path ++ [':', '\n'] else []
          let total := items.foldl (fun sum item => sum + blocksOf item.entry) 0
          let counted := if plan.layout = .long || plan.showsBlocks then
              "total ".toList ++ measuredBlocks plan.measure total ++ [plan.lineEnd]
            else []
          let machine ← get
          put ((if first then [] else ['\n']) ++ header ++ counted ++
            shown plan machine.now machine.tree items)
          if !plan.recursive then return status
          let below := items.filter fun item =>
            item.entry.isDirectory && item.name ≠ ['.'] && item.name ≠ ['.', '.']
          let statuses ← below.mapM fun item =>
            showDirectory self plan fuel true false (inside path item.name)
          return (statuses.map (min 1)).foldl max status

def showAll (self : Octets) (plan : Plan) (headed : Bool) :
    (first : Bool) → List Octets → Act Nat
  | _, [] => return 0
  | first, path :: rest => do
      let status ← showDirectory self plan Entries.depth (headed || plan.recursive) first path
      return max status (← showAll self plan headed false rest)

def followsNamed (plan : Plan) (path : Octets) : Act Bool := do
  match plan.deref with
  | .never => return false
  | .namedDirectories => isDirectory path
  | .named => return (← entryAt? path).isSome
  | .always => return true

def showPaths (self : Octets) (plan : Plan) (paths : List Octets) : Act Nat := do
  let looked ← paths.mapM fun path => do
    match ← itemAt path path (← followsNamed plan path) with
    | .ok item => return some item
    | .error error =>
        let _ ← refuse self "cannot access " path error
        return none
  let existing := ordered plan (looked.filterMap id)
  let isOpened (item : Item) : Bool := item.entry.isDirectory && !plan.asEntries
  let files := existing.filter (!isOpened ·)
  let directories := (existing.filter isOpened).map (·.name)
  let machine ← get
  put (shown plan machine.now machine.tree files)
  let status ← showAll self plan (1 < paths.length) files.isEmpty directories
  return if looked.any (·.isNone) then 2 else status

/-! ## Options -/

/-- The options. -/
def rules : List OptionRule :=
  [switch "all" 'a', switch "almost-all" 'A', ⟨"author", none, .nothing⟩, switch "escape" 'b',
    ⟨"block-size", none, .value⟩, switch "ignore-backups" 'B', switch "-c" 'c',
    switch "-C" 'C', ⟨"color", none, .perhaps⟩, switch "directory" 'd', switch "dired" 'D',
    switch "-f" 'f', switch "-F" 'F', ⟨"classify", none, .perhaps⟩,
    ⟨"file-type", none, .nothing⟩, ⟨"format", none, .value⟩, ⟨"full-time", none, .nothing⟩,
    switch "-g" 'g', ⟨"group-directories-first", none, .nothing⟩, switch "no-group" 'G',
    switch "human-readable" 'h', ⟨"si", none, .nothing⟩,
    switch "dereference-command-line" 'H',
    ⟨"dereference-command-line-symlink-to-dir", none, .nothing⟩, ⟨"hide", none, .value⟩,
    ⟨"hyperlink", none, .perhaps⟩, ⟨"indicator-style", none, .value⟩, switch "inode" 'i',
    setting "ignore" 'I', switch "kibibytes" 'k', switch "-l" 'l', switch "dereference" 'L',
    switch "-m" 'm', switch "numeric-uid-gid" 'n', switch "literal" 'N', switch "-o" 'o',
    switch "-p" 'p', switch "hide-control-chars" 'q', ⟨"show-control-chars", none, .nothing⟩,
    switch "quote-name" 'Q', ⟨"quoting-style", none, .value⟩, switch "reverse" 'r',
    switch "recursive" 'R', switch "size" 's', switch "-S" 'S', ⟨"sort", none, .value⟩,
    ⟨"time", none, .value⟩, ⟨"time-style", none, .value⟩, switch "-t" 't',
    setting "tabsize" 'T', switch "-u" 'u', switch "-U" 'U', switch "-v" 'v',
    setting "width" 'w', switch "-x" 'x', switch "-X" 'X', switch "context" 'Z',
    ⟨"zero", none, .nothing⟩, switch "-1" '1']

/-- The words that options may have as their values. -/
def choices : List (String × List (List String)) :=
  [("color", [["always", "yes", "force"], ["never", "no", "none"], ["auto", "tty", "if-tty"]]),
    ("classify", [["always", "yes", "force"], ["never", "no", "none"],
      ["auto", "tty", "if-tty"]]),
    ("format", [["verbose", "long"], ["commas"], ["horizontal", "across"], ["vertical"],
      ["single-column"]]),
    ("indicator-style", [["none"], ["slash"], ["file-type"], ["classify"]]),
    ("quoting-style", [["literal"], ["shell"], ["shell-always"], ["shell-escape"],
      ["shell-escape-always"], ["c"], ["c-maybe"], ["escape"], ["locale"], ["clocale"]]),
    ("sort", [["none"], ["time"], ["size"], ["extension"], ["version"], ["width"]]),
    ("time", [["atime", "access", "use"], ["ctime", "status"], ["mtime", "modification"],
      ["birth", "creation"]])]

def lastOf {α : Type} (given : Invocation) (meaning : String → Option String → Option α) :
    Option α :=
  (given.options.filterMap fun option =>
    let words := (choices.lookup option.word).getD []
    meaning option.word (option.value.map fun text => (chosen? words text).getD "")).getLast?

def layoutOf (word : String) (value : Option String) : Option Layout :=
  match word, value with
  | "-l", _ => some .long
  | "-g", _ => some .long
  | "-o", _ => some .long
  | "numeric-uid-gid", _ => some .long
  | "full-time", _ => some .long
  | "-1", _ => some .single
  | "-C", _ => some .down
  | "-x", _ => some .across
  | "-m", _ => some .commas
  | "zero", _ => some .single
  | "format", some "verbose" => some .long
  | "format", some "commas" => some .commas
  | "format", some "horizontal" => some .across
  | "format", some "vertical" => some .down
  | "format", some "single-column" => some .single
  | _, _ => none

/-- The order that an option stands for. -/
def arrangementOf (word : String) (value : Option String) : Option Arrangement :=
  match word, value with
  | "-t", _ => some .time
  | "-S", _ => some .size
  | "-X", _ => some .extension
  | "-v", _ => some .version
  | "-U", _ => some .none
  | "-f", _ => some .none
  | "sort", some "none" => some .none
  | "sort", some "time" => some .time
  | "sort", some "size" => some .size
  | "sort", some "extension" => some .extension
  | "sort", some "version" => some .version
  | "sort", some "width" => some .width
  | _, _ => none

def spellingOf (word : String) (value : Option String) : Option Spelling :=
  match word, value with
  | "escape", _ => some .escaped
  | "literal", _ => some .literal
  | "quote-name", _ => some .double
  | "quoting-style", some "literal" => some .literal
  | "quoting-style", some "shell" => some (.shell false false)
  | "quoting-style", some "shell-always" => some (.shell true false)
  | "quoting-style", some "shell-escape" => some (.shell false true)
  | "quoting-style", some "shell-escape-always" => some (.shell true true)
  | "quoting-style", some "escape" => some .escaped
  | "quoting-style", some _ => some .double
  | _, _ => none

def markingOf (word : String) (value : Option String) : Option Marking :=
  match word, value with
  | "-F", _ => some .all
  | "classify", none => some .all
  | "classify", some "always" => some .all
  | "classify", some _ => some .none
  | "-p", _ => some .directories
  | "file-type", _ => some .kinds
  | "indicator-style", some "none" => some .none
  | "indicator-style", some "slash" => some .directories
  | "indicator-style", some "file-type" => some .kinds
  | "indicator-style", some "classify" => some .all
  | _, _ => none

/-- The links that an option has followed. -/
def derefOf (word : String) (_value : Option String) : Option Deref :=
  match word with
  | "dereference" => some .always
  | "dereference-command-line" => some .named
  | "dereference-command-line-symlink-to-dir" => some .namedDirectories
  | _ => none

/-- How an option has sizes shown. -/
def measureOf (given : Invocation) : Option Measure :=
  (given.options.filterMap fun option =>
    match option.word, option.value with
    | "human-readable", _ => some (.scaled 1024)
    | "si", _ => some (.scaled 1000)
    | "block-size", some text => (amount? text).map .units
    | _, _ => none).getLast?

/-- The formats of times that an option asks for: those of late, and those of long ago. -/
def timeFormatsOf (style : Octets) : Option (Octets × Octets) :=
  match style with
  | '+' :: format =>
      let first := format.takeWhile (· ≠ '\n')
      match format.drop first.length with
      | '\n' :: second => some (second, first)
      | _ => some (first, first)
  | style =>
      match String.ofList style with
      | "full-iso" => some ("%Y-%m-%d %H:%M:%S.%N %z".toList, "%Y-%m-%d %H:%M:%S.%N %z".toList)
      | "long-iso" => some ("%Y-%m-%d %H:%M".toList, "%Y-%m-%d %H:%M".toList)
      | "iso" => some ("%m-%d %H:%M".toList, "%Y-%m-%d ".toList)
      | "locale" => some ("%b %e %H:%M".toList, "%b %e  %Y".toList)
      | _ => none

/-- Says of an option that its value is not one of those it may have; true if that is so. -/
def refusesChoice (self : Octets) (given : Invocation) : Act Bool := do
  let bad := given.options.find? fun option =>
    match choices.lookup option.word, option.value with
    | some words, some text => (chosen? words text).isNone
    | _, _ => false
  match bad with
  | none => return false
  | some option =>
      complainOfChoice self ("--" ++ option.word) ((choices.lookup option.word).getD [])
        (option.value.getD [])
      return true

/-- The plan that an invocation asks for, or none after a complaint; `usual` is for some names. -/
def planOf (self : Octets) (given : Invocation) (usualLayout : Layout)
    (usualSpelling : Spelling) : Act (Option Plan) := do
  if ← refusesChoice self given then return none
  let wrong (what : String) (option : String) : Act (Option Nat) := do
    match given.value? option with
    | none => return none
    | some text =>
        match Octets.number? text with
        | some n => return some n
        | none =>
            complainAs self (what.toList ++ quoted text)
            return none
  let width ← wrong "invalid line width: " "width"
  if given.has "width" && width.isNone then return none
  let tabSize ← wrong "invalid tab size: " "tabsize"
  if given.has "tabsize" && tabSize.isNone then return none
  if let some text := (given.value? "block-size").filter fun text => (amount? text).isNone then
    complainAs self ("invalid --block-size argument ".toList ++ quoted text)
    return none
  let layoutOptions := given.options.filterMap fun option =>
    layoutOf option.word (option.value.map fun text =>
      (chosen? ((choices.lookup option.word).getD []) text).getD "")
  let layout := layoutOptions.foldl (fun layout option =>
    if option = .single && layout = some .long then layout else some option) none
  let layout := layout.getD usualLayout
  let style := if given.has "full-time" then "full-iso".toList
    else (given.value? "time-style").getD "locale".toList
  let timeFormats ← match timeFormatsOf style with
    | some formats => pure formats
    | none => do
        complainAs self ("invalid argument ".toList ++ quoted style ++
          " for 'time style'".toList)
        report ("Valid arguments are:\n  - [posix-]full-iso\n  - [posix-]long-iso\n" ++
          "  - [posix-]iso\n  - [posix-]locale\n  - +FORMAT (e.g., +%H:%M) for a " ++
          "'date'-style format\n").toList
        pointToHelp self
        return none
  let marking := (lastOf given markingOf).getD .none
  let asEntries := given.has "directory"
  let usualDeref : Deref :=
    if asEntries || marking = .all || layout = .long then .never else .namedDirectories
  let columns := ((← textOf? "COLUMNS".toList).bind Octets.number?).getD 80
  let byTime := (given.has "-c" || given.has "-u" || given.has "time") && layout ≠ .long
  let spelling := (lastOf given spellingOf).getD usualSpelling
  return some {
    layout
    arrangement := (lastOf given arrangementOf).getD (if byTime then .time else .name)
    reversed := given.has "reverse"
    directoriesFirst := given.has "group-directories-first"
    spelling := if spelling = .literal && given.has "hide-control-chars" then .hidden
      else spelling
    marking
    deref := (lastOf given derefOf).getD usualDeref
    measure := (measureOf given).getD .plain
    showsHidden := ["all", "almost-all", "-f"].any given.has
    showsDots := (lastOf given fun word _ =>
      match word with
      | "all" => some true
      | "-f" => some true
      | "almost-all" => some false
      | _ => none).getD false
    ignored := given.values "ignore" ++
      (if given.has "ignore-backups" then ["*~".toList] else []) ++
      (if ["all", "almost-all", "-f"].any given.has then [] else given.values "hide")
    recursive := given.has "recursive" && !asEntries
    asEntries
    showsOwner := !given.has "-g"
    showsGroup := !given.has "-o" && !given.has "no-group"
    asNumbers := given.has "numeric-uid-gid"
    showsBlocks := given.has "size"
    showsSerial := given.has "inode"
    timeFormats
    width := width.getD columns
    tabSize := tabSize.getD 8
    lineEnd := if given.has "zero" then '\x00' else '\n' }

def shownBy (layout : Layout) (spelling : Spelling) : Program := fun self arguments =>
  withOptions self rules true 2 arguments fun given => do
    let some plan ← planOf self given layout spelling | return 2
    showPaths self plan (if given.operands.isEmpty then [['.']] else given.operands)

def ls : Program := shownBy .single .literal

end BlockExtension.Shell.Utility.Listing
