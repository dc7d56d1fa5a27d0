import BlockExtension.Shell.Utility.Input

/-!
# Counts and excerpts

The programs that count what is in their inputs, and those that write a part of it.
-/

/-!
## Counts

The program that counts lines, words and characters.
-/

namespace BlockExtension.Shell.Utility

open Act

namespace Count

/-- What is counted in a text. -/
structure Counts where
  lines : Nat
  words : Nat
  octets : Nat
  width : Nat

def Counts.zero : Counts := ⟨0, 0, 0, 0⟩

def Counts.add (a b : Counts) : Counts :=
  ⟨a.lines + b.lines, a.words + b.words, a.octets + b.octets, max a.width b.width⟩

def wordCount : (inWord : Bool) → Octets → Nat
  | _, [] => 0
  | inWord, c :: rest =>
      if Octets.isSpace c then wordCount false rest
      else (if inWord then 0 else 1) + wordCount true rest

def widthOf : (column : Nat) → (widest : Nat) → Octets → Nat
  | column, widest, [] => max column widest
  | column, widest, c :: rest =>
      if c = '\n' || c = '\r' || c = '\x0c' then widthOf 0 (max column widest) rest
      else if c = '\t' then widthOf (column + 8 - column % 8) widest rest
      else if ' ' ≤ c && c < '\x7f' then widthOf (column + 1) widest rest
      else widthOf column widest rest

/-- What there is to count in a text. -/
def Counts.of (text : Octets) : Counts :=
  ⟨text.count '\n', wordCount false text, text.length, widthOf 0 0 text⟩

/-- The options. -/
def rules : List OptionRule :=
  [switch "bytes" 'c', switch "chars" 'm', switch "lines" 'l', switch "words" 'w',
    switch "max-line-length" 'L', ⟨"total", none, .value⟩, ⟨"files0-from", none, .value⟩]

/-- The counts that options ask for, in the order in which they are written. -/
def chosen (given : Invocation) (counts : Counts) : List Nat :=
  let usual := !(["bytes", "chars", "lines", "words", "max-line-length"].any given.has)
  (if given.has "lines" || usual then [counts.lines] else []) ++
    (if given.has "words" || usual then [counts.words] else []) ++
    (if given.has "chars" then [counts.octets] else []) ++
    (if given.has "bytes" || usual then [counts.octets] else []) ++
    (if given.has "max-line-length" then [counts.width] else [])

/-- The size of what an operand names: none if it is no file, and nothing if it is not there. -/
def sizeOf? (name : Octets) : Act (Option (Option Nat)) := do
  let tree ← tree
  let entry ←
    if name = ['-'] then
      match ← channelOf? 0 with
      | some (_, .file location ..) => pure (tree.get? location)
      | _ => pure (some (.device .null))
    else
      pure ((tree.find (pathOf name)).toOption.map (·.2))
  return match entry with
    | none => none
    | some (.file content _) => some (some content.size)
    | some _ => some none

def widthFor (columns : Nat) (names : List Octets) : Act Nat := do
  if names.length = 1 && columns = 1 then return 1
  let sizes ← names.mapM sizeOf?
  let total := (sizes.filterMap fun size => size.bind id).foldl (· + ·) 0
  let least := if sizes.contains (some none) then 7 else 1
  return max least (Octets.ofNat total).length

/-- The text of some counts with a name behind them. -/
def row (width : Nat) (numbers : List Nat) (name : Option Octets) : Octets :=
  Octets.joined [' '] (numbers.map fun n => Octets.padLeft width (Octets.ofNat n)) ++
    (match name with
      | some name => ' ' :: name
      | none => []) ++ ['\n']

/-- Counts inputs one after the other; answers with all together, and whether all were read. -/
def countAll (self : Octets) (given : Invocation) (width : Nat) (shows : Bool) :
    List Octets → Act (Counts × Bool)
  | [] => return (.zero, true)
  | name :: rest => do
      let refuse (error : Files.OsError) : Act Unit := complainOf self name error
      let shown := if shows then some name else none
      match ← inputOf name with
      | .content octets =>
          let counts := Counts.of octets
          put (row width (chosen given counts) shown)
          let (more, all) ← countAll self given width shows rest
          return (counts.add more, all)
      | .unopened error =>
          refuse error
          return ((← countAll self given width shows rest).1, false)
      | .unread error =>
          refuse error
          put (row width (chosen given .zero) shown)
          return ((← countAll self given width shows rest).1, false)

/-- Counts what its inputs hold. -/
def wc : Program := fun self arguments =>
  withOptions self rules true 1 arguments fun given => do
    let names := inputNames given.operands
    let columns := (chosen given .zero).length
    let width ← widthFor columns names
    let (total, all) ← countAll self given width (!given.operands.isEmpty) names
    if 1 < names.length then put (row width (chosen given total) (some "total".toList))
    return if all then 0 else 1

end Count

/-!
## Excerpts

Programs that write their inputs, whole or in part, as they are: all of them one
after the other, the first or the last lines of each, or the lines in reverse.
-/

/-! ### All of it -/

namespace Concatenation

/-- What is made visible, and whether lines are numbered. -/
structure Style where
  numbers : Bool
  /-- Lines that are empty get no number. -/
  onlyFilled : Bool
  squeezes : Bool
  ends : Bool
  tabs : Bool
  unprintable : Bool

/-- Where in the text the writing is. -/
structure Place where
  line : Nat
  atStart : Bool
  empty : Nat

def Place.first : Place := ⟨1, true, 0⟩

/-- A character below 128 made visible. -/
def lowShown (c : Char) : Octets :=
  if c = '\x7f' then ['^', '?']
  else if c < ' ' then ['^', Char.ofNat (c.toNat + 64)]
  else [c]

/-- A character, made visible if that is asked for. -/
def shown (style : Style) (c : Char) : Octets :=
  if c = '\t' then (if style.tabs then ['^', 'I'] else [c])
  else if !style.unprintable then [c]
  else if c.toNat < 128 then lowShown c
  else 'M' :: '-' :: lowShown (Char.ofNat (c.toNat - 128))

def numbering (line : Nat) : Octets := Octets.padLeft 6 (Octets.ofNat line) ++ ['\t']

def written (style : Style) : Place → (before : Octets) → Octets → Octets × Place
  | place, before, [] => (before, place)
  | place, before, '\n' :: rest =>
      if style.squeezes && place.atStart && 0 < place.empty then
        written style { place with empty := place.empty + 1 } before rest
      else
        let numbered := place.atStart && style.numbers && !style.onlyFilled
        let start := if numbered then numbering place.line else []
        let text := start ++ (if style.ends then ['$', '\n'] else ['\n'])
        let place : Place :=
          ⟨if numbered then place.line + 1 else place.line, true,
            if place.atStart then place.empty + 1 else 0⟩
        written style place (text.reverseAux before) rest
  | place, before, c :: rest =>
      let numbered := place.atStart && style.numbers
      let start := if numbered then numbering place.line else []
      let place : Place := ⟨if numbered then place.line + 1 else place.line, false, 0⟩
      written style place ((start ++ shown style c).reverseAux before) rest

def Style.isPlain (style : Style) : Bool :=
  !(style.numbers || style.squeezes || style.ends || style.tabs || style.unprintable)

/-- The options. -/
def rules : List OptionRule :=
  [switch "number-nonblank" 'b', switch "number" 'n', switch "squeeze-blank" 's',
    switch "show-nonprinting" 'v', switch "show-ends" 'E', switch "show-tabs" 'T',
    switch "show-all" 'A', switch "-e" 'e', switch "-t" 't', switch "-u" 'u']

def styleOf (given : Invocation) : Style where
  numbers := given.has "number" || given.has "number-nonblank"
  onlyFilled := given.has "number-nonblank"
  squeezes := given.has "squeeze-blank"
  ends := given.has "show-ends" || given.has "show-all" || given.has "-e"
  tabs := given.has "show-tabs" || given.has "show-all" || given.has "-t"
  unprintable := ["show-nonprinting", "show-all", "-e", "-t"].any given.has

/-- There is something to be read of the very file that the standard output goes to. -/
def feedsItself (name : Octets) : Act Bool := do
  match ← placeInOutput? name, ← channelOf? 1 with
  | some place, some (_, .file location ..) =>
      return place < (Channel.contentAt (← tree) location).size
  | _, _ => return false

/-- Writes inputs one after the other. -/
def copyAll (self : Octets) (style : Style) : Place → List Octets → Act Bool
  | _, [] => return true
  | place, name :: rest => do
      let refuse (error : Files.OsError) : Act Bool := do
        complainOf self name error
        let _ ← copyAll self style place rest
        return false
      if ← feedsItself name then
        complainAs self (named name ++ ": input file is output file".toList)
        let _ ← copyAll self style place rest
        return false
      match ← inputOf name with
      | .unopened error => refuse error
      | .unread error => refuse error
      | .content octets =>
          let (text, place) :=
            if style.isPlain then (octets, place)
            else
              let (backwards, place) := written style place [] octets
              (backwards.reverse, place)
          let all ← finish text true
          return (← copyAll self style place rest) && all = 0

/-- Writes its inputs one after the other. -/
def cat : Program := fun self arguments =>
  withOptions self rules true 1 arguments fun given => do
    if (← channelOf? 1).isNone then
      complainAs self "standard output: Bad file descriptor".toList
      return 1
    let names := inputNames given.operands
    let all ← copyAll self (styleOf given) .first names
    if names.contains ['-'] && (← channelOf? 0).isNone then
      complainAs self "closing standard input: Bad file descriptor".toList
    return if all then 0 else 1

end Concatenation

/-! ### The first or the last of it -/

/-- A part of a text at one of its ends. -/
structure Extent where
  count : Nat
  octets : Bool
  /-- The part is what is left of the text without its other end. -/
  inverse : Bool

namespace Extent

def dropLines (mark : Char) : Nat → Octets → Octets
  | 0, text => text
  | count + 1, text =>
      match text.dropWhile (· ≠ mark) with
      | [] => []
      | _ :: rest => dropLines mark count rest

def takeLines (mark : Char) (count : Nat) (text : Octets) : Octets :=
  text.take (text.length - (dropLines mark count text).length)

/-- How many lines a text has; one without an end counts too. -/
def lineCount (mark : Char) (text : Octets) : Nat := (linesEndedBy mark text).length

def front (extent : Extent) (mark : Char) (text : Octets) : Octets :=
  match extent.octets, extent.inverse with
  | true, false => text.take extent.count
  | true, true => text.take (text.length - extent.count)
  | false, false => takeLines mark extent.count text
  | false, true => takeLines mark (lineCount mark text - extent.count) text

def back (extent : Extent) (mark : Char) (text : Octets) : Octets :=
  match extent.octets, extent.inverse with
  | true, false => text.drop (text.length - extent.count)
  | true, true => text.drop (extent.count - 1)
  | false, false => dropLines mark (lineCount mark text - extent.count) text
  | false, true => dropLines mark (extent.count - 1) text

/-- The extent that a text asks for, if its first character is not, or is, the inverting one. -/
def ofText? (inverting : Char) (octets : Bool) (text : Octets) : Option Extent :=
  match text with
  | c :: rest =>
      if c = inverting then (amount? rest).map (⟨·, octets, true⟩)
      else if c = '-' || c = '+' then (amount? rest).map (⟨·, octets, false⟩)
      else (amount? text).map (⟨·, octets, false⟩)
  | [] => none

end Extent

/-- The options of programs that write an end of each input. -/
def endRules : List OptionRule :=
  [setting "bytes" 'c', setting "lines" 'n', switch "quiet" 'q', ⟨"silent", none, .nothing⟩,
    switch "verbose" 'v', switch "zero-terminated" 'z']

def lastRules : List OptionRule :=
  [⟨"follow", some 'f', .nothing⟩, switch "-F" 'F', ⟨"retry", none, .nothing⟩,
    setting "sleep-interval" 's', ⟨"pid", none, .value⟩]

def digitRules : List OptionRule :=
  "0123456789".toList.map fun c => switch (String.ofList ['-', c]) c

def digitGiven? (given : Invocation) : Option Char :=
  (digitRules.find? fun rule => given.has rule.word).bind (·.letter)

/-- Nothing but the name of a file stands behind the count. -/
def isAlone : List Octets → Bool
  | [] => true
  | [name] => name = ['-'] || name.head? ≠ some '-'
  | _ => false

/--
Arguments of which the first gives a count by itself, in the usual form. If a plus
sign inverts the count, there may be one file at most.
-/
def withPlainCount (inverting : Bool) (arguments : List Octets) : List Octets :=
  let usual (sign : Octets) (rest : Octets) (more : List Octets) : List Octets :=
    let digits := rest.takeWhile Char.isDigit
    let letters := rest.drop digits.length
    let option := if letters.contains 'c' then "-c".toList else "-n".toList
    let others := letters.filter fun c => c = 'q' || c = 'v'
    option :: (sign ++ digits) :: (others.map fun c => ['-', c]) ++ more
  match arguments with
  | ('-' :: c :: rest) :: more =>
      if c.isDigit && (!inverting || isAlone more) then usual [] (c :: rest) more else arguments
  | ('+' :: c :: rest) :: more =>
      if inverting && c.isDigit && isAlone more then usual ['+'] (c :: rest) more else arguments
  | arguments => arguments

def writeParts (self : Octets) (headed : Bool) (part : Octets → Octets) :
    (first : Bool) → List Octets → Act Bool
  | _, [] => return true
  | first, name :: rest => do
      let shownName := if name = ['-'] then "standard input".toList else name
      let header : Act Unit := do
        if headed then
          put ((if first then [] else ['\n']) ++ "==> ".toList ++ shownName ++ " <==\n".toList)
      let refuse (text : Octets) (error : Files.OsError) : Act Unit :=
        complainAs self (text ++ (": " ++ error.wording).toList)
      match ← inputOf name with
      | .unopened error =>
          refuse (wordyVoice.unopened name) error
          let _ ← writeParts self headed part first rest
          return false
      | .unread error =>
          header
          refuse (wordyVoice.unread shownName) error
          let _ ← writeParts self headed part false rest
          return false
      | .content octets =>
          header
          let all ← finish (part octets) true
          return (← writeParts self headed part false rest) && all = 0

/-- The extent that the last option for it asks for, or the text that asks for none. -/
def extentOf (inverting : Char) (given : Invocation) : Except (String × Octets) Extent :=
  let asked := (given.options.filter fun option =>
    option.word = "bytes" || option.word = "lines").getLast?
  match asked with
  | none => .ok ⟨10, false, false⟩
  | some option =>
      let text := option.value.getD []
      match Extent.ofText? inverting (option.word = "bytes") text with
      | some extent => .ok extent
      | none => .error (option.word, text)

def writeEnds (inverting : Char) (rules : List OptionRule)
    (part : Extent → Char → Octets → Octets) : Program := fun self arguments =>
  let arguments := withPlainCount (inverting = '+') arguments
  withOptions self (rules ++ digitRules) true 1 arguments fun given => do
    if let some digit := digitGiven? given then
      if inverting = '+' then
        complainAs self ("option used in invalid context -- ".toList ++ [digit])
      else
        complainAs self ("invalid trailing option -- ".toList ++ [digit])
        pointToHelp self
      return 1
    match extentOf inverting given with
    | .error (word, text) =>
        complainAs self (("invalid number of " ++ word ++ ": ").toList ++ quoted text)
        return 1
    | .ok extent =>
        let quiet := given.has "quiet" || given.has "silent"
        let last := (given.options.filter fun option =>
          ["verbose", "quiet", "silent"].contains option.word).getLast?
        let headed := (last.any (·.word = "verbose")) || (!quiet && 1 < given.operands.length)
        let names := inputNames given.operands
        let all ← writeParts self headed (part extent (lineEnd given)) true names
        return if all then 0 else 1

/-- Leaves what is behind the first lines of the standard input to others, if it is a file. -/
def unread (part : Octets → Octets) (act : Act Nat) : Act Nat := do
  match ← channelOf? 0 with
  | some (place, .file location offset reads writes appends) =>
      let content := Octets.ofBytes (Channel.contentAt (← tree) location)
      let status ← act
      let taken := (part (content.drop offset)).length
      let machine ← get
      if let some (.file _ now _ _ _) := machine.channels[place]? then
        if now ≠ offset then
          set { machine with
            channels := machine.channels.setIfInBounds place
              (.file location (offset + taken) reads writes appends) }
      return status
  | _ => act

/-- Writes the first lines of its inputs. -/
def head : Program := fun self arguments => do
  let program := writeEnds '-' endRules Extent.front
  match takeApart endRules true (arguments.length + 1) (withPlainCount false arguments) with
  | .ok given =>
      match extentOf '-' given with
      | .ok extent => unread (extent.front (lineEnd given)) (program self arguments)
      | .error _ => program self arguments
  | .error _ => program self arguments

def tail : Program := writeEnds '+' (endRules ++ lastRules) Extent.back

/-! ### Backwards -/

def cutAtText (mark : Octets) (before : Bool) :
    (fuel : Nat) → (current : Octets) → Octets → List Octets
  | 0, current, rest => [current.reverse ++ rest]
  | _, current, [] => if current.isEmpty then [] else [current.reverse]
  | fuel + 1, current, c :: rest =>
      match if mark.isEmpty then none else Octets.behind? mark (c :: rest) with
      | none => cutAtText mark before fuel (c :: current) rest
      | some behind =>
          if before then
            (if current.isEmpty then [] else [current.reverse]) ++
              cutAtText mark before fuel mark.reverse behind
          else (current.reverse ++ mark) :: cutAtText mark before fuel [] behind

def wholeLines (text : Octets) : List Octets :=
  match (Octets.cutAt '\n' text).reverse with
  | [] => []
  | last :: before =>
      let ended := before.reverse.map (· ++ ['\n'])
      if last.isEmpty then ended else ended ++ [last]

/-- Writes the lines of each input from the last to the first. -/
def tac : Program := fun self arguments =>
  withOptions self
      [switch "before" 'b', switch "regex" 'r', setting "separator" 's'] true 1 arguments
      fun given => do
    let voice : InputVoice :=
      ⟨fun name => "failed to open ".toList ++ quoted name ++ " for reading".toList,
        fun name => named name ++ ": read error".toList⟩
    let (inputs, all) ← readInputs self voice (inputNames given.operands)
    let mark := (given.value? "separator").getD ['\n']
    let parts (text : Octets) : List Octets :=
      cutAtText mark (given.has "before") (text.length + 1) [] text
    finish (inputs.flatMap fun (_, text) => (parts text).reverse.flatten) all

/-- Writes the lines of its inputs, each from its last character to its first. -/
def rev : Program := fun self arguments => do
  match arguments.find? fun argument => argument.head? = some '-' && argument ≠ ['-'] with
  | some option =>
      let text := if option.take 2 = ['-', '-'] then "unrecognized option '".toList ++ option
        else "invalid option -- '".toList ++ (option.drop 1).take 1
      complainAs self (text ++ ['\''])
      pointToHelp self
      return 1
  | none =>
      let voice : InputVoice :=
        ⟨fun name => "cannot open ".toList ++ (if name = "./-".toList then ['-'] else name),
          fun name => name⟩
      let files := arguments.map fun name => if name = ['-'] then "./-".toList else name
      let (text, all) ← readJoined self voice files
      let lines := (wholeLines text).map fun line =>
        if line.getLast? = some '\n' then line.dropLast.reverse ++ ['\n'] else line.reverse
      finish lines.flatten all

end BlockExtension.Shell.Utility
