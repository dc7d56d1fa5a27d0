import BlockExtension.Shell.Ordered.Read
import BlockExtension.Shell.Regex
import BlockExtension.Shell.Utility.Entries
import BlockExtension.Shell.Utility.Input

/-!
# Searching

The program that shows which lines of its inputs match expressions.
-/

/-!
## Stretches of lines that match

What a search looks for, in one of several notations. A line is chosen if some
stretch of it matches; where a match has to be made of whole words, or has to be
the whole line, the other stretches do not count.
-/

namespace BlockExtension.Shell.Utility.Searching

/-- The first stretch of a line, from a place on, that counts as a match. -/
abbrev Finder := (line : Array Char) → (start : Nat) → Option (Nat × Nat)

/-- What may count as a match. -/
structure Demand where
  foldsCase : Bool
  wholeWords : Bool
  wholeLine : Bool

/-- The first stretch of a line, from one of some places on, that counts as a match. -/
def findAt? (regex : Regex) (demand : Demand) (subject : Regex.Subject) :
    List Nat → Option (Nat × Nat)
  | [] => none
  | place :: rest =>
      let counts (last : Nat) : Bool :=
        (!demand.wholeLine || (place = 0 && last = subject.text.size)) &&
          (!demand.wholeWords || (!subject.isWordBefore place && !subject.isWordAt last))
      match (Regex.ends subject regex ⟨place, []⟩).find? fun found => counts found.place with
      | some found => some (place, found.place)
      | none => findAt? regex demand subject rest

def longest (regex : Regex) (demand : Demand) : Finder := fun line start =>
  findAt? regex demand ⟨line, demand.foldsCase, false⟩
    ((List.range (line.size + 1 - start)).map (start + ·))

def first (expression : Ordered.Expression) : Finder := fun line start =>
  (Ordered.find? expression line start).map fun found => (found.start, found.place)

def demanded (demand : Demand) (text : Octets) : Octets :=
  if demand.wholeLine then "^(?:".toList ++ text ++ ")$".toList
  else if demand.wholeWords then "(?<!\\w)(?:".toList ++ text ++ ")(?!\\w)".toList
  else text

/-- Which lines are chosen. -/
structure Rule where
  find? : Finder
  /-- The lines that do not match are chosen. -/
  inverse : Bool

def Rule.chooses (rule : Rule) (line : Octets) : Bool :=
  (rule.find? line.toArray 0).isSome != rule.inverse

def stretches (find? : Finder) (line : Octets) : (fuel start : Nat) → List (Nat × Octets)
  | 0, _ => []
  | fuel + 1, start =>
      match find? line.toArray start with
      | none => []
      | some (first, last) =>
          let text := (line.drop first).take (last - first)
          if text.isEmpty then stretches find? line fuel (last + 1)
          else (first, text) :: stretches find? line fuel last

/-!
## Lines that are shown

What is shown of the lines of an input in which something is sought: those that
are chosen, or only the stretches that match, and perhaps some lines around
them.
-/

/-- What is shown of the lines that are chosen. -/
structure Display where
  name : Option Octets
  numbers : Bool
  offsets : Bool
  onlyStretches : Bool
  before : Nat
  after : Nat
  /-- Lines around others are asked for, even if there are none. -/
  hasContext : Bool
  /-- The line between stretches of lines that do not follow each other. -/
  gap : Option Octets
  most : Option Nat
  /-- What ends lines. -/
  ending : Char
  isColored : Bool
  endsNames : Bool
  width : Option Nat

def Display.colored (display : Display) (code : String) (text : Octets) : Octets :=
  if display.isColored && !text.isEmpty then
    "\x1b[".toList ++ code.toList ++ "m\x1b[K".toList ++ text ++ "\x1b[m\x1b[K".toList
  else text

def Display.named (display : Display) (mark : Char) (name : Octets) : Octets :=
  display.colored "35" name ++
    if display.endsNames then ['\x00'] else display.colored "36" [mark]

/-- What stands before a line: the name, the number and the place, as far as they are shown. -/
def Display.start (display : Display) (mark : Char) (number offset : Nat) (isFilled : Bool) :
    Octets :=
  let counted (n : Nat) : Octets :=
    display.colored "32" (Octets.padLeft (display.width.getD 0) (Octets.ofNat n)) ++
      display.colored "36" [mark]
  let name := match display.name with
    | some name => display.named mark name
    | none => []
  let numbers := (if display.numbers then counted number else []) ++
    if display.offsets then counted offset else []
  let isShown := display.name.isSome || display.numbers || display.offsets
  name ++ numbers ++ if display.width.isSome && isShown && isFilled then ['\t'] else []

/-- A line with its number and its place. -/
structure Line where
  text : Octets
  number : Nat
  offset : Nat

def linesOf (ending : Char) (text : Octets) : List Line :=
  let step (state : List Line × Nat × Nat) (line : Octets) : List Line × Nat × Nat :=
    (⟨line, state.2.1, state.2.2⟩ :: state.1, state.2.1 + 1, state.2.2 + line.length + 1)
  ((linesEndedBy ending text).foldl step ([], 1, 0)).1.reverse

/-- A line with the stretches in color that match. -/
def highlighted (display : Display) (find? : Finder) (line : Octets) : Octets :=
  let found := stretches find? line (line.length + 1) 0
  let rec go (place : Nat) : List (Nat × Octets) → Octets
    | [] => line.drop place
    | (first, text) :: rest =>
        (line.take first).drop place ++ display.colored "01;31" text ++
          go (first + text.length) rest
  go 0 found

/-- A line as it is shown; `hasMatch` says that there is something in it to be colored. -/
def Display.line (display : Display) (find? : Finder) (mark : Char) (hasMatch : Bool)
    (line : Line) : Octets :=
  let text := if display.isColored && hasMatch then highlighted display find? line.text
    else line.text
  display.start mark line.number line.offset (!line.text.isEmpty) ++ text ++ [display.ending]

def Display.stretches (display : Display) (find? : Finder) (line : Line) : Octets :=
  (Searching.stretches find? line.text (line.text.length + 1) 0).flatMap fun (place, text) =>
    display.start ':' line.number (line.offset + place) true ++
      display.colored "01;31" text ++ [display.ending]

/--
The text of the lines that are shown, and how many match. `kept` are lines
before that may still be shown, `owed` says how many are to be shown whether
they match or not, and `last` is the number of the line that was shown last.
-/
def showLines (rule : Rule) (display : Display) :
    (kept : List Line) → (owed : Nat) → (last : Option Nat) → (count : Nat) → List Line →
      Octets × Nat
  | _, _, _, count, [] => ([], count)
  | kept, owed, last, count, line :: rest =>
      let isFull := display.most.any (· ≤ count)
      let context (line : Line) : Octets := display.line rule.find? '-' rule.inverse line
      if !isFull && rule.chooses line.text then
        let first := ((kept.getLast?).map (·.number)).getD line.number
        let isGap := last.any (· + 1 < first)
        let separator : Octets :=
          match display.gap with
          | some text =>
              if display.hasContext && isGap then
                display.colored "36" text ++ ['\n']
              else []
          | none => []
        let body :=
          if !display.onlyStretches then
            kept.reverse.flatMap context ++ display.line rule.find? ':' (!rule.inverse) line
          else if rule.inverse then []
          else display.stretches rule.find? line
        let (more, count) :=
          showLines rule display [] display.after (some line.number) (count + 1) rest
        (separator ++ body ++ more, count)
      else if 0 < owed then
        let (more, count) := showLines rule display [] (owed - 1) (some line.number) count rest
        let shown := if !display.onlyStretches then context line
          else if rule.inverse then display.stretches rule.find? line
          else []
        (shown ++ more, count)
      else if isFull then ([], count)
      else showLines rule display ((line :: kept).take display.before) 0 last count rest

/-!
## Search

The program that shows which lines of its inputs match expressions.
-/

open Act
open Entries (isDirectory)

/-! ### Options -/

/-- The options. -/
def rules : List OptionRule :=
  [switch "extended-regexp" 'E', switch "fixed-strings" 'F', switch "basic-regexp" 'G',
    switch "perl-regexp" 'P', setting "regexp" 'e', setting "file" 'f', switch "ignore-case" 'i',
    switch "-y" 'y', switch "word-regexp" 'w', switch "line-regexp" 'x', switch "invert-match" 'v',
    switch "count" 'c', switch "files-with-matches" 'l', switch "files-without-match" 'L',
    setting "max-count" 'm', switch "only-matching" 'o', switch "quiet" 'q',
    ⟨"silent", none, .nothing⟩, switch "no-messages" 's', switch "byte-offset" 'b',
    switch "with-filename" 'H', switch "no-filename" 'h', switch "line-number" 'n',
    switch "recursive" 'r', switch "dereference-recursive" 'R', switch "text" 'a',
    setting "after-context" 'A', setting "before-context" 'B', setting "context" 'C',
    ⟨"color", none, .perhaps⟩, ⟨"colour", none, .perhaps⟩, ⟨"include", none, .value⟩,
    ⟨"exclude", none, .value⟩, ⟨"exclude-from", none, .value⟩, ⟨"exclude-dir", none, .value⟩,
    ⟨"label", none, .value⟩, switch "null" 'Z', switch "null-data" 'z', switch "binary" 'U',
    switch "-I" 'I', ⟨"binary-files", none, .value⟩, ⟨"line-buffered", none, .nothing⟩,
    switch "unix-byte-offsets" 'u', switch "initial-tab" 'T', ⟨"no-ignore-case", none, .nothing⟩,
    setting "directories" 'd', setting "devices" 'D', ⟨"group-separator", none, .value⟩,
    ⟨"no-group-separator", none, .nothing⟩]

/-- Says how the program is to be called. -/
def sayUsage (self : Octets) : Act Unit := do
  report ("Usage: ".toList ++ self ++ " [OPTION]... PATTERNS [FILE]...\n".toList)
  pointToHelp self

/-- The notations of patterns. -/
inductive Notation where
  | basic
  | extended
  | fixed
  | ordered
  deriving DecidableEq, Repr

def notationsOf (given : Invocation) : List Notation :=
  given.options.filterMap fun option =>
    match option.word with
    | "extended-regexp" => some .extended
    | "fixed-strings" => some .fixed
    | "basic-regexp" => some .basic
    | "perl-regexp" => some .ordered
    | _ => none

def lastOf (given : Invocation) (words : List String) : Option String :=
  ((given.options.map (·.word)).filter words.contains).getLast?

/-- Lines without matches go with matches that are not whole lines. -/
def flags (foldsCase : Bool) : Ordered.Flags :=
  ⟨foldsCase, false, false, false, false, false⟩

/-- What is sought, what is odd about how it is written, or what is wrong with it. -/
def finderOf (way : Notation) (demand : Demand) (patterns : List Octets) :
    Except String (Finder × List String) := do
  match way with
  | .ordered =>
      match patterns with
      | [pattern] =>
          let (expression, _) ←
            Ordered.ofText (flags demand.foldsCase) (demanded demand pattern)
          let _ ← Ordered.ofText (flags demand.foldsCase) pattern
          return (first expression, [])
      | [] => return (fun _ _ => none, [])
      | _ => throw "the -P option only supports a single pattern"
  | .fixed => return (longest (joined (patterns.map Regex.ofPlain)) demand, [])
  | way =>
      let isExtended := way = .extended
      let all ← patterns.mapM fun pattern =>
        (Regex.readText isExtended true pattern).mapError Regex.Problem.message
      let remarks := if isExtended then all.flatMap (·.2) else []
      return (longest (joined (all.map (·.1))) demand, remarks)
where
  /-- An expression that matches what one of some matches. -/
  joined : List Regex → Regex
    | [] => .single (.set false [])
    | [regex] => regex
    | regex :: rest => .alternative regex (joined rest)

/-! ### Inputs -/

/-- Which files and directories are gone through. -/
structure Selection where
  included : List Octets
  excluded : List Octets
  excludedDirectories : List Octets
  directories : String
  follows : Bool

/-- A path, or its last name, is of a pattern. -/
def isAmong (patterns : List Octets) (path : Octets) : Bool :=
  patterns.any fun pattern =>
    Pattern.describes pattern path || Pattern.describes pattern (Entries.lastName path)

/-- A file is not passed over. -/
def Selection.takes (selection : Selection) (path : Octets) : Bool :=
  !isAmong selection.excluded path &&
    (selection.included.isEmpty || isAmong selection.included path)

/-- The paths of the files that a path stands for when directories are gone through. -/
def below (selection : Selection) : (fuel : Nat) → (isNamed : Bool) → Octets → Act (List Octets)
  | 0, _, _ => return []
  | fuel + 1, isNamed, path => do
      if !isNamed && !selection.follows &&
          (← Entries.namedAt? path).any (·.2.isLink) then return []
      match ← Entries.entryAt? path with
      | some (location, .directory _) =>
          let trimmed := (path.reverse.dropWhile (· = '/')).reverse
          if isAmong selection.excludedDirectories trimmed then return []
          let names := ((← tree).children location).map fun (name, _) => Octets.ofText name
          return (← names.mapM fun name =>
            below selection fuel false (Permission.inside path name)).flatten
      | _ => return if selection.takes path then [path] else []

def chosenPaths (selection : Selection) : List Octets → Act (List Octets)
  | [] => return []
  | path :: rest => do
      let more ← chosenPaths selection rest
      if path = ['-'] then return path :: more
      match ← Entries.entryAt? path with
      | some (_, .directory _) =>
          return if selection.directories = "skip" ||
            isAmong selection.excludedDirectories path then more else path :: more
      | _ => return if selection.takes path then path :: more else more

/-! ### Searching -/

/-- What is told of each input. -/
inductive Telling where
  | lines
  | count
  | matchingNames
  | otherNames
  | nothing
  deriving DecidableEq, Repr

/-- How inputs are searched. -/
structure Plan where
  rule : Rule
  display : Display
  telling : Telling
  showsNames : Bool
  isSilent : Bool
  /-- The name of the standard input. -/
  label : Octets
  /-- What is done about inputs with null characters: they are shown, passed over or named. -/
  binaries : String
  aligns : Bool

/-- Searches the text of an input; tells whether anything was found. -/
def searchText (self : Octets) (plan : Plan) (name text : Octets) : Act Bool := do
  let isBinary := text.contains '\x00' && plan.display.ending ≠ '\x00'
  if isBinary && plan.binaries = "without-match" then return false
  let text := if isBinary && plan.binaries = "binary" then
      text.map fun c => if c = '\x00' then '\n' else c
    else text
  let stops := plan.telling ≠ .lines && plan.telling ≠ .count
  let width := if plan.aligns then some (Octets.ofNat text.length).length else none
  let display := { plan.display with
    name := if plan.showsNames then some name else none
    most := if stops then some 1 else plan.display.most
    width }
  let (output, count) :=
    showLines plan.rule display [] 0 none 0 (linesOf display.ending text)
  let nameLine := display.colored "35" name ++ [if display.endsNames then '\x00' else '\n']
  match plan.telling with
  | .nothing => pure ()
  | .matchingNames => if 0 < count then put nameLine
  | .otherNames => if count = 0 then put nameLine
  | .count =>
      put ((if plan.showsNames then display.named ':' name else []) ++
        Octets.ofNat count ++ ['\n'])
  | .lines =>
      if isBinary && plan.binaries ≠ "text" then
        if 0 < count then complainAs self (name ++ ": binary file matches".toList)
      else put output
  return 0 < count

/-- Searches inputs one after the other; tells whether anything was found and what went wrong. -/
def searchAll (self : Octets) (plan : Plan) : List Octets → Act (Bool × Bool)
  | [] => return (false, false)
  | name :: rest => do
      let shownName := if name = ['-'] then plan.label else name
      let refuse (error : Files.OsError) : Act (Bool × Bool) := do
        unless plan.isSilent do
          complainAs self (shownName ++ (": " ++ error.wording).toList)
        return (false, true)
      if (← placeInOutput? name).isSome && plan.telling = .lines && plan.display.most ≠ some 1 then
        complainAs self (shownName ++ ": input file is also the output".toList)
        return ((← searchAll self plan rest).1, true)
      let (found, failed) ← match ← inputOf name with
        | .unopened error => refuse error
        | .unread error => do
            let result ← refuse error
            let _ ← searchText self plan shownName []
            pure result
        | .content text => do
            let found ← searchText self plan shownName text
            pure (found, false)
      if found && plan.telling = .nothing then return (true, false)
      let (more, worse) ← searchAll self plan rest
      return (found || more, (failed && !(more && plan.telling = .nothing)) || worse)

/-! ### The program -/

/--
The letters of an argument as arguments of their own, where digits give the number
of lines around a match; true if a value is to follow.
-/
def spread : (fuel : Nat) → Octets → List Octets × Bool
  | 0, _ => ([], false)
  | _, [] => ([], false)
  | fuel + 1, c :: rest =>
      if c.isDigit then
        let digits := c :: rest.takeWhile Char.isDigit
        let (more, expects) := spread fuel (rest.dropWhile Char.isDigit)
        ("-C".toList :: digits :: more, expects)
      else if rules.any fun rule => rule.letter = some c && rule.takes = .value then
        ([['-', c] ++ rest], rest.isEmpty)
      else
        let (more, expects) := spread fuel rest
        (['-', c] :: more, expects)

/-- Arguments of which none gives a number by itself; `expects` says that a value comes first. -/
def withoutNumbers : (expects : Bool) → List Octets → List Octets
  | _, [] => []
  | true, value :: rest => value :: withoutNumbers false rest
  | false, argument :: rest =>
      match argument with
      | ['-', '-'] => argument :: rest
      | '-' :: '-' :: word =>
          argument :: withoutNumbers (rules.any fun rule =>
            rule.word.toList = word && rule.takes = .value) rest
      | '-' :: c :: letters =>
          if (c :: letters).any Char.isDigit then
            let (spreadOut, expects) := spread (letters.length + 1) (c :: letters)
            spreadOut ++ withoutNumbers expects rest
          else argument :: withoutNumbers (spread (letters.length + 1) (c :: letters)).2 rest
      | argument => argument :: withoutNumbers false rest

def directoryWords : List (List String) := [["read"], ["recurse"], ["skip"]]

def colorWords : List (String × Bool) :=
  [("always", true), ("yes", true), ("force", true), ("never", false), ("no", false),
    ("none", false), ("auto", false), ("tty", false), ("if-tty", false)]

/-- Something that keeps the program from running. -/
inductive Refusal where
  | plain (text : Octets)
  | usage

/-- The number of lines around others that options ask for. -/
def contextOf (given : Invocation) (word : String) : Except Refusal (Option Nat) :=
  match given.value? word with
  | none => .ok none
  | some text =>
      match Octets.number? text with
      | some n => .ok (some n)
      | none => .error (.plain (text ++ ": invalid context length argument".toList))

/-- What is shown of lines that are chosen, as options ask for. -/
def displayOf (given : Invocation) : Except Refusal Display := do
  let around ← contextOf given "context"
  let before ← contextOf given "before-context"
  let after ← contextOf given "after-context"
  let most ← match given.value? "max-count" with
    | none => pure none
    | some text =>
        let digits := if text.head? = some '-' then text.drop 1 else text
        match Octets.number? digits with
        | none => throw (.plain "invalid max count".toList)
        | some n => pure (if text.head? = some '-' then none else some n)
  let colors := given.options.filter fun option => ["color", "colour"].contains option.word
  let isColored ← match colors.getLast? with
    | none => pure false
    | some option =>
        match option.value with
        | none => pure false
        | some word =>
            match colorWords.lookup (String.ofList word) with
            | some isColored => pure isColored
            | none => throw .usage
  return {
    name := none
    numbers := given.has "line-number"
    offsets := given.has "byte-offset"
    onlyStretches := given.has "only-matching"
    before := (before.orElse fun _ => around).getD 0
    after := (after.orElse fun _ => around).getD 0
    hasContext := around.isSome || before.isSome || after.isSome
    gap := if lastOf given ["group-separator", "no-group-separator"] = some "no-group-separator"
      then none else some ((given.value? "group-separator").getD "--".toList)
    most
    ending := if given.has "null-data" then '\x00' else '\n'
    isColored
    endsNames := given.has "null"
    width := none }

/-- What options ask for, apart from what is sought; names are shown if there are `several`. -/
def planOf (given : Invocation) (rule : Rule) (several : Bool) :
    Except Refusal Plan := do
  let display ← displayOf given
  let binaries ← match given.value? "binary-files" with
    | none => pure (if given.has "text" then "text" else if given.has "-I" then "without-match"
        else "binary")
    | some word =>
        if ["binary", "text", "without-match"].contains (String.ofList word) then
          pure (String.ofList word)
        else throw (.plain "unknown binary-files type".toList)
  let telling : Telling :=
    if given.has "quiet" || given.has "silent" then .nothing
    else match lastOf given ["files-with-matches", "files-without-match"] with
      | some "files-with-matches" => .matchingNames
      | some _ => .otherNames
      | none => if given.has "count" then .count else .lines
  let showsNames := match lastOf given ["with-filename", "no-filename"] with
    | some word => word = "with-filename"
    | none => several
  return ⟨rule, display, telling, showsNames, given.has "no-messages",
    (given.value? "label").getD "(standard input)".toList, binaries, given.has "initial-tab"⟩

def patternsIn : List Octets → Act (Except Octets (List Octets))
  | [] => return .ok []
  | path :: rest => do
      match ← inputOf path with
      | .content text =>
          return (← patternsIn rest).map (linesEndedBy '\n' text ++ ·)
      | .unopened error => return .error (path ++ (": " ++ error.wording).toList)
      | .unread error => return .error (path ++ (": " ++ error.wording).toList)

def searchOperands (self : Octets) (given : Invocation) (rule : Rule) (operands : List Octets) :
    Act Nat := do
  let directories := (given.value? "directories").bind (chosen? directoryWords)
  let recurses := given.has "recursive" || given.has "dereference-recursive" ||
    directories = some "recurse"
  let excludedByFile ← patternsIn (given.values "exclude-from")
  let selection : Selection :=
    ⟨given.values "include", given.values "exclude" ++ excludedByFile.toOption.getD [],
      given.values "exclude-dir", directories.getD "read",
      ((given.options.filter fun option => option.word = "recursive" ||
        option.word = "dereference-recursive").getLast?).any
          (·.word = "dereference-recursive")⟩
  let several ← match operands with
    | [] => pure recurses
    | [path] => do pure (recurses && (← isDirectory path))
    | _ => pure true
  match planOf given rule several with
  | .error (.plain text) =>
      complainAs self text
      return 2
  | .error .usage =>
      put "Usage: grep [OPTION]... PATTERNS [FILE]...\n".toList
      return 0
  | .ok plan =>
      if plan.display.most = some 0 then return 1
      let names ←
        if recurses then do
          let starts := if operands.isEmpty then [['.']] else operands
          let found := (← starts.mapM (below selection Entries.depth true)).flatten
          pure (if operands.isEmpty then found.map (·.drop 2) else found)
        else chosenPaths selection (inputNames operands)
      let (found, failed) ← searchAll self plan names
      return if failed then 2 else if found then 0 else 1

/-- Shows the lines of its inputs that match; patterns may have a notation from the start. -/
def grep (usual : Option Notation) : Program := fun self arguments => do
  let arguments := withoutNumbers false arguments
  match takeApart rules true (arguments.length + 1) arguments with
  | .error text =>
      complainAs self text
      sayUsage self
      return 2
  | .ok given =>
      let refuse (text : Octets) : Act Nat := do
        complainAs self text
        return 2
      if given.has "unix-byte-offsets" then
        complainAs self "warning: --unix-byte-offsets (-u) is obsolete".toList
      let asked := usual.toList ++ notationsOf given
      if 1 < asked.eraseDups.length then
        return ← refuse "conflicting matchers specified".toList
      if let some text := (given.values "directories").find? fun text =>
          (chosen? directoryWords text).isNone then
        sayChoices self "invalid" "--directories" directoryWords text
        sayUsage self
        return 1
      match ← patternsIn (given.values "file") with
      | .error text => refuse text
      | .ok fromFiles =>
          let isAsked := given.has "regexp" || given.has "file"
          if !isAsked && given.operands.isEmpty then
            sayUsage self
            return 2
          let own := if isAsked then given.values "regexp" else given.operands.take 1
          let patterns := own.flatMap (Octets.cutAt '\n') ++ fromFiles
          let operands := if isAsked then given.operands else given.operands.drop 1
          let foldsCase := match lastOf given ["ignore-case", "-y", "no-ignore-case"] with
            | some word => word ≠ "no-ignore-case"
            | none => false
          let demand : Demand :=
            ⟨foldsCase, given.has "word-regexp" && !given.has "line-regexp",
              given.has "line-regexp"⟩
          match finderOf (asked.head?.getD .basic) demand patterns with
          | .error problem => refuse problem.toList
          | .ok (finder, remarks) =>
              remarks.forM fun remark => complainAs self ("warning: " ++ remark).toList
              searchOperands self given ⟨finder, given.has "invert-match"⟩ operands

end BlockExtension.Shell.Utility.Searching
