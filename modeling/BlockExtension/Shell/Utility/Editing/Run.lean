import BlockExtension.Shell.Utility.Editing.Script
import BlockExtension.Shell.Utility.Starting

/-!
# Editing lines by a script

What the stream editor does: it takes one line after the other into a space, runs
the commands of the script that are for it, and writes what the space then
holds.
-/

namespace BlockExtension.Shell.Utility.Editing

open Act

/-- A line, whether its end is there, and the name of the file that it is from. -/
structure Line where
  text : Octets
  ended : Bool
  origin : Octets

/-- Where the range of a command is that has begun before. -/
inductive Stretch where
  /-- It goes on up to a line or an expression that ends it. -/
  | opened
  /-- It goes on up to the line with a number, or the first line behind that. -/
  | upTo (last : Nat)
  /-- It has ended and never begins again. -/
  | closed
  deriving DecidableEq, Repr

/-- What has been written to a file. -/
structure Output where
  path : Octets
  text : Octets
  lacksFeed : Bool

/-- How a script is run. -/
structure Manner where
  commands : Array Command
  /-- The space is not written at the end of a cycle. -/
  quiet : Bool
  /-- What ends lines. -/
  mark : Char
  /-- How long the lines are in which a space is shown. -/
  width : Nat
  inPlace : Bool
  followsLinks : Bool
  launch : Launch
  self : Octets
  lastPart : Part

/-- Where the work on an input is. -/
structure State where
  rest : List Line
  space : Octets
  /-- A line feed belongs behind the space. -/
  ended : Bool
  holding : Octets
  heldEnded : Bool
  number : Nat
  written : List Octets
  lacksFeed : Bool
  /-- A line feed is missing behind what commands have written to the same place by its name. -/
  writerLacksFeed : Bool
  /-- What is written behind the current line. -/
  appended : List Octets
  substituted : Bool
  ranges : List (Nat × Stretch)
  last : Option Sought
  lacksExpression : Bool
  files : List Output
  /-- The lines that are left of files from which one line after the other is taken. -/
  sources : List (Octets × List Octets)
  /-- What ends lines. -/
  mark : Char
  /-- The name of the file that the current line is from. -/
  origin : Octets

/-- How a script goes on behind a command. -/
inductive Onward where
  | next
  | goTo (place : Nat)
  /-- With the next line, after writing the space. -/
  | endCycle
  /-- With the next line, without writing the space. -/
  | dropCycle
  /-- From the start, without taking in a line. -/
  | again
  | quit (status : Nat)

abbrev Work := StateT State Act

/-- A character in a case. -/
def Case.apply : Case → Char → Char
  | .upper, c => c.toUpper
  | .lower, c => c.toLower

namespace Work

/-- Writes a text. -/
def emit (text : Octets) : Work Unit :=
  modify fun state =>
    { state with
      written := text :: (if state.lacksFeed then [state.mark] :: state.written else state.written)
      lacksFeed := false }

def emitLine (text : Octets) (ended : Bool) : Work Unit := do
  let mark := (← get).mark
  emit (if ended then text ++ [mark] else text)
  modify fun state => { state with lacksFeed := !ended }

/-- Writes what belongs behind the current line. -/
def emitAppended : Work Unit := do
  let state ← get
  state.appended.forM emit
  modify fun state => { state with appended := [] }

def completeLine : Work Unit := do
  let state ← get
  if state.lacksFeed then
    set { state with written := [state.mark] :: state.written, lacksFeed := false }

/-- What is written of a line to a file. -/
def Output.add (output : Output) (mark : Char) (text : Octets) (ended : Bool) : Output :=
  { output with
    text := output.text ++ (if output.lacksFeed then [mark] else []) ++ text ++
      (if ended then [mark] else [])
    lacksFeed := !ended }

/-- Writes a line to a file. -/
def emitTo (inPlace : Bool) (path text : Octets) (ended : Bool) : Work Unit := do
  if path = "/dev/stdout".toList && !inPlace then
    modify fun state =>
      let start := if state.writerLacksFeed then [state.mark] else []
      { state with
        written := (start ++ text ++ (if ended then [state.mark] else [])) :: state.written
        writerLacksFeed := !ended }
  else
    modify fun state =>
      let (same, others) := state.files.partition (·.path = path)
      let before := same.headD ⟨path, [], false⟩
      { state with files := others ++ [Output.add before state.mark text ended] }

/-- What a file holds, with what has been written to it. -/
def contentOf (path : Octets) : Work Octets := do
  match (← get).files.find? (·.path = path) with
  | some output => return output.text
  | none =>
      let input : Input ← inputOf (if path = "/dev/stdin".toList then ['-'] else path)
      match input with
      | .content octets => return octets
      | _ => return []

def takeLineOf (path : Octets) : Work (Option Octets) := do
  let state ← get
  let left ← match state.sources.lookup path with
    | some left => pure left
    | none => pure (Octets.keepingEnds state.mark (← contentOf path))
  modify fun state => { state with sources := Association.put state.sources path (left.drop 1) }
  return left.head?

/-- The expression that is meant, and the current space as a text that it is sought in. -/
def meant (sought : Sought) : Work (Option (Regex × Regex.Subject)) := do
  if sought.regex.isSome then
    modify fun state => { state with last := some sought }
  let state ← get
  match state.last.bind fun last => last.regex.map (last, ·) with
  | some (last, regex) =>
      return some (regex, ⟨state.space.toArray, last.foldsCase, last.perLine⟩)
  | none =>
      set { state with lacksExpression := true }
      return none

def chooses : Address → Work Bool
  | .line number => return (← get).number = number
  | .last => return (← get).rest.isEmpty
  | .step first step => do
      let number := (← get).number
      return if step = 0 then number = first else first ≤ number && (number - first) % step = 0
  | .sought sought => do
      match ← meant sought with
      | some (regex, subject) => return regex.occursIn subject
      | none => return false

def setRange (place : Nat) (stretch : Stretch) : Work Unit :=
  modify fun state =>
    { state with ranges := (place, stretch) :: state.ranges.filter (·.1 ≠ place) }

/-- Ends the range of a command; one that starts at a line with a number never begins again. -/
def endRange (place : Nat) (start : Address) : Work Unit :=
  match start with
  | .line _ => setRange place .closed
  | _ => modify fun state => { state with ranges := state.ranges.filter (·.1 ≠ place) }

/-- The current line is in a range that has begun before, and which may end with it. -/
def goesOn (place : Nat) (start : Address) (limit : Limit) (stretch : Stretch) : Work Bool := do
  let number := (← get).number
  match stretch, limit with
  | .closed, _ => return false
  | .opened, .address (.line last) =>
      if last ≤ number then endRange place start
      return number ≤ last
  | .opened, .address address =>
      if ← chooses address then endRange place start
      return true
  | .opened, _ => return true
  | .upTo last, _ =>
      if last ≤ number then endRange place start
      return true

/-- The current line starts a range, which goes on with the next one unless its limit is here. -/
def opens (place : Nat) (start : Address) (limit : Limit) : Work Bool := do
  let number := (← get).number
  match limit with
  | .address (.line last) =>
      if number < last then
        setRange place .opened
        return true
      endRange place start
      match start with
      | .line first => return number = first || number ≤ last
      | _ => return true
  | .address _ => setRange place .opened
  | .more count =>
      if count = 0 then endRange place start else setRange place (.upTo (number + count))
  | .multiple factor =>
      if factor = 0 then endRange place start
      else setRange place (.upTo ((number / factor + 1) * factor))
  return true

/--
The current line is in the range of a command. A range from line zero on has begun
before the first line; one from another line on begins at that line or, if that was
passed while other commands took in lines, at the first line behind it.
-/
def isInRange (place : Nat) (start : Address) (limit : Limit) : Work Bool := do
  match (← get).ranges.lookup place, start with
  | some stretch, _ => goesOn place start limit stretch
  | none, .line 0 =>
      setRange place .opened
      goesOn place start limit .opened
  | none, .line first =>
      if (← get).number < first then return false
      opens place start limit
  | none, start =>
      if !(← chooses start) then return false
      opens place start limit

/-- A command is for the current line. -/
def isFor (place : Nat) (selection : Selection) : Work Bool := do
  let chosen ← match selection.start, selection.limit with
    | none, _ => pure true
    | some start, none => chooses start
    | some start, some limit => isInRange place start limit
  return chosen != selection.negated

def cased (case firstCase : Option Case) (text : Octets) : Octets :=
  let all := match case with
    | some case => text.map case.apply
    | none => text
  match firstCase, all with
  | some case, c :: rest => case.apply c :: rest
  | _, all => all

/--
The text of a replacement. The case for a first letter is for the piece it stands
before; if that is a group that is empty, it is for the next piece.
-/
def replacement (subject : Regex.Subject) (found : Regex.Found) :
    (carried : Option Case) → List Piece → Octets
  | _, [] => []
  | carried, piece :: rest =>
      let firstCase := piece.firstCase.orElse fun _ => carried
      let start := cased piece.case firstCase piece.text
      let firstCase := if piece.text.isEmpty then firstCase else none
      let matched : Option Octets := piece.group.map fun index =>
        if index = 0 then subject.between found.first found.last
        else
          match found.groups.lookup index with
          | some (first, last) => subject.between first last
          | none => []
      match matched with
      | none => start ++ replacement subject found none rest
      | some [] =>
          start ++ replacement subject found
            (if piece.firstCase.isSome then firstCase else none) rest
      | some text => start ++ cased piece.case firstCase text ++ replacement subject found none rest

/-- A text with matches replaced from a place on, and whether any has been. -/
def substituted (substitution : Substitution) (regex : Regex) (subject : Regex.Subject) :
    (fuel place count : Nat) → Octets × Bool
  | 0, place, _ => (subject.between place subject.text.size, false)
  | fuel + 1, place, count =>
      match if place ≤ subject.text.size then regex.find? subject place else none with
      | none => (subject.between place subject.text.size, false)
      | some found =>
          let before := subject.between place found.first
          let isEmpty := found.first = found.last
          let count := count + 1
          let replaces := count = substitution.first ||
            (substitution.all && substitution.first ≤ count)
          let body := if replaces then replacement subject found none substitution.pieces
            else subject.between found.first found.last
          let copied := if isEmpty then subject.between found.last (found.last + 1) else []
          let next := if isEmpty then found.last + 1 else found.last
          if replaces && !substitution.all then
            (before ++ body ++ subject.between found.last subject.text.size, true)
          else
            let (rest, more) :=
              if isEmpty then substituted substitution regex subject fuel next count
              else
                match regex.find? subject next with
                | some again =>
                    if again.first = next && again.last = next then
                      let (rest, more) :=
                        substituted substitution regex subject fuel (next + 1) count
                      (subject.between next (next + 1) ++ rest, more)
                    else substituted substitution regex subject fuel next count
                | none => (subject.between next subject.text.size, false)
            (before ++ body ++ copied ++ rest, replaces || more)

/-- Takes the next line into the space; false if there is none. -/
def takeLine (joins : Bool) : Work Bool := do
  let state ← get
  match state.rest with
  | [] => return false
  | line :: rest =>
      set { state with
        rest
        space := if joins then state.space ++ state.mark :: line.text else line.text
        ended := line.ended
        substituted := false
        origin := line.origin
        number := state.number + 1 }
      return true

def visible (c : Char) : Octets :=
  match c with
  | '\\' => ['\\', '\\']
  | '\x07' => ['\\', 'a']
  | '\x08' => ['\\', 'b']
  | '\x0c' => ['\\', 'f']
  | '\n' => ['\\', 'n']
  | '\r' => ['\\', 'r']
  | '\t' => ['\\', 't']
  | '\x0b' => ['\\', 'v']
  | c =>
      if ' ' ≤ c && c < '\x7f' then [c]
      else '\\' :: [c.toNat / 64, c.toNat / 8 % 8, c.toNat % 8].flatMap Octets.ofNat

/--
A text with its characters made visible. Lines that would be longer than a width are
broken behind a backslash, except for a width of nothing.
-/
def shown (width : Nat) : (column : Nat) → Octets → Octets
  | _, [] => ['$', '\n']
  | column, c :: rest =>
      let text := visible c
      if width ≠ 0 && width - 1 < column + text.length then
        '\\' :: '\n' :: text ++ shown width text.length rest
      else text ++ shown width (column + text.length) rest

def firstLine (mark : Char) (text : Octets) : Octets × Option Octets :=
  let line := text.takeWhile (· ≠ mark)
  (line, if text.contains mark then some (text.drop (line.length + 1)) else none)

/-- Runs a command of the shell, and tells what it writes. -/
def outputOf (manner : Manner) (command : Octets) : Work Octets := do
  let (text, _) ← (collected manner.launch ["sh".toList, "-c".toList, command] : Act _)
  return text

/-- Runs the space as a command; what that writes takes its place. -/
def executeSpace (manner : Manner) : Work Unit := do
  let state ← get
  let text ← outputOf manner state.space
  let text := if text.getLast? = some state.mark then text.dropLast else text
  modify fun state => { state with space := text }

/-- Replaces matches in the space. -/
def substitute (manner : Manner) (substitution : Substitution) : Work Onward := do
  let state ← get
  match ← meant substitution.sought with
  | none => return .next
  | some (regex, subject) =>
      let (text, changed) :=
        substituted substitution regex subject (state.space.length + 2) 0 0
      unless changed do return .next
      modify fun state => { state with space := text, substituted := true }
      let prints : Work Unit := do
        let state ← get
        emitLine state.space state.ended
      if substitution.prints && substitution.printsFirst && substitution.runs then prints
      if substitution.runs then executeSpace manner
      if substitution.prints && !(substitution.printsFirst && substitution.runs) then prints
      if let some path := substitution.path then
        let state ← get
        emitTo manner.inPlace path state.space state.ended
      return .next

/-- Does what a command says. -/
def perform (manner : Manner) (place : Nat) (command : Command) : Work Onward := do
  let state ← get
  match command.action with
  | .block _ => return .next
  | .close => return .next
  | .label _ => return .next
  | .jump condition name =>
      let jumps := match condition with
        | .always => true
        | .substituted => state.substituted
        | .unsubstituted => !state.substituted
      if condition ≠ .always then
        modify fun state => { state with substituted := false }
      if !jumps then return .next
      if name.isEmpty then return .endCycle
      let found := manner.commands.findIdx? fun other =>
        match other.action with
        | .label other => other = name
        | _ => false
      return (found.map Onward.goTo).getD .endCycle
  | .number =>
      emit (Octets.ofNat state.number ++ ['\n'])
      return .next
  | .append text =>
      modify fun state => { state with appended := state.appended ++ [text] }
      return .next
  | .insert text =>
      emit text
      return .next
  | .change text =>
      let isOpen := (state.ranges.lookup place).any (· ≠ .closed) && !command.selection.negated
      unless isOpen do emit text
      return .dropCycle
  | .delete => return .dropCycle
  | .deleteFirst =>
      match (firstLine state.mark state.space).2 with
      | none => return .dropCycle
      | some rest =>
          set { state with space := rest }
          return .again
  | .execute none =>
      executeSpace manner
      modify fun state => { state with ended := true }
      return .next
  | .execute (some command) =>
      completeLine
      emit (← outputOf manner command.dropLast)
      return .next
  | .get =>
      set { state with space := state.holding, ended := state.heldEnded }
      return .next
  | .getMore =>
      set { state with
        space := state.space ++ state.mark :: state.holding
        ended := state.heldEnded }
      return .next
  | .hold =>
      set { state with holding := state.space, heldEnded := state.ended }
      return .next
  | .holdMore =>
      set { state with
        holding := state.holding ++ state.mark :: state.space
        heldEnded := state.ended }
      return .next
  | .list width =>
      emit (shown (width.getD manner.width) 0 state.space)
      return .next
  | .fileName =>
      emit (state.origin ++ ['\n'])
      return .next
  | .next =>
      if state.rest.isEmpty then return .endCycle
      unless manner.quiet do emitLine state.space state.ended
      emitAppended
      let _ ← takeLine false
      return .next
  | .nextMore =>
      emitAppended
      return if ← takeLine true then .next else .endCycle
  | .print =>
      emitLine state.space state.ended
      return .next
  | .printFirst =>
      let (line, rest) := firstLine state.mark state.space
      emitLine line (rest.isSome || state.ended)
      return .next
  | .quit status silently =>
      if silently then
        set { state with appended := [] }
      else if !manner.quiet then
        emitLine state.space state.ended
        completeLine
      return .quit status
  | .readFile path =>
      let content ← contentOf path
      modify fun state => { state with appended := state.appended ++ [content] }
      return .next
  | .readLine path =>
      let line ← takeLineOf path
      modify fun state => { state with appended := state.appended ++ line.toList }
      return .next
  | .substitute substitution => substitute manner substitution
  | .writeFile path false =>
      emitTo manner.inPlace path state.space state.ended
      return .next
  | .writeFile path true =>
      let (line, rest) := firstLine state.mark state.space
      emitTo manner.inPlace path line (rest.isSome || state.ended)
      return .next
  | .exchange =>
      set { state with
        space := state.holding
        ended := state.heldEnded
        holding := state.space
        heldEnded := state.ended }
      return .next
  | .transliterate source target =>
      let table := source.zip target
      set { state with space := state.space.map fun c => (table.lookup c).getD c }
      return .next
  | .clear =>
      set { state with space := [] }
      return .next

/-- Writes the space at the end of a cycle, if it is to be, and what belongs behind the line. -/
def closeCycle (shows : Bool) : Work Unit := do
  let state ← get
  if shows then emitLine state.space state.ended
  emitAppended

def complainOfExpression (manner : Manner) : Work Unit := do
  let part := manner.lastPart
  let problem := Problem.at part.origin 0 (part.text.count '\n' + 1)
    "no previous regular expression"
  (complainAs manner.self problem.message : Act Unit)

/-- Runs a script from a command on; answers with the status if it ends by itself. -/
def run (manner : Manner) : (fuel : Nat) → (place : Nat) → Work (Option Nat)
  | 0, _ => return none
  | fuel + 1, place => do
      let onward ← match manner.commands[place]? with
        | none => pure Onward.endCycle
        | some command => do
            if ← isFor place command.selection then perform manner place command
            else
              match command.action with
              | .block stop => pure (Onward.goTo stop)
              | _ => pure Onward.next
      if (← get).lacksExpression then
        complainOfExpression manner
        return some 1
      let startCycle : Work (Option Nat) := do
        if ← takeLine false then run manner fuel 0 else return none
      match onward with
      | .next => run manner fuel (place + 1)
      | .goTo place => run manner fuel (place + 1)
      | .endCycle =>
          closeCycle (!manner.quiet)
          startCycle
      | .dropCycle =>
          closeCycle false
          startCycle
      | .again =>
          emitAppended
          run manner fuel 0
      | .quit status =>
          closeCycle false
          return some status

end Work

def linesOf (mark : Char) (origin text : Octets) : List Line :=
  match (Octets.cutAt mark text).reverse with
  | [] => []
  | last :: before =>
      before.reverse.map (⟨·, true, origin⟩) ++
        (if last.isEmpty then [] else [⟨last, false, origin⟩])

def stepLimit : Nat := 10000000

/-- The state before any line, of which nothing has been written. -/
def State.start (mark : Char) : State where
  rest := []
  space := []
  ended := true
  holding := []
  heldEnded := true
  number := 0
  written := []
  lacksFeed := false
  writerLacksFeed := false
  appended := []
  substituted := false
  ranges := []
  last := none
  lacksExpression := false
  files := []
  sources := []
  mark
  origin := ['-']

/-- The state before the lines of another input, behind one that has been worked on. -/
def State.renewed (state : State) (lines : List Line) : State :=
  { State.start state.mark with
    rest := lines
    written := state.written
    lacksFeed := state.lacksFeed
    writerLacksFeed := state.writerLacksFeed
    files := state.files }

/-- Edits lines; answers with the status if the script ends by itself. -/
def edit (manner : Manner) (lines : List Line) : Work (Option Nat) := do
  modify fun state => state.renewed lines
  if ← Work.takeLine false then Work.run manner stepLimit 0 else return none

def editAll (manner : Manner) : List (List Line) → Work (Option Nat)
  | [] => return none
  | lines :: rest => do
      match ← edit manner lines with
      | some status => return some status
      | none => editAll manner rest

/-- Makes files empty that will be written to; tells whether that could be done. -/
def openOutputs (self : Octets) : List Octets → Act Bool
  | [] => return true
  | path :: rest => do
      match ← openPath path .write with
      | .ok _ => openOutputs self rest
      | .error error =>
          complainAs self ("couldn't open file ".toList ++ path ++
            (": " ++ error.wording).toList)
          return false

/-- The options. -/
def rules : List OptionRule :=
  [switch "quiet" 'n', ⟨"silent", none, .nothing⟩, setting "expression" 'e', setting "file" 'f',
    switch "regexp-extended" 'E', switch "-r" 'r', ⟨"in-place", some 'i', .perhaps⟩,
    switch "separate" 's', switch "unbuffered" 'u', switch "null-data" 'z',
    ⟨"zero-terminated", none, .nothing⟩, switch "binary" 'b', setting "line-length" 'l',
    ⟨"posix", none, .nothing⟩, ⟨"debug", none, .nothing⟩, ⟨"sandbox", none, .nothing⟩,
    ⟨"follow-symlinks", none, .nothing⟩]

/-- How the program is to be called. -/
def usage : List String :=
  ["Usage: sed [OPTION]... \x7bscript-only-if-no-other-script\x7d [input-file]...", "",
    "  -n, --quiet, --silent",
    "                 suppress automatic printing of pattern space",
    "      --debug",
    "                 annotate program execution",
    "  -e script, --expression=script",
    "                 add the script to the commands to be executed",
    "  -f script-file, --file=script-file",
    "                 add the contents of script-file to the commands to be executed",
    "  --follow-symlinks",
    "                 follow symlinks when processing in place",
    "  -i[SUFFIX], --in-place[=SUFFIX]",
    "                 edit files in place (makes backup if SUFFIX supplied)",
    "  -l N, --line-length=N",
    "                 specify the desired line-wrap length for the \x60l' command",
    "  --posix",
    "                 disable all GNU extensions.",
    "  -E, -r, --regexp-extended",
    "                 use extended regular expressions in the script",
    "                 (for portability use POSIX -E).",
    "  -s, --separate",
    "                 consider files as separate rather than as a single,",
    "                 continuous long stream.",
    "      --sandbox",
    "                 operate in sandbox mode (disable e/r/w commands).",
    "  -u, --unbuffered",
    "                 load minimal amounts of data from the input files and flush",
    "                 the output buffers more often",
    "  -z, --null-data",
    "                 separate lines by NUL characters",
    "      --help     display this help and exit",
    "      --version  output version information and exit", "",
    "If no -e, --expression, -f, or --file option is given, then the first",
    "non-option argument is taken as the sed script to interpret.  All",
    "remaining arguments are names of input files; if no input files are",
    "specified, then the standard input is read.", ""]

def voice : InputVoice := ⟨fun name => "can't read ".toList ++ name,
  fun name => "read error on ".toList ++ name⟩

def writeFiles (files : List Output) : Act Unit :=
  files.forM fun output => do
    if let .ok place := ← openPath output.path .write then
      let _ ← writeAt place output.text

def backupPath (suffix path : Octets) : Octets :=
  let (directory, name) := match (Octets.cutAt '/' path).reverse with
    | [] => ([], path)
    | name :: before => (before.reverse.flatMap (· ++ ['/']), name)
  if suffix.contains '*' then
    let copy := suffix.flatMap fun c => if c = '*' then name else [c]
    if copy.contains '/' then copy else directory ++ copy
  else path ++ suffix

/--
Edits files in their places; answers with the status if the script ends by itself,
and with the one that stands for what went wrong.
-/
def editInPlace (manner : Manner) (suffix : Octets) :
    List Octets → List Output → Act (Option Nat × Nat)
  | [], _ => return (none, 0)
  | path :: rest, files => do
      let refuse (text : Octets) (status : Nat) : Act (Option Nat × Nat) := do
        complainAs manner.self text
        let (ended, worst) ← editInPlace manner suffix rest files
        return (ended, max status worst)
      let unread (error : Files.OsError) : Act (Option Nat × Nat) :=
        refuse ("can't read ".toList ++ path ++ (": " ++ error.wording).toList) 2
      match (← tree).find (pathOf path) with
      | .error error => unread error
      | .ok (location, .file content mode) =>
          if !(Files.Entry.file content mode).isReadable then return ← unread .permissionDenied
          let start := { State.start manner.mark with files }
          let (status, state) ←
            StateT.run (edit manner (linesOf manner.mark path (Octets.ofBytes content))) start
          writeFiles state.files
          let place := if manner.followsLinks then pathTo location else path
          let moved ←
            if suffix.isEmpty then pure none
            else moveEntry (pathOf place) (pathOf (backupPath suffix place))
          if let some error := moved then
            complainAs manner.self ("cannot rename ".toList ++ place ++
              (": " ++ error.wording).toList)
            return (some 4, 4)
          let text := state.written.reverse.flatten
          let _ ← changeTree fun tree =>
            .ok (tree.plant (pathOf place) (.file (Octets.toBytes text) mode))
          match status with
          | some status => return (some status, 0)
          | none =>
              let isDevice (output : Output) : Bool := "/dev/".toList.isPrefixOf output.path
              editInPlace manner suffix rest (state.files.filter fun output => !isDevice output)
      | .ok _ => refuse ("couldn't edit ".toList ++ path ++ ": not a regular file".toList) 4

/--
Reads inputs one after the other up to one that is there but cannot be read; tells
what they hold, and the status that stands for what went wrong.
-/
def readUntilUnread (self : Octets) : List Octets → Act (List (Octets × Octets) × Nat)
  | [] => return ([], 0)
  | name :: rest => do
      match ← inputOf name with
      | .content octets =>
          let (more, worst) ← readUntilUnread self rest
          return ((name, octets) :: more, worst)
      | .unopened error =>
          complainAs self (voice.unopened name ++ (": " ++ error.wording).toList)
          let (more, worst) ← readUntilUnread self rest
          return (more, max worst 2)
      | .unread error =>
          complainAs self (voice.unread name ++ (": " ++ error.wording).toList)
          return ([], 4)

/-- The parts of a script that options give, in their order; none if a file cannot be read. -/
def partsOf (self : Octets) (extended : Bool) (count : Nat) :
    List GivenOption → Act (Option (List Part))
  | [] => return some []
  | given :: rest => do
      let value := given.value.getD []
      match given.word with
      | "expression" =>
          let others ← partsOf self extended (count + 1) rest
          return others.map (⟨.argument (count + 1), value, extended⟩ :: ·)
      | "file" =>
          match ← inputOf value with
          | .content text =>
              let others ← partsOf self extended count rest
              return others.map (⟨.file value, text, extended⟩ :: ·)
          | .unopened error =>
              complainAs self ("couldn't open file ".toList ++ value ++
                (": " ++ error.wording).toList)
              return none
          | .unread error =>
              complainAs self ("couldn't read from ".toList ++ value ++
                (": " ++ error.wording).toList)
              return none
      | "regexp-extended" => partsOf self true count rest
      | "-r" => partsOf self true count rest
      | _ => partsOf self extended count rest

/-- The first part of a script says that spaces are not to be written at the end of cycles. -/
def asksForQuiet (parts : List Part) : Bool :=
  match parts with
  | [] => false
  | part :: _ => part.text = ['#', 'n'] || part.text.take 3 = ['#', 'n', '\n']

def editInputs (manner : Manner) (given : Invocation) (names : List Octets) : Act Nat := do
  if manner.inPlace then
    let suffix := (given.value? "in-place").getD []
    let (ended, worst) ← editInPlace manner suffix names []
    return ended.getD worst
  let (inputs, worst) ← readUntilUnread manner.self (inputNames names)
  let parts := inputs.map fun (name, text) => linesOf manner.mark name text
  let parts := if given.has "separate" then parts else [parts.flatten]
  let (status, state) ← StateT.run (editAll manner parts) (State.start manner.mark)
  writeFiles state.files
  let _ ← finish state.written.reverse.flatten true
  return status.getD worst

/-- Edits the lines of its inputs by a script. -/
def sed (launch : Launch) : Program := fun self arguments => do
  let refuse : Act Nat := do
    report (Octets.unlines (usage.map String.toList))
    return 1
  match takeApart rules true (arguments.length + 1) arguments with
  | .error text =>
      complainAs self text
      refuse
  | .ok given =>
      let some parts ← partsOf self false 0 given.options | return 4
      let extended := given.has "regexp-extended" || given.has "-r"
      let isAsked := given.has "expression" || given.has "file"
      let (parts, names) ← match isAsked, given.operands with
        | true, names => pure (parts, names)
        | false, [] => return ← refuse
        | false, script :: names => pure ([⟨.argument 1, script, extended⟩], names)
      match ofParts (given.has "sandbox") parts with
      | .error problem =>
          complainAs self problem.message
          return match problem with
            | .of _ => 4
            | .at .. => 1
      | .ok commands =>
          let outputs := (outputPaths commands).filter fun path =>
            !(["/dev/stdout", "/dev/stderr"].contains (String.ofList path))
          unless ← openOutputs self outputs do return 4
          editInputs
            { commands
              quiet := given.has "quiet" || given.has "silent" || asksForQuiet parts
              mark := if given.has "null-data" || given.has "zero-terminated" then '\x00' else '\n'
              width := ((given.value? "line-length").map Octets.valueOf).getD 70
              inPlace := given.has "in-place"
              followsLinks := given.has "follow-symlinks"
              launch
              self
              lastPart := parts.getLast?.getD ⟨.argument 1, [], false⟩ }
            given names

end BlockExtension.Shell.Utility.Editing
