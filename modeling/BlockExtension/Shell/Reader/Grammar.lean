import BlockExtension.Shell.Reader.Tokens

/-!
# Reading commands

The grammar of commands, from lists down to single words. All recursion goes
through one knot, `goal`: whatever contains other commands is given the way to
read them, and the knot is tied on a depth that no script can exceed, since each
level costs it a character.
-/

namespace BlockExtension.Shell.Reader

open Read

/-- What is to be read. -/
inductive Goal where
  | line
  | list (mayBeEmpty : Bool)
  | command (newlines known : Bool)
  deriving DecidableEq

abbrev Reading := Goal → Read Command

/-- Goes past a mark that has been looked at too early. -/
def expectSeen (mark : String) : Read Unit := do
  let found := (← get).again.getD .endOfInput
  modify fun source => { source with again := none }
  unless found.isMark mark do refuse found (some s!"\"{mark}\"")

/-- What a word reader needs of it. -/
def innerOf (reading : Reading) : Inner where
  output := do
    let body ← reading (.list true)
    if let some .endOfInput := (← get).again then stop .unclosedOutput
    expectSeen ")"
    return body
  whole := reading (.list true)

/-! ## Simple commands -/

def usualDescriptor (operator : String) : Nat := if operator.startsWith "<" then 0 else 1

def namesFile (target : Word) : Bool :=
  match target.bare? with
  | none => false
  | some text =>
      let digits := if text.getLast? = some '-' then text.dropLast else text
      !digits.isEmpty && (Octets.number? digits).isNone

def redirectionFor (descriptor : Nat) (operator : String) (target : Word) :
    Read (List Redirection) := do
  let file (access : Access) : List Redirection := [.file descriptor access target]
  match operator with
  | "<" => return file .read
  | ">" => return file .write
  | ">|" => return file .overwrite
  | ">>" => return file .append
  | "<>" => return file .both
  | "<&" => return [.duplicate descriptor target]
  | ">&" =>
      if (← isExtended) && descriptor = 1 && namesFile target then
        return [.file 1 .write target, .duplicate 2 [.literal ['1']]]
      return [.duplicate descriptor target]
  | "<<<" => return [.word descriptor target]
  | "&>" => return [.file 1 .write target, .duplicate 2 [.literal ['1']]]
  | "&>>" => return [.file 1 .append target, .duplicate 2 [.literal ['1']]]
  | _ =>
      let (delimiter, marked) := target.unquoted
      let source ← get
      let index := source.documents.size
      let awaited : Awaited := ⟨index, delimiter, !marked, operator = "<<-", source.line⟩
      set { source with
        awaited := source.awaited ++ [awaited]
        documents := source.documents.push [] }
      return [.document descriptor index]

def redirectionOf (fore : Option Fore) (operator : String) (target : Word) :
    Read (List Redirection) := do
  match fore with
  | none => redirectionFor (usualDescriptor operator) operator target
  | some (.number descriptor) => redirectionFor descriptor operator target
  | some (.held name) =>
      return (← redirectionFor (usualDescriptor operator) operator target).map (.held name)

def redirection (inner : Inner) (descriptor : Option Fore) (operator : String) :
    Read (List Redirection) := do
  match ← token inner false false with
  | .word target => redirectionOf descriptor operator target
  | other => refuse other none

def redirections (inner : Inner) : (fuel : Nat) → (known : Bool) → Read (List Redirection)
  | 0, _ => return []
  | fuel + 1, known => do
      match ← token inner false known with
      | .redirect descriptor operator =>
          let first ← redirection inner descriptor operator
          return first ++ (← redirections inner fuel false)
      | other =>
          putBack other
          return []

def assignedName? (word : Word) : Option (Octets × Octets × Word) :=
  match word with
  | .literal text :: rest =>
      let (name, behind) := text.span Octets.isNamePart
      if Octets.isName name then some (name, behind, rest) else none
  | _ => none

/-- A text up to the bracket that closes one that is open, or how many are open at its end. -/
def upToBracket : (depth : Nat) → (before : Octets) → Octets → Except Nat (Octets × Octets)
  | depth, _, [] => .error depth
  | 0, before, ']' :: rest => .ok (before.reverse, rest)
  | depth + 1, before, ']' :: rest => upToBracket depth (']' :: before) rest
  | depth, before, '[' :: rest => upToBracket (depth + 1) ('[' :: before) rest
  | depth, before, c :: rest => upToBracket depth (c :: before) rest

/-- The parts of a word up to a closing bracket, and what stands behind it. -/
def subscript? : (depth : Nat) → Word → Option (Word × Octets × Word)
  | _, [] => none
  | depth, .literal text :: rest =>
      match upToBracket depth [] text with
      | .ok (before, behind) => some ([.literal before], behind, rest)
      | .error depth =>
          (subscript? depth rest).map fun (index, behind, rest) =>
            (.literal text :: index, behind, rest)
  | depth, part :: rest =>
      (subscript? depth rest).map fun (index, behind, rest) => (part :: index, behind, rest)

/-- The value that stands behind the mark of an assignment, and whether it is to be added. -/
def assignedValue? (extended : Bool) (behind : Octets) (rest : Word) : Option (Bool × Word) :=
  let value (text : Octets) : Word := if text.isEmpty then rest else .literal text :: rest
  match behind with
  | '=' :: text => some (false, value text)
  | '+' :: '=' :: text => if extended then some (true, value text) else none
  | _ => none

def assignment? (extended : Bool) (word : Word) : Option Assignment :=
  match assignedName? word with
  | none => none
  | some (name, '[' :: behind, rest) =>
      if !extended then none
      else
        match subscript? 0 (.literal behind :: rest) with
        | none => none
        | some (index, behind, rest) =>
            (assignedValue? extended behind rest).map fun (adds, value) =>
              .element name index adds value
  | some (name, behind, rest) =>
      (assignedValue? extended behind rest).map fun (adds, value) => .single name adds value

def itemOf (word : Word) : Item :=
  match word with
  | .literal ('[' :: behind) :: rest =>
      match subscript? 0 (.literal behind :: rest) with
      | some (index, behind, rest) =>
          match assignedValue? true behind rest with
          | some (adds, value) => .placed index adds value
          | none => .plain word
      | none => .plain word
  | word => .plain word

def itemsUpToParenthesis (inner : Inner) : (fuel : Nat) → Read (List Item)
  | 0 => return []
  | fuel + 1 => do
      modify fun source => { source with inList := true }
      let found ← token inner true false
      modify fun source => { source with inList := false }
      match found with
      | .word word => return itemOf word :: (← itemsUpToParenthesis inner fuel)
      | other =>
          unless other.isMark ")" do refuse other none
          return []

def specialNames : List String :=
  [".", ":", "break", "continue", "eval", "exec", "exit", "export", "readonly", "return",
    "set", "shift", "times", "trap", "unset", "local"]

def functionName (word : Word) : Read Octets := do
  let (name, marked) := word.unquoted
  if ← isExtended then return name
  if marked || !Octets.isName name || specialNames.contains (Octets.toText name) then
    stop .badFunctionName
  return name

/-- The parts of a simple command. -/
structure Parts where
  assignments : List Assignment
  words : List Word
  declared : List Assignment
  redirections : List Redirection

def Parts.isSingle (parts : Parts) : Bool :=
  parts.assignments.length + parts.words.length + parts.redirections.length = 1

def isLineEnd : Token → Bool
  | .newline => true
  | _ => false

/-- The utilities among whose arguments lists may be assigned. -/
def declaringNames : List String := ["declare", "typeset", "local", "export", "readonly", "eval"]

/-- Lists may be assigned among the words that follow some. -/
def Parts.declares (parts : Parts) : Bool :=
  let names := parts.words.filterMap fun word => (Word.bare? word).map String.ofList
  match names.dropWhile fun name => name = "builtin" || name = "command" with
  | name :: _ => declaringNames.contains name
  | [] => false

def simpleFrom (reading : Reading) (inner : Inner) (line : Nat) :
    (fuel : Nat) → Parts → Read Command
  | 0, parts => return .simple line parts.assignments parts.words parts.declared parts.redirections
  | fuel + 1, parts => do
      let extended ← isExtended
      let declares := extended && parts.declares
      let start := (← get).line
      let found ← tokenWhere inner false false (parts.words.isEmpty || declares)
      let after := (← get).line
      let line := if extended && parts.isSingle then
          (if isLineEnd found then start else after)
        else line
      let found ←
        if parts.words.isEmpty || (← get).followsAlias then
          resolved inner false false aliasLimit found
        else pure found
      match found with
      | .word word =>
          let starts := parts.words.isEmpty
          let assigned := if starts || declares then assignment? extended word else none
          match assigned with
          | some (.single name adds []) =>
              if extended && (← peek) = some '(' then
                skip
                let items ← itemsUpToParenthesis inner (← bound)
                let list := Assignment.list name adds items
                if starts then
                  simpleFrom reading inner line fuel
                    { parts with assignments := parts.assignments ++ [list] }
                else
                  simpleFrom reading inner line fuel
                    { parts with
                      words := parts.words ++ [[.literal name]]
                      declared := parts.declared ++ [list] }
              else if starts then
                simpleFrom reading inner line fuel
                  { parts with assignments := parts.assignments ++ [.single name adds []] }
              else
                simpleFrom reading inner line fuel { parts with words := parts.words ++ [word] }
          | some assignment =>
              if !starts then
                return ← simpleFrom reading inner line fuel
                  { parts with words := parts.words ++ [word] }
              simpleFrom reading inner line fuel
                { parts with assignments := parts.assignments ++ [assignment] }
          | none =>
              simpleFrom reading inner line fuel { parts with words := parts.words ++ [word] }
      | .redirect descriptor operator =>
          let more ← redirection inner descriptor operator
          simpleFrom reading inner line fuel
            { parts with redirections := parts.redirections ++ more }
      | found =>
          match parts, found.isMark "(" with
          | ⟨[], [word], [], []⟩, true =>
              expect inner false false ")"
              let name ← functionName word
              let start := (← get).line
              return .function name start (← reading (.command true true))
          | _, _ =>
              putBack found
              return .simple line parts.assignments parts.words parts.declared
                parts.redirections

/-! ## Compound commands -/

def branches (reading : Reading) (inner : Inner) : (fuel : Nat) → Read Command
  | 0 => return .nothing
  | fuel + 1 => do
      let condition ← reading (.list false)
      expect inner false false "then"
      let consequence ← reading (.list false)
      let next ← token inner false false
      if next.isMark "elif" then
        return .branch condition consequence (← branches reading inner fuel)
      else if next.isMark "else" then
        return .branch condition consequence (← reading (.list false))
      else
        putBack next
        return .branch condition consequence .nothing

def wordsUpTo (inner : Inner) : (fuel : Nat) → Read (List Word × Token)
  | 0 => return ([], .endOfInput)
  | fuel + 1 => do
      match ← token inner false false with
      | .word word =>
          let (more, last) ← wordsUpTo inner fuel
          return (word :: more, last)
      | other => return ([], other)

def loopBody (reading : Reading) (inner : Inner) (newlines known : Bool) : Read Command := do
  let opening ← token inner newlines known
  if (← isExtended) && opening.isMark "\x7b" then
    let body ← reading (.list false)
    expect inner false false "\x7d"
    return body
  unless opening.isMark "do" do refuse opening (some "\"do\"")
  let body ← reading (.list false)
  expect inner false false "done"
  return body

def eachLoop (reading : Reading) (inner : Inner) (isMenu : Bool) (line : Nat) :
    Read Command := do
  let make := if isMenu then Command.menu else Command.each
  match ← token inner false false with
  | .word word =>
      match word.bare? with
      | none => stop .badLoopVariable
      | some name =>
          unless Octets.isName name || (← isExtended) do stop .badLoopVariable
          let next ← token inner true true
          if next.isMark "in" then
            let (items, last) ← wordsUpTo inner (← bound)
            match last with
            | .newline => pure ()
            | last => unless last.isMark ";" do refuse last none
            return make line name (some items) (← loopBody reading inner true true)
          else
            unless next.isMark ";" do putBack next
            return make line name none (← loopBody reading inner true true)
  | _ => stop .badLoopVariable

def countLoop (reading : Reading) (inner : Inner) (line : Nat) : Read Command := do
  let start ← stretchOf inner (.upTo [';'] true)
  skip
  let condition ← stretchOf inner (.upTo [';'] true)
  skip
  let step ← stretchOf inner .arithmetic
  let next ← token inner true true
  unless next.isMark ";" do putBack next
  return .count line start condition step (← loopBody reading inner true true)

def casePatterns (inner : Inner) : (fuel : Nat) → Token → Read (List Word)
  | 0, _ => return []
  | fuel + 1, first => do
      let pattern : Word := match first with
        | .word word => word
        | other => [.literal (Octets.ofText other.text)]
      let next ← token inner false false
      if next.isMark "|" then
        return pattern :: (← casePatterns inner fuel (← token inner false false))
      unless next.isMark ")" do refuse next (some "\")\"")
      return [pattern]

def cases (reading : Reading) (inner : Inner) :
    (fuel : Nat) → Read (List (List Word × Command × Onward))
  | 0 => return []
  | fuel + 1 => do
      let first ← token inner true true
      if first.isMark "esac" then return []
      let first ← if first.isMark "(" then token inner false false else pure first
      let patterns ← casePatterns inner (← bound) first
      let body ← reading (.list true)
      let next ← token inner true true
      if next.isMark "esac" then return [(patterns, body, .stop)]
      let onward ←
        if next.isMark ";;" then pure Onward.stop
        else if next.isMark ";&" then pure .next
        else if next.isMark ";;&" then pure .retry
        else refuse next (some "\";;\"")
      return (patterns, body, onward) :: (← cases reading inner fuel)

def choice (reading : Reading) (inner : Inner) (line : Nat) : Read Command := do
  match ← token inner false false with
  | .word subject =>
      expect inner true true "in"
      return .choice line subject (← cases reading inner (← bound))
  | other => refuse other (some "word")

def terms (inner : Inner) : (fuel : Nat) → Read (List Term)
  | 0 => return []
  | fuel + 1 => do
      let found ← token inner true false
      match found with
      | .word word =>
          if word.bare? = some "]]".toList then return []
          if word.bare? = some "=~".toList then
            skipBlanks (← bound)
            let pattern ← stretchOf inner (.upTo [' ', '\t', '\n'] false)
            return .operator "=~" :: .word pattern :: (← terms inner fuel)
          return .word word :: (← terms inner fuel)
      | .redirect _ operator => return .operator operator :: (← terms inner fuel)
      | .operator text => return .operator text :: (← terms inner fuel)
      | other => refuse other none

def announcedFunction (reading : Reading) (inner : Inner) : Read Command := do
  match ← token inner false false with
  | .word word =>
      let name ← functionName word
      let next ← token inner true true
      if next.isMark "(" then
        expect inner false false ")"
        return .function name (← get).line (← reading (.command true true))
      putBack next
      return .function name (← get).line (← reading (.command true true))
  | other => refuse other none

/-- A compound command whose first token has been gone past; none if it starts no such one. -/
def compound? (reading : Reading) (inner : Inner) (line : Nat) (first : Token) :
    Read (Option Command) := do
  let extended ← isExtended
  match first with
  | .keyword "if" =>
      let body ← branches reading inner (← bound)
      expect inner false false "fi"
      return some body
  | .keyword "while" =>
      let condition ← reading (.list false)
      return some (.loop true condition (← loopBody reading inner false false))
  | .keyword "until" =>
      let condition ← reading (.list false)
      return some (.loop false condition (← loopBody reading inner false false))
  | .keyword "for" =>
      if extended then
        skipBlanks (← bound)
        if ← skipText ['(', '('] then return some (← countLoop reading inner line)
      return some (← eachLoop reading inner false line)
  | .keyword "select" => return some (← eachLoop reading inner true line)
  | .keyword "case" => return some (← choice reading inner line)
  | .keyword "\x7b" =>
      let body ← reading (.list false)
      expect inner false false "\x7d"
      return some body
  | .keyword "[[" =>
      let before := (← get).groups
      modify fun source => { source with groups := true }
      let found ← terms inner (← bound)
      modify fun source => { source with groups := before }
      return some (.condition line found)
  | .keyword "function" => return some (← announcedFunction reading inner)
  | .operator "(" =>
      if extended && (← peek) = some '(' then
        skip
        return some (.calculation line (← stretchOf inner .arithmetic))
      let body ← reading (.list false)
      expect inner false false ")"
      return some (.subshell line body [])
  | _ => return none

def command (reading : Reading) (inner : Inner) (newlines known : Bool) : Read Command := do
  let before := (← get).line
  let first ← token inner newlines known
  match first with
  | .word _ =>
      putBack first
      simpleFrom reading inner (← get).line (← bound) ⟨[], [], [], []⟩
  | .redirect .. =>
      putBack first
      simpleFrom reading inner (← get).line (← bound) ⟨[], [], [], []⟩
  | first =>
      match ← compound? reading inner before first with
      | none => refuse first none
      | some body =>
          if first.isMark "function" then return body
          match ← redirections inner (← bound) true, body with
          | [], body => return body
          | found, .subshell line body _ => return .subshell line body found
          | found, body => return .redirected before body found

/-! ## Lists -/

/-- Commands of which each reads what the one before writes. -/
def pipelineFrom (reading : Reading) (inner : Inner) : (fuel : Nat) → Command → Read Command
  | 0, first => return first
  | fuel + 1, first => do
      let next ← token inner false false
      if next.isMark "|" then
        let second ← reading (.command true true)
        return .pipe first (← pipelineFrom reading inner fuel second)
      if next.isMark "|&" then
        let first := Command.redirected (← get).line first [.duplicate 2 [.literal ['1']]]
        let second ← reading (.command true true)
        return .pipe first (← pipelineFrom reading inner fuel second)
      putBack next
      return first

/-- Nothing is left behind which something could be done before this token. -/
def isEmptyBehind : Token → Bool
  | .endOfInput => true
  | .newline => true
  | token => token.isMark ";" || token.isMark ")" || token.isMark "\x7d"

/-- A pipeline at most `fuel` words that say what is done with its outcome. -/
def pipelineWithin (reading : Reading) (inner : Inner) :
    (fuel : Nat) → (newlines known : Bool) → Read Command
  | 0, _, _ => stop .tooDeep
  | fuel + 1, newlines, known => do
      let first ← token inner newlines known
      if first.isMark "!" then
        let extended ← isExtended
        if !extended then
          let body ← reading (.command false true)
          return .negation (← pipelineFrom reading inner (← bound) body)
        return .negation (← pipelineWithin reading inner fuel false true)
      if first.isMark "time" then
        let next ← token inner false true
        let isPlain := match next with
          | .word word => word.bare? = some "-p".toList
          | _ => false
        unless isPlain do putBack next
        let following ← token inner false true
        putBack following
        if isEmptyBehind following then return .timed isPlain .nothing
        return .timed isPlain (← pipelineWithin reading inner fuel false true)
      putBack first
      let body ← reading (.command false false)
      pipelineFrom reading inner (← bound) body

def pipeline (reading : Reading) (inner : Inner) (newlines known : Bool) : Read Command := do
  pipelineWithin reading inner (← bound) newlines known

/-- Pipelines that run depending on how the ones before ended. -/
def andOrFrom (reading : Reading) (inner : Inner) : (fuel : Nat) → Command → Read Command
  | 0, first => return first
  | fuel + 1, first => do
      let next ← token inner false false
      if next.isMark "&&" then
        andOrFrom reading inner fuel (.both first (← pipeline reading inner true true))
      else if next.isMark "||" then
        andOrFrom reading inner fuel (.either first (← pipeline reading inner true true))
      else
        putBack next
        return first

def closingMarks : List String :=
  [")", ";;", ";&", ";;&", "do", "done", "elif", "else", "esac", "fi", "then", "\x7d"]

/-- A list of commands ends before this token. -/
def isClosing : Token → Bool
  | .endOfInput => true
  | .operator text => closingMarks.contains text
  | .keyword text => closingMarks.contains text
  | _ => false

/-- One command behind others. -/
def follow : Command → Command → Command
  | .nothing, second => second
  | first, second => .sequence first second

def listFrom (reading : Reading) (inner : Inner) (isLine : Bool) :
    (fuel : Nat) → (mayEnd : Bool) → Command → Read Command
  | 0, _, before => return before
  | fuel + 1, mayEnd, before => do
      let first ← token inner (!isLine) true
      match first with
      | .newline =>
          atLineEnd inner
          return before
      | .endOfInput =>
          atLineEnd inner
          putBack .endOfInput
          return before
      | first =>
          putBack first
          if mayEnd && isClosing first then return before
          let found ← pipeline reading inner false false
          let found ← andOrFrom reading inner (← bound) found
          let next ← token inner false false
          let all := follow before (if next.isMark "&" then .background found else found)
          match next with
          | .endOfInput =>
              atLineEnd inner
              putBack .endOfInput
              return all
          | .newline =>
              putBack .newline
              listFrom reading inner isLine fuel (!isLine) all
          | next =>
              if next.isMark "&" || next.isMark ";" then
                listFrom reading inner isLine fuel (!isLine) all
              else if isLine then refuse next none
              else
                putBack next
                return all

/-- Reads what is asked for, nested at most `fuel` deep. -/
def goal : (fuel : Nat) → Reading
  | 0, _ => stop .tooDeep
  | fuel + 1, wanted => do
      let reading := goal fuel
      let inner := innerOf reading
      match wanted with
      | .line => listFrom reading inner true (← bound) false .nothing
      | .list mayBeEmpty => listFrom reading inner false (← bound) mayBeEmpty .nothing
      | .command newlines known => command reading inner newlines known

/-- The commands of the next line of a script, or nothing if the script is at its end. -/
def nextLine : Read (Option Command) := do
  let body ← goal (2 * (← bound)) .line
  match body, (← get).again with
  | .nothing, some .endOfInput => return none
  | body, _ => return some body

end BlockExtension.Shell.Reader
