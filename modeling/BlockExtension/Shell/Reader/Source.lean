import BlockExtension.Shell.Command

/-!
# The text of a script while it is read

A script is read from its start, one command at a time, and what follows a
command is looked at only when that command has been run. So reading has a
state: what is left, the line that it is in, a token that was looked at too
early, and the documents whose text is still to come.
-/

namespace BlockExtension.Shell

/-- What is written before an operator of redirection: a number, or a name in braces. -/
inductive Fore where
  | number (descriptor : Nat)
  | held (name : Octets)
  deriving DecidableEq, Repr

/-- A piece of a script. -/
inductive Token where
  | endOfInput
  | newline
  | operator (text : String)
  | keyword (text : String)
  | redirect (descriptor : Option Fore) (operator : String)
  | word (word : Word)

namespace Token

/-- What a token is called in a complaint. -/
def name : Token → String
  | .endOfInput => "end of file"
  | .newline => "newline"
  | .operator text => s!"\"{text}\""
  | .keyword text => s!"\"{text}\""
  | .redirect .. => "redirection"
  | .word _ => "word"

def text : Token → String
  | .endOfInput => ""
  | .newline => "newline"
  | .operator text => text
  | .keyword text => text
  | .redirect _ symbol => symbol
  | .word parts => Octets.toText parts.unquoted.1

/-- The token is an operator or a keyword with this text. -/
def isMark (token : Token) (mark : String) : Bool :=
  match token with
  | .operator text => text = mark
  | .keyword text => text = mark
  | _ => false

end Token

/-- Why a script cannot be read on. -/
inductive Problem where
  /-- A token stands where it must not, perhaps in place of another one. -/
  | unexpected (found : Token) (expected : Option String)
  | unterminatedQuotation (mark : Char)
  | unclosedOutput
  | unclosedBrace
  | unclosedArithmetic
  | unclosedBackquote
  | unclosedGroup
  | badLoopVariable
  | badFunctionName
  | tooDeep

/-- A problem, and the line that it is in. -/
structure SyntaxError where
  line : Nat
  problem : Problem

/-- The problem in words. -/
def Problem.message : Problem → String
  | .unexpected found none => s!"{found.name} unexpected"
  | .unexpected found (some expected) => s!"{found.name} unexpected (expecting {expected})"
  | .unterminatedQuotation _ => "Unterminated quoted string"
  | .unclosedOutput => "end of file unexpected (expecting \")\")"
  | .unclosedBrace => "Missing '\x7d'"
  | .unclosedArithmetic => "Missing '))'"
  | .unclosedBackquote => "EOF in backquote substitution"
  | .unclosedGroup => "end of file unexpected (expecting \")\")"
  | .badLoopVariable => "Bad for loop variable"
  | .badFunctionName => "Bad function name"
  | .tooDeep => "Too many levels"

/-- A document that a redirection has announced and that is yet to be read. -/
structure Awaited where
  index : Nat
  delimiter : Octets
  /-- Parameters and commands in the text are put in place of themselves. -/
  expands : Bool
  /-- The tabs at the start of a line are no part of it. -/
  strips : Bool
  line : Nat

/-- A name whose other text is being read in its place. -/
structure AliasUse where
  name : Octets
  left : Nat
  /-- The word behind the other text may be such a name, too. -/
  goesOn : Bool

/-- A script while it is read. -/
structure Source where
  dialect : Dialect
  rest : Octets
  line : Nat
  /-- The token that is to be read once more. -/
  again : Option Token
  awaited : List Awaited
  /-- All documents so far; a redirection knows its own by its place. -/
  documents : Array Word
  /-- The names that stand for other texts at the start of a command. -/
  aliases : List (Octets × Octets)
  /-- Those of them whose other texts are being read. -/
  inUse : List AliasUse
  /-- The token that was read last may be such a name wherever it stands. -/
  followsAlias : Bool
  groups : Bool
  mayAssign : Bool
  inList : Bool
  /-- The documents that ended with the script, and the lines that it ended in. -/
  unended : List (Nat × Awaited)

abbrev Read := StateT Source (Except SyntaxError)

namespace Read

def stop {α : Type} (problem : Problem) : Read α := do
  throw ⟨(← get).line, problem⟩

def isExtended : Read Bool := return (← get).dialect = .extended

def stopFrom {α : Type} (start : Nat) (problem : Problem) : Read α := do
  let extended ← isExtended
  let line := (← get).line
  throw ⟨if extended then start else line, problem⟩

/-- Reads something; a problem of its own is one of the line where it starts, with extensions. -/
def fromStart {α : Type} (start : Nat) (own : Option Problem) (read : Read α) : Read α :=
  fun source =>
    match read source with
    | .ok result => .ok result
    | .error error =>
        let isOwn := own.any fun own => own.message = error.problem.message
        if source.dialect = .extended && isOwn then .error { error with line := start }
        else .error error

def peek : Read (Option Char) := return (← get).rest.head?

/-- Goes past one character, counting lines. -/
def skip : Read Unit := modify fun source =>
  match source.rest with
  | [] => source
  | '\n' :: rest => { source with rest, line := source.line + 1 }
  | _ :: rest => { source with rest }

def joinLines : Octets → Nat → Octets × Nat
  | '\\' :: '\n' :: rest, count => joinLines rest (count + 1)
  | text, count => (text, count)

/-- The next character behind line ends that a backslash takes back. -/
def peekJoined : Read (Option Char) := do
  modify fun source =>
    let (rest, count) := joinLines source.rest 0
    { source with rest, line := source.line + count }
  peek

/-- Goes past the characters of a kind, up to the first that is not of it. -/
def takeWhile (kind : Char → Bool) : Read Octets := do
  let source ← get
  let (taken, rest) := source.rest.span kind
  set { source with rest, line := source.line + taken.count '\n' }
  return taken

def skipText (text : Octets) : Read Bool := do
  let source ← get
  match Octets.behind? text source.rest with
  | some rest =>
      set { source with rest }
      return true
  | none => return false

/-- More steps than any loop over what is left can take. -/
def bound : Read Nat := return (← get).rest.length + 3

/-- Reads another text in between; lines are counted from the given one on. -/
def within {α : Type} (text : Octets) (line : Nat) (inner : Read α) : Read α := do
  let outer ← get
  set { outer with rest := text, line, again := none, awaited := [], inUse := [] }
  let result ← inner
  modify fun source =>
    { outer with documents := source.documents, unended := source.unended }
  return result

end Read

end BlockExtension.Shell
