import BlockExtension.Shell.Reader.Words

/-!
# Reading tokens

A token is a line end, an operator or a word. Whether a word is a keyword hangs
on where it stands, so whoever asks for a token says whether it may be one, and
whether line ends before it are to be passed over. At a line end the documents
are read that redirections before it have announced.
-/

namespace BlockExtension.Shell.Reader

open Read

/-- Reads commands from somewhere within a script. -/
structure Inner where
  /-- A list of commands up to a parenthesis, which is gone past. -/
  output : Read Command
  whole : Read Command

/-- A stretch of a word, with commands read as `inner` says. -/
def stretchOf (inner : Inner) (enclosure : Enclosure) : Read Word := do
  stretch inner.output inner.whole (← bound) enclosure

/-! ## Documents -/

/--
The lines of a document, each with its line feed, up to the delimiter or to the
end; the flag says that the line before had a line feed.
-/
def documentLines (awaited : Awaited) : (fuel : Nat) → (isFresh : Bool) → Octets → Read Octets
  | 0, _, text => return text
  | fuel + 1, isFresh, text => do
      if (← get).rest.isEmpty then
        modify fun source =>
          let line := if isFresh then source.line - 1 else source.line
          { source with unended := source.unended ++ [(line, awaited)] }
        return text
      let line ← takeWhile (· ≠ '\n')
      let line := if awaited.strips then line.dropWhile (· = '\t') else line
      let isWhole := (← peek).isSome
      skip
      if line = awaited.delimiter then return text
      documentLines awaited fuel isWhole (text ++ line ++ if isWhole then ['\n'] else [])

def readDocuments (inner : Inner) : List Awaited → Read Unit
  | [] => modify fun source => { source with awaited := [] }
  | awaited :: rest => do
      let line := (← get).line
      let text ← documentLines awaited (← bound) (awaited.line < line) []
      let body ←
        if awaited.expands then within text line (stretchOf inner .document)
        else pure [.quoted text]
      modify fun source =>
        { source with documents := source.documents.setIfInBounds awaited.index body }
      readDocuments inner rest

def atLineEnd (inner : Inner) : Read Unit := do
  readDocuments inner (← get).awaited

/-! ## Tokens -/

def redirectOperators (extended : Bool) : List String :=
  (if extended then ["<<<", "&>>", "&>"] else []) ++
    ["<<-", "<<", "<&", "<>", "<", ">>", ">&", ">|", ">"]

def operators (extended : Bool) : List String :=
  (if extended then [";;&", ";&", "|&"] else []) ++
    ["&&", "&", "||", "|", ";;", ";", "(", ")"]

def firstOperator? : List String → Read (Option String)
  | [] => return none
  | operator :: rest => do
      if ← skipText operator.toList then return some operator
      firstOperator? rest

def skipBlanks : (fuel : Nat) → Read Unit
  | 0 => return ()
  | fuel + 1 => do
      let _ ← takeWhile Octets.isBlank
      match ← peekJoined with
      | some '#' =>
          let _ ← takeWhile (· ≠ '\n')
          skipBlanks fuel
      | some c => if Octets.isBlank c then skipBlanks fuel
      | none => return ()

def descriptor? (extended : Bool) : Word → Option Nat
  | [.literal [c]] => if c.isDigit then some (c.toNat - '0'.toNat) else none
  | [.literal text] => if extended then Octets.number? text else none
  | _ => none

/-- A command in parentheses comes next that stands for a file. -/
def startsPassage : Read Bool := do
  match (← get).rest with
  | '<' :: '(' :: _ => return true
  | '>' :: '(' :: _ => return true
  | _ => return false

/-- The name in braces that a word is, if it may stand before an operator of redirection. -/
def heldName? : Word → Option Octets
  | [.literal ('\x7b' :: text)] =>
      let name := text.takeWhile (· ≠ '\x7d')
      if text.drop name.length = ['\x7d'] && Octets.isName name then some name else none
  | _ => none

def textToken (inner : Inner) : Read Token := do
  skipBlanks (← bound)
  modify fun source =>
    let (inUse, passed) := source.inUse.partition fun use => use.left < source.rest.length
    { source with inUse, followsAlias := passed.any (·.goesOn) }
  let extended ← isExtended
  match ← peek with
  | none => return .endOfInput
  | some '\n' =>
      skip
      return .newline
  | some _ =>
      unless extended && (← startsPassage) do
        if let some operator ← firstOperator? (redirectOperators extended) then
          return .redirect none operator
      if let some operator ← firstOperator? (operators extended) then
        return .operator operator
      let word ← stretchOf inner .word
      if let some descriptor := descriptor? extended word then
        let next ← peek
        if next = some '<' || next = some '>' then
          if let some operator ← firstOperator? (redirectOperators false) then
            return .redirect (some (.number descriptor)) operator
      if let some name := if extended then heldName? word else none then
        let next ← peek
        if next = some '<' || next = some '>' then
          if let some operator ← firstOperator? (redirectOperators false) then
            return .redirect (some (.held name)) operator
      return .word word

def keywords (extended : Bool) : List String :=
  ["!", "case", "do", "done", "elif", "else", "esac", "fi", "for", "if", "in", "then", "until",
    "while", "\x7b", "\x7d"] ++
    if extended then ["[[", "function", "select", "time"] else []

def asKeyword (extended : Bool) (token : Token) : Token :=
  match token with
  | .word word =>
      match word.bare? with
      | some text =>
          let text := Octets.toText text
          if (keywords extended).contains text then .keyword text else token
      | none => token
  | token => token

def passNewlines (inner : Inner) : (fuel : Nat) → Token → Read Token
  | 0, token => return token
  | fuel + 1, token => do
      match token with
      | .newline =>
          atLineEnd inner
          passNewlines inner fuel (← textToken inner)
      | token => return token

/-- The other text that a word stands for, unless it is part of that text itself. -/
def aliasOf? (word : Word) : Read (Option (Octets × Octets)) := do
  let source ← get
  return do
    let name ← word.bare?
    let text ← source.aliases.lookup name
    if source.inUse.any (·.name = name) then none else some (name, text)

/--
A token, unless it is a name that stands for another text; then that text is read
in its place. The flags say whether line ends are passed over and keywords known.
-/
def resolved (inner : Inner) (newlines known : Bool) : (fuel : Nat) → Token → Read Token
  | 0, token => return token
  | fuel + 1, token => do
      let extended ← isExtended
      let token := if known then asKeyword extended token else token
      match token with
      | .word word =>
          match ← aliasOf? word with
          | none => return token
          | some (name, text) =>
              modify fun source =>
                { source with
                  rest := text ++ source.rest
                  inUse := ⟨name, source.rest.length, text.getLast?.any Octets.isBlank⟩ ::
                    source.inUse }
              let next ← textToken inner
              let next ← if newlines then passNewlines inner (← bound) next else pure next
              resolved inner newlines known fuel next
      | token => return token

/-- How many names are put in place of one another at most. -/
def aliasLimit : Nat := 1000

/--
The next token; the flags say whether line ends are passed over, keywords known,
and assignments looked for.
-/
def tokenWhere (inner : Inner) (newlines known assigns : Bool) : Read Token := do
  modify fun source => { source with mayAssign := assigns }
  let first ← match (← get).again with
    | some token => do
        modify fun source => { source with again := none }
        pure token
    | none => textToken inner
  let found ← if newlines then passNewlines inner (← bound) first else pure first
  if known then resolved inner newlines true aliasLimit found
  else return found

/-- The next token; the flags say whether line ends are passed over and keywords known. -/
def token (inner : Inner) (newlines known : Bool) : Read Token :=
  tokenWhere inner newlines known known

def putBack (token : Token) : Read Unit :=
  modify fun source => { source with again := some token }

/-- Stops at a token that must not stand where it does. -/
def refuse {α : Type} (token : Token) (expected : Option String) : Read α :=
  stop (.unexpected token expected)

/-- Goes past an operator or a keyword that must come next. -/
def expect (inner : Inner) (newlines known : Bool) (mark : String) : Read Unit := do
  let found ← token inner newlines known
  unless found.isMark mark do refuse found (some s!"\"{mark}\"")

end BlockExtension.Shell.Reader
