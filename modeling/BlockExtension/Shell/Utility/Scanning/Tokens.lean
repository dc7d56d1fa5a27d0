import BlockExtension.Shell.Utility.Scanning.Cells

/-!
# Tokens of scanner programs

A program is cut into tokens from its start to its end. A slash starts a regular
expression unless a value stands before it. Line ends are tokens only where a
statement may end, and an action that is closed without the end of its last
statement gets one.
-/

namespace BlockExtension.Shell.Utility.Scanning

open BlockExtension.Shell.Reader (digit? digits)

/-- A piece of a program. -/
inductive Token where
  | number (value : Float) (shown : Octets)
  | text (octets : Octets)
  | regex (source : Octets)
  | name (name : Octets)
  /-- A name with a parenthesis right behind it, or the name of a function. -/
  | callee (name : Octets)
  | builtin (name : String)
  | keyword (name : String)
  | symbol (text : String)
  /-- The end of a statement; one that is not written stands before a brace. -/
  | semicolon (written : Bool)
  | newline
  | endOfInput
  /-- Something that does not belong there and is passed over, and what is to be said of it. -/
  | stray (message : Octets)
  /-- Something that reading ends with, and what is to be said of it. -/
  | wrong (messages : List Octets)

namespace Token

/-- What a token is called in a complaint. -/
def shown : Token → Octets
  | .number _ shown => shown
  | .text octets => octets
  | .regex source => '/' :: source ++ ['/']
  | .name found => found
  | .callee found => found
  | .builtin found => found.toList
  | .keyword found => found.toList
  | .symbol found => found.toList
  | .semicolon written => if written then [';'] else ['\x7d']
  | .newline => "end of line".toList
  | .endOfInput => "end of file".toList
  | .stray message => message
  | .wrong messages => messages.flatten

def isSymbol (token : Token) (text : String) : Bool :=
  match token with
  | .symbol found => found = text
  | _ => false

def isKeyword (token : Token) (name : String) : Bool :=
  match token with
  | .keyword found => found = name
  | _ => false

def endsValue : Token → Bool
  | .number .. => true
  | .text _ => true
  | .regex _ => true
  | .name _ => true
  | .builtin found => found = "length"
  | .keyword found => found = "getline"
  | .symbol found => [")", "]", "$", "++", "--"].contains found
  | _ => false

def endsStatement : Token → Bool
  | .newline => true
  | .semicolon _ => true
  | .symbol found => found = "\x7d"
  | _ => false

end Token

/-- A token with the line that it stands in. -/
structure Placed where
  token : Token
  line : Nat

/-- The words with a meaning of their own. -/
def keywords : List String :=
  ["BEGIN", "END", "function", "if", "else", "while", "do", "for", "in", "break", "continue",
    "next", "nextfile", "exit", "return", "delete", "getline", "print", "printf"]

/-- The functions that every program has. -/
def builtins : List String :=
  ["length", "index", "substr", "split", "sub", "gsub", "match", "sprintf", "sin", "cos", "atan2",
    "exp", "log", "int", "sqrt", "rand", "srand", "tolower", "toupper", "system", "close",
    "fflush", "systime", "mktime", "strftime"]

def operators : List String :=
  ["+=", "-=", "*=", "/=", "%=", "^=", "++", "--", "&&", "||", "==", "!=", "<=", ">=", "!~", ">>",
    "+", "-", "*", "/", "%", "^", "!", "=", "<", ">", "~", "?", ":", ",", "$", "|", "(", ")",
    "[", "]", "\x7b", "\x7d"]

/-! ## Texts in a program -/

/-- A text in which backslashes introduce characters. -/
def unescaped : (fuel : Nat) → Octets → Octets
  | 0, _ => []
  | _, [] => []
  | fuel + 1, '\\' :: c :: rest =>
      if (digit? 8 c).isSome then
        let (value, rest) := digits 8 3 0 (c :: rest)
        Char.ofNat (value % 256) :: unescaped fuel rest
      else if c = 'x' && (rest.head?.bind (digit? 16)).isSome then
        let (value, rest) := digits 16 2 0 rest
        Char.ofNat value :: unescaped fuel rest
      else
        match c with
        | '\\' => '\\' :: unescaped fuel rest
        | '"' => '"' :: unescaped fuel rest
        | 'n' => '\n' :: unescaped fuel rest
        | 't' => '\t' :: unescaped fuel rest
        | 'f' => '\x0c' :: unescaped fuel rest
        | 'b' => '\x08' :: unescaped fuel rest
        | 'r' => '\r' :: unescaped fuel rest
        | 'a' => '\x07' :: unescaped fuel rest
        | 'v' => '\x0b' :: unescaped fuel rest
        | '\n' => unescaped fuel rest
        | c => '\\' :: c :: unescaped fuel rest
  | fuel + 1, c :: rest => c :: unescaped fuel rest

def meant (text : Octets) : Octets := unescaped (text.length + 1) text

/-- What stands before a quotation mark, and what behind it; nothing if there is none. -/
def quotation? : (before : Octets) → Octets → Option (Octets × Octets)
  | _, [] => none
  | before, '"' :: rest => some (before.reverse, rest)
  | _, ['\\'] => none
  | before, '\\' :: c :: rest => quotation? (c :: '\\' :: before) rest
  | before, c :: rest => if c = '\n' then none else quotation? (c :: before) rest

/-- What stands before a slash that is not in a set, and what behind it. -/
def expression? : (inSet : Bool) → (before : Octets) → Octets → Option (Octets × Octets)
  | _, _, [] => none
  | _, _, ['\\'] => none
  | inSet, before, '\\' :: c :: rest =>
      expression? inSet (if c = '/' then c :: before else c :: '\\' :: before) rest
  | false, before, '[' :: '^' :: ']' :: rest =>
      expression? true (']' :: '^' :: '[' :: before) rest
  | false, before, '[' :: ']' :: rest => expression? true (']' :: '[' :: before) rest
  | inSet, before, c :: rest =>
      if c = '/' && !inSet then some (before.reverse, rest)
      else if c = '\n' then none
      else expression? ((inSet || c = '[') && c ≠ ']') (c :: before) rest

/-! ## Reading tokens -/

/-- How far the reading of tokens has come. -/
structure Lexing where
  rest : Octets
  line : Nat
  braces : Nat
  last : Token
  functions : List Octets

def skipBlanks : (fuel : Nat) → Octets → Nat → Octets × Nat
  | 0, text, line => (text, line)
  | fuel + 1, text, line =>
      match text with
      | '\\' :: '\n' :: rest => skipBlanks fuel rest (line + 1)
      | '#' :: rest => skipBlanks fuel (rest.dropWhile (· ≠ '\n')) line
      | c :: rest =>
          if c ≠ '\n' && (c = ' ' || Octets.isSpace c) then skipBlanks fuel rest line
          else (text, line)
      | [] => ([], line)

def skipLines : (fuel : Nat) → Octets → Nat → Octets × Nat
  | 0, text, line => (text, line)
  | fuel + 1, text, line =>
      match skipBlanks (text.length + 1) text line with
      | ('\n' :: rest, line) => skipLines fuel rest (line + 1)
      | found => found

namespace Lexing

/-- Goes on behind a token, and passes over line ends if none counts there. -/
def after (lexing : Lexing) (token : Token) (rest : Octets) (passes : Bool) : Placed × Lexing :=
  let (rest, line) := if passes then skipLines (rest.length + 1) rest lexing.line
    else (rest, lexing.line)
  (⟨token, lexing.line⟩, { lexing with rest, line, last := token })

/-- A token that is none, and with which reading ends. -/
def failWith (lexing : Lexing) (label : String) (messages : List Octets) : Placed × Lexing :=
  let start := s!"{label}{lexing.line}: ".toList
  (⟨.wrong (messages.map (start ++ ·)), lexing.line⟩,
    { lexing with rest := [], last := .wrong [] })

def stray (lexing : Lexing) (message rest : Octets) : Placed × Lexing :=
  (⟨.stray message, lexing.line⟩, { lexing with rest })

/-- A token that is none, with one thing to be said of it. -/
def fail (lexing : Lexing) (label : String) (message : Octets) : Placed × Lexing :=
  lexing.failWith label [message]

/-- The end of a statement that is not written. -/
def addEnd (lexing : Lexing) : Placed × Lexing :=
  (⟨.semicolon false, lexing.line⟩, { lexing with last := .semicolon false })

/-- What is said of a character that starts no token. -/
def unexpected (lexing : Lexing) (text : Octets) : Octets :=
  Octets.ofNat lexing.line ++ ": unexpected character '".toList ++ text.take 1 ++ ['\'']

def number (lexing : Lexing) (text : Octets) : Placed × Lexing :=
  match decimal? text with
  | none => lexing.stray (lexing.unexpected text) (text.drop 2)
  | some (value, rest) =>
      let shown := text.take (text.length - rest.length)
      if value.isInf then lexing.fail "line " (shown ++ " : decimal overflow".toList)
      else lexing.after (.number value shown) rest false

/-- A name, which may be a keyword or the name of a function. -/
def word (lexing : Lexing) (text : Octets) : Placed × Lexing :=
  let name := text.takeWhile Octets.isNamePart
  let rest := text.drop name.length
  let word := String.ofList name
  if keywords.contains word then
    lexing.after (.keyword word) rest (word = "else" || word = "do")
  else if builtins.contains word then lexing.after (.builtin word) rest false
  else if rest.head? = some '(' || lexing.functions.contains name ||
      lexing.last.isKeyword "function" then
    { lexing with functions := name :: lexing.functions }.after (.callee name) rest false
  else lexing.after (.name name) rest false

def operator (lexing : Lexing) (text : Octets) : Placed × Lexing :=
  match operators.find? fun operator => (Octets.behind? operator.toList text).isSome with
  | none => (⟨.wrong [lexing.unexpected text], lexing.line⟩, { lexing with rest := [] })
  | some operator =>
      let rest := text.drop operator.length
      let token := Token.symbol operator
      match operator with
      | "\x7b" => { lexing with braces := lexing.braces + 1 }.after token rest true
      | "\x7d" =>
          if lexing.braces = 0 then
            lexing.failWith "line "
              ["extra '\x7d'".toList, "syntax error at or near end of line".toList]
          else if !lexing.last.endsStatement then lexing.addEnd
          else
            let braces := lexing.braces - 1
            let (behind, _) := skipBlanks (rest.length + 1) rest lexing.line
            let rest := match braces, behind with
              | 0, ';' :: behind => behind
              | _, _ => rest
            { lexing with braces }.after token rest true
      | operator => lexing.after token rest (["&&", "||", ","].contains operator)

def next (lexing : Lexing) : Placed × Lexing :=
  let (text, line) := skipBlanks (lexing.rest.length + 1) lexing.rest lexing.line
  let lexing := { lexing with line }
  match text with
  | [] =>
      let lexing := { lexing with line := line + 1, rest := [] }
      if lexing.braces ≠ 0 then lexing.fail "line " "missing \x7d near end of file".toList
      else if lexing.last.endsStatement || lexing.last.isSymbol "," ||
          lexing.last.isSymbol "&&" || lexing.last.isSymbol "||" then
        (⟨.endOfInput, line + 1⟩, { lexing with last := .endOfInput })
      else (⟨.newline, line⟩, { lexing with last := .newline })
  | '\n' :: _ => lexing.after .newline text true
  | ';' :: rest => lexing.after (.semicolon true) rest true
  | '"' :: rest =>
      match quotation? [] rest with
      | some (text, behind) =>
          { lexing with line := line + text.count '\n' }.after (.text (meant text)) behind false
      | none =>
          lexing.fail "line " ("runaway string constant \"".toList ++
            (rest.takeWhile (· ≠ '\n')).take 10 ++ " ...".toList)
  | '/' :: rest =>
      if lexing.last.endsValue then lexing.operator text
      else
        match expression? false [] rest with
        | some (source, behind) => lexing.after (.regex source) behind false
        | none =>
            lexing.fail "line " ("runaway regular expression /".toList ++
              (rest.takeWhile (· ≠ '\n')).take 10 ++ " ...".toList)
  | c :: _ =>
      if c.isDigit || c = '.' then lexing.number text
      else if Octets.isNameStart c then lexing.word text
      else lexing.operator text

end Lexing

def tokensFrom : (fuel : Nat) → Lexing → List Placed
  | 0, _ => []
  | fuel + 1, lexing =>
      let (placed, lexing) := lexing.next
      match placed.token with
      | .endOfInput => [placed]
      | .wrong _ => [placed]
      | _ => placed :: tokensFrom fuel lexing

def tokens (text : Octets) : List Placed :=
  let (rest, line) := skipLines (text.length + 1) text 1
  tokensFrom (2 * text.length + 4) ⟨rest, line, 0, .newline, []⟩

end BlockExtension.Shell.Utility.Scanning
