import BlockExtension.Shell.Utility.Scanning.Notation
import BlockExtension.Shell.Utility.Scanning.Syntax
import BlockExtension.Shell.Utility.Scanning.Tokens

/-!
# Reading scanner programs

The grammar of programs, over their tokens. Expressions are read by levels, from
the choice between two values down to single values; each level takes operands
of the next one. All recursion is bounded by the number of tokens.
-/

namespace BlockExtension.Shell.Utility.Scanning

/-- What a name is used for. -/
inductive Role where
  | value
  | table
  deriving DecidableEq, Repr

/-- A call of a function of the program. -/
structure CallSite where
  name : Octets
  count : Nat
  line : Nat

/-- How far the reading of a program has come. -/
structure Parsing where
  tokens : List Placed
  writes : Bool
  roles : List (Octets × Role)
  /-- What the parameters are used for of the function that is being read. -/
  localRoles : List (Octets × Role)
  parameters : List Octets
  inFunction : Bool
  forRecords : Bool
  loops : Nat
  calls : List CallSite
  parentheses : Nat
  /-- What is to be said of what is wrong, the last thing first. -/
  problems : List Octets

/-- A step of reading: it takes tokens, or finds them wrong. -/
abbrev Parse := ExceptT Unit (StateM Parsing)

def mostProblems : Nat := 5

namespace Parse

def note (message : Octets) : Parse Unit := do
  modify fun parsing => { parsing with problems := message :: parsing.problems }
  if mostProblems ≤ (← get).problems.length then throw ()

def passStrays : (fuel : Nat) → Parse Unit
  | 0 => return ()
  | fuel + 1 => do
      let parsing ← get
      match parsing.tokens with
      | ⟨.stray message, _⟩ :: rest =>
          set { parsing with tokens := rest }
          note message
          passStrays fuel
      | ⟨.symbol ")", line⟩ :: rest =>
          if parsing.parentheses = 0 then
            set { parsing with tokens := rest }
            note (s!"line {line}: extra ')'".toList)
            passStrays fuel
      | _ => return ()

/-- The next token. -/
def peek : Parse Token := do
  passStrays ((← get).tokens.length + 1)
  return ((← get).tokens.head?.map (·.token)).getD .endOfInput

def line : Parse Nat := do
  let _ ← peek
  return ((← get).tokens.head?.map (·.line)).getD 1

/-- Goes past a token, and counts the parentheses that are open. -/
def skip : Parse Unit := do
  let parentheses := (← get).parentheses
  let parentheses := match ← peek with
    | .symbol "(" => parentheses + 1
    | .symbol ")" => parentheses - 1
    | .symbol "\x7b" => 0
    | _ => parentheses
  modify fun parsing => { parsing with tokens := parsing.tokens.drop 1, parentheses }

def giveUp {α : Type} (messages : List Octets) : Parse α := do
  messages.forM note
  throw ()

/-- Gives up, since something is wrong in the current line. -/
def fail {α : Type} (message : Octets) : Parse α := do
  let line ← line
  giveUp [s!"line {line}: ".toList ++ message]

def endsStatement : Token → Bool
  | .semicolon _ => true
  | .newline => true
  | _ => false

/-- Gives up at a token that must not stand where it does. -/
def refuse {α : Type} : Parse α := do
  match ← peek with
  | .wrong messages => do
      modify fun parsing => { parsing with tokens := [] }
      giveUp messages
  | token =>
      let isOpen := endsStatement token && (← get).parentheses ≠ 0
      let start := if isOpen then "missing ) near " else "syntax error at or near "
      fail (start.toList ++ token.shown)

def sees (symbol : String) : Parse Bool := return (← peek).isSymbol symbol

/-- Goes past a symbol if it comes next, and tells whether it does. -/
def accept (symbol : String) : Parse Bool := do
  if ← sees symbol then
    skip
    return true
  return false

/-- Goes past a symbol that must come next. -/
def expect (symbol : String) : Parse Unit := do
  unless ← accept symbol do refuse

/-- Goes past line ends. -/
def skipNewlines : (fuel : Nat) → Parse Unit
  | 0 => return ()
  | fuel + 1 => do
      if let .newline := ← peek then
        skip
        skipNewlines fuel

/-- More steps than any reading of what is left can take. -/
def bound : Parse Nat := return (← get).tokens.length + 2

/-- Reads something in which a greater-than sign names a file, or does not. -/
def writing {α : Type} (flag : Bool) (inner : Parse α) : Parse α := do
  let before := (← get).writes
  modify fun parsing => { parsing with writes := flag }
  let result ← inner
  modify fun parsing => { parsing with writes := before }
  return result

def placeOf (name : Octets) : Parse Place := do
  match (← get).parameters.idxOf? name with
  | some index => return .parameter index
  | none => return .global name

/-- Notes what a name is used for, which must not change. -/
def useAs (role : Role) (name : Octets) : Parse Place := do
  let place ← placeOf name
  if let .global _ := place then
    match (← get).roles.lookup name with
    | none => modify fun parsing => { parsing with roles := (name, role) :: parsing.roles }
    | some known =>
        if known ≠ role then
          let kind := if known = .table then "array " else "variable "
          fail (("illegal reference to " ++ kind).toList ++ name)
  else
    match (← get).localRoles.lookup name with
    | none =>
        modify fun parsing => { parsing with localRoles := (name, role) :: parsing.localRoles }
    | some known =>
        if known ≠ role then
          let kind := if known = .table then "array " else "variable "
          fail (("illegal reference to local " ++ kind).toList ++ name)
  return place

end Parse

open Parse

/-! ## Expressions -/

/-- How tightly the parts of an expression belong together, from loosely on. -/
inductive Level where
  | choice
  | either
  | both
  | isIn
  | matching
  | compared
  | side
  | joined
  | sum
  | product
  | sign
  | power
  | piped
  | value
  deriving DecidableEq, Repr

/-- The operation that an assigning operator performs; none for the plain one. -/
def assigning? (token : Token) : Option (Option Operation) :=
  match token with
  | .symbol "=" => some none
  | .symbol "+=" => some (some .plus)
  | .symbol "-=" => some (some .minus)
  | .symbol "*=" => some (some .times)
  | .symbol "/=" => some (some .quotient)
  | .symbol "%=" => some (some .remainder)
  | .symbol "^=" => some (some .power)
  | _ => none

/-- Something may be assigned to the expression. -/
def Expr.isTarget : Expr → Bool
  | .name _ => true
  | .element .. => true
  | .field _ => true
  | _ => false

def relation? (writes : Bool) (token : Token) : Option Relation :=
  match token with
  | .symbol "==" => some .equal
  | .symbol "!=" => some .unequal
  | .symbol "<" => some .less
  | .symbol "<=" => some .lessOrEqual
  | .symbol ">" => if writes then none else some .greater
  | .symbol ">=" => some .greaterOrEqual
  | _ => none

def startsValue : Token → Bool
  | .number .. => true
  | .text _ => true
  | .regex _ => true
  | .name _ => true
  | .callee _ => true
  | .builtin _ => true
  | .symbol symbol => ["$", "!", "(", "-", "+", "++", "--"].contains symbol
  | _ => false

def argumentBounds (name : String) : Nat × Nat :=
  match name with
  | "length" => (0, 1)
  | "index" => (2, 2)
  | "substr" => (2, 3)
  | "split" => (2, 3)
  | "sub" => (2, 3)
  | "gsub" => (2, 3)
  | "match" => (2, 2)
  | "atan2" => (2, 2)
  | "rand" => (0, 0)
  | "systime" => (0, 0)
  | "srand" => (0, 1)
  | "fflush" => (0, 1)
  | "strftime" => (0, 3)
  | "mktime" => (1, 2)
  | "sprintf" => (1, 255)
  | _ => (1, 1)

/-- The regular expression of a token. -/
def patternOf (line : Nat) (source : Octets) : Parse Expr := do
  match Notation.regexOf source with
  | .ok regex => return .pattern source regex
  | .error problem =>
      let text := s!"line {line}: regular expression compile failed ({problem.message})\n".toList
      note (text ++ source)
      return .pattern source .empty

/-- An expression in the place of a regular one: a text in it is read as one at once. -/
def asPattern (line : Nat) : Expr → Parse Expr
  | .text source => patternOf line source
  | .group (.text source) => patternOf line source
  | found => return found

/-- Expressions that are joined from the left by operators. -/
def chain (operand : Parse Expr) (combine? : Token → Option (Expr → Expr → Expr)) :
    (fuel : Nat) → Expr → Parse Expr
  | 0, left => return left
  | fuel + 1, left => do
      match combine? (← peek) with
      | none => return left
      | some combine =>
          skip
          chain operand combine? fuel (combine left (← operand))

/-- Expressions with commas between them. -/
def several (item : Parse Expr) : (fuel : Nat) → Parse (List Expr)
  | 0 => return []
  | fuel + 1 => do
      let first ← item
      if ← accept "," then return first :: (← several item fuel)
      return [first]

def callArguments (item : Parse Expr) : Parse (List Expr) := do
  if ← accept ")" then return []
  let found ← writing false (several item (← bound))
  expect ")"
  return found

/-- An argument of a call; a name alone may be that of a table. -/
def callArgument (whole : Parse Expr) : Parse Expr := do
  match (← get).tokens with
  | ⟨.name name, _⟩ :: ⟨.symbol behind, _⟩ :: _ =>
      if behind = "," || behind = ")" then
        skip
        return .name (← placeOf name)
      whole
  | _ => whole

def named (whole : Parse Expr) (name : Octets) : Parse Expr := do
  if ← accept "[" then
    let place ← useAs .table name
    let subscripts ← writing false (several whole (← bound))
    expect "]"
    return .element place subscripts
  return .name (← useAs .value name)

def builtinCall (whole : Parse Expr) (name : String) : Parse Expr := do
  if name = "length" && !(← sees "(") then return .builtin name []
  expect "("
  let arguments ←
    if name = "split" then do
      let text ← writing false whole
      expect ","
      match ← peek with
      | .name table => do
          skip
          let place ← useAs .table table
          let more ← if ← accept "," then do
              let last ← writing false whole
              pure [last]
            else pure []
          expect ")"
          pure (text :: .name place :: more)
      | _ => refuse
    else if name = "length" then do
      if ← accept ")" then pure []
      else
        let one ← writing false (callArgument whole)
        expect ")"
        pure [one]
    else callArguments whole
  let (least, most) := argumentBounds name
  if arguments.length < least || most < arguments.length then
    fail ("wrong number of arguments in call to ".toList ++ name.toList)
  match name, arguments with
  | "match", [text, pattern] => return .builtin name [text, ← asPattern (← line) pattern]
  | "sub", pattern :: rest => return .builtin name ((← asPattern (← line) pattern) :: rest)
  | "gsub", pattern :: rest => return .builtin name ((← asPattern (← line) pattern) :: rest)
  | _, _ => return .builtin name arguments

def value (whole sign file target : Parse Expr) : Parse Expr := do
  match ← peek with
  | .number found _ =>
      skip
      return .number found
  | .text found =>
      skip
      return .text found
  | .regex source =>
      let line ← line
      skip
      patternOf line source
  | .name name =>
      skip
      named whole name
  | .callee name =>
      let line ← line
      skip
      expect "("
      let arguments ← callArguments (callArgument whole)
      modify fun parsing =>
        { parsing with calls := ⟨name, arguments.length, line⟩ :: parsing.calls }
      return .call name arguments
  | .builtin name =>
      skip
      builtinCall whole name
  | .keyword "getline" =>
      skip
      let target ← optionalTarget
      if ← accept "<" then return .input (.file (← file)) target
      return .input .main target
  | .symbol "$" =>
      skip
      match ← peek with
      | .symbol "-" => return .field (← sign)
      | .symbol "+" => return .field (← sign)
      | .symbol "!" => return .field (← sign)
      | .number index shown =>
          if index != towardsZero index then
            fail ('$' :: shown ++ " is invalid field index".toList)
          return .field (← target)
      | _ => return .field (← target)
  | .symbol "(" =>
      skip
      let found ← writing false (several whole (← bound))
      expect ")"
      match found with
      | [one] => return .group one
      | found =>
          unless (← peek).isKeyword "in" do refuse
          skip
          match ← peek with
          | .name table =>
              skip
              return .isIn found (← useAs .table table)
          | _ => refuse
  | _ => refuse
where
  optionalTarget : Parse (Option Expr) := do
    match ← peek with
    | .name _ => return some (← target)
    | .symbol "$" => return some (← target)
    | _ => return none

/-- The operand of a sign or of a step, and what stands before and behind a value. -/
def stepped (target : Parse Expr) : Parse Expr := do
  match ← peek with
  | .symbol "++" => before true
  | .symbol "--" => before false
  | _ =>
      let found ← target
      match ← peek with
      | .symbol "++" => behind true found
      | .symbol "--" => behind false found
      | _ => return found
where
  /-- A step before its target. -/
  before (up : Bool) : Parse Expr := do
    skip
    match ← peek with
    | .number .. => refuse
    | .text _ => refuse
    | _ =>
        let found ← target
        if found.isTarget then return .step up true found
        refuse
  /-- A step behind its target. -/
  behind (up : Bool) (found : Expr) : Parse Expr := do
    if !found.isTarget then return found
    skip
    return .step up false found

/-- Records of commands that are read, behind the first command. -/
def piped (target : Parse Expr) : (fuel : Nat) → Expr → Parse Expr
  | 0, command => return command
  | fuel + 1, command => do
      match (← get).tokens with
      | ⟨.symbol "|", _⟩ :: ⟨.keyword "getline", _⟩ :: _ =>
          skip
          skip
          let into ← match ← peek with
            | .name _ => do pure (some (← target))
            | .symbol "$" => do pure (some (← target))
            | _ => pure none
          piped target fuel (.input (.command command) into)
      | ⟨.symbol "|", _⟩ :: _ =>
          if (← get).writes then return command
          skip
          refuse
      | _ => return command

/-- Values that stand one behind the other, and make up one text. -/
def joinedWith (operand : Parse Expr) : (fuel : Nat) → Expr → Parse Expr
  | 0, left => return left
  | fuel + 1, left => do
      if startsValue (← peek) then joinedWith operand fuel (.joined left (← operand))
      else return left

/-- Tests whether something is in a table, as many as come next. -/
def membership : (fuel : Nat) → Expr → Parse Expr
  | 0, left => return left
  | fuel + 1, left => do
      if !(← peek).isKeyword "in" then return left
      skip
      match ← peek with
      | .name table =>
          skip
          membership fuel (.isIn [left] (← useAs .table table))
      | _ => refuse

/-- The operator is a sign between sums. -/
def sumOf? (token : Token) : Option (Expr → Expr → Expr) :=
  match token with
  | .symbol "+" => some (.binary .plus)
  | .symbol "-" => some (.binary .minus)
  | _ => none

/-- The operator stands between factors. -/
def productOf? (token : Token) : Option (Expr → Expr → Expr) :=
  match token with
  | .symbol "*" => some (.binary .times)
  | .symbol "/" => some (.binary .quotient)
  | .symbol "%" => some (.binary .remainder)
  | _ => none

def matchingOf? (token : Token) : Option (Expr → Expr → Expr) :=
  match token with
  | .symbol "~" => some (.matching true)
  | .symbol "!~" => some (.matching false)
  | _ => none

/-- An expression of a level, with at most `fuel` levels below it. -/
def expression : (fuel : Nat) → Level → Parse Expr
  | 0, _ => refuse
  | fuel + 1, level => do
      let below := expression fuel
      let limit ← bound
      match level with
      | .choice => do
          let condition ← below .either
          if !(← accept "?") then return condition
          skipNewlines limit
          let first ← below .choice
          skipNewlines limit
          expect ":"
          skipNewlines limit
          return .choice condition first (← below .choice)
      | .either => do
          chain (below .both) (fun token => if token.isSymbol "||" then some .either else none)
            limit (← below .both)
      | .both => do
          chain (below .isIn) (fun token => if token.isSymbol "&&" then some .both else none)
            limit (← below .isIn)
      | .isIn => do membership limit (← below .matching)
      | .matching => do
          chain (do asPattern (← line) (← below .compared)) matchingOf? limit (← below .compared)
      | .compared => do
          let writes := (← get).writes
          chain (below .side)
            (fun token => (relation? writes token).map fun relation => .compared relation)
            limit (← below .side)
      | .side => do
          let found ← below .joined
          match assigning? (← peek) with
          | none => return found
          | some operation =>
              unless found.isTarget do refuse
              skip
              return .assign operation found (← below .choice)
      | .joined => do joinedWith (below .sum) limit (← below .sum)
      | .sum => do chain (below .product) sumOf? limit (← below .product)
      | .product => do chain (below .sign) productOf? limit (← below .sign)
      | .sign => do
          match ← peek with
          | .symbol "!" => do
              skip
              return .negation (← below .sign)
          | .symbol "-" => do
              skip
              return .sign true (← below .sign)
          | .symbol "+" => do
              skip
              return .sign false (← below .sign)
          | _ => below .piped
      | .piped => do piped (below .value) limit (← below .power)
      | .power => do
          let base ← stepped (below .value)
          if !(← accept "^") then return base
          return .binary .power base (← below .sign)
      | .value => value (below .choice) (below .sign) (below .power) (below .value)

def expressionBound : Parse Nat := return 16 * (← bound)

def wholeExpression : Parse Expr := do expression (← expressionBound) .choice

/-! ## Statements -/

def endsWriting : Token → Bool
  | .semicolon _ => true
  | .newline => true
  | .endOfInput => true
  | .symbol symbol => [">", ">>", "|", "\x7d"].contains symbol
  | _ => false

def behindParentheses : (depth : Nat) → List Placed → Option Token
  | _, [] => none
  | depth, placed :: rest =>
      match placed.token with
      | .symbol "(" => behindParentheses (depth + 1) rest
      | .symbol ")" =>
          if depth ≤ 1 then rest.head?.map (·.token) else behindParentheses (depth - 1) rest
      | _ => behindParentheses depth rest

def writtenValues : Parse (List Expr) := do
  if endsWriting (← peek) then return []
  let isWrapped := (← sees "(") &&
    (behindParentheses 0 (← get).tokens).any endsWriting
  if isWrapped then
    skip
    let found ← writing false (several wholeExpression (← bound))
    expect ")"
    return found
  writing true (several wholeExpression (← bound))

/-- Where a statement writes to. -/
def target : Parse Target := do
  match ← peek with
  | .symbol ">" => do
      skip
      return .file false (← writing false wholeExpression)
  | .symbol ">>" => do
      skip
      return .file true (← writing false wholeExpression)
  | .symbol "|" => do
      skip
      return .command (← writing false wholeExpression)
  | _ => return .output

def endStatement : Parse Unit := do
  match ← peek with
  | .semicolon _ => skip
  | .newline => skip
  | _ => refuse

def inLoop {α : Type} (inner : Parse α) : Parse α := do
  modify fun parsing => { parsing with loops := parsing.loops + 1 }
  let result ← inner
  modify fun parsing => { parsing with loops := parsing.loops - 1 }
  return result

def conditionInParentheses : Parse Expr := do
  expect "("
  let found ← writing false wholeExpression
  expect ")"
  return found

/-- A statement that is an expression, a deletion, or writes something; its end is left. -/
def simpleStatement : Parse Statement := do
  match ← peek with
  | .keyword "print" => do
      skip
      let values ← writtenValues
      return .print values (← target)
  | .keyword "printf" => do
      skip
      let values ← writtenValues
      if values.isEmpty then fail "no arguments in call to printf".toList
      return .format values (← target)
  | .keyword "delete" => do
      skip
      match ← peek with
      | .name table => do
          skip
          let place ← useAs .table table
          if ← accept "[" then
            let subscripts ← writing false (several wholeExpression (← bound))
            expect "]"
            return .delete place (some subscripts)
          return .delete place none
      | _ => refuse
  | _ => return .expression (← wholeExpression)

def forLoop (body : Parse Statement) : Parse Statement := do
  expect "("
  let each? := match (← get).tokens with
    | ⟨.name name, _⟩ :: ⟨.keyword "in", _⟩ :: ⟨.name table, _⟩ :: ⟨.symbol ")", _⟩ :: _ =>
        some (name, table)
    | _ => none
  let run : Parse Statement := do
    skipNewlines (← bound)
    inLoop body
  match each? with
  | some (name, table) => do
      let item ← useAs .value name
      let place ← useAs .table table
      modify fun parsing => { parsing with tokens := parsing.tokens.drop 4 }
      return .each (.name item) place (← run)
  | none => do
      let part (closes : Token → Bool) : Parse Statement := do
        if closes (← peek) then return .nothing
        writing false simpleStatement
      let isEnd (token : Token) : Bool := match token with
        | .semicolon _ => true
        | _ => false
      let start ← part isEnd
      unless isEnd (← peek) do refuse
      skip
      let condition ← if isEnd (← peek) then pure none
        else do pure (some (← writing false wholeExpression))
      unless isEnd (← peek) do refuse
      skip
      let step ← part (·.isSymbol ")")
      expect ")"
      return .sequence start (.loop condition (← run) step)

def skipStatement : (fuel : Nat) → Parse Unit
  | 0 => throw ()
  | fuel + 1 => do
      match ← peek with
      | .semicolon _ => skip
      | .newline => skip
      | .endOfInput => throw ()
      | .wrong messages => giveUp messages
      | _ =>
          skip
          skipStatement fuel

/-- Reads a statement; if something is wrong in it, goes on behind it. -/
def recovering (one : Parse Statement) : Parse Statement := do
  try one
  catch _ =>
    if mostProblems ≤ (← get).problems.length then throw ()
    skipStatement (← bound)
    modify fun parsing => { parsing with parentheses := 0 }
    return .nothing

def statementsWith (one : Parse Statement) : (fuel : Nat) → Parse Statement
  | 0 => refuse
  | fuel + 1 => do
      if ← accept "\x7d" then return .nothing
      let first ← recovering one
      return .sequence first (← statementsWith one fuel)

/-- A statement, with statements nested at most `fuel` deep in it. -/
def statement : (fuel : Nat) → Parse Statement
  | 0 => refuse
  | fuel + 1 => do
      let inner := statement fuel
      let ended (found : Statement) : Parse Statement := do
        endStatement
        return found
      let value? : Parse (Option Expr) := do
        match ← peek with
        | .semicolon _ => return none
        | .newline => return none
        | _ => return some (← wholeExpression)
      match ← peek with
      | .symbol "\x7b" => do
          skip
          statementsWith inner (← bound)
      | .semicolon _ => ended .nothing
      | .newline => ended .nothing
      | .keyword "if" => do
          skip
          let condition ← conditionInParentheses
          skipNewlines (← bound)
          let consequence ← inner
          if !(← peek).isKeyword "else" then return .branch condition consequence .nothing
          skip
          return .branch condition consequence (← inner)
      | .keyword "while" => do
          skip
          let condition ← conditionInParentheses
          skipNewlines (← bound)
          return .loop (some condition) (← inLoop inner) .nothing
      | .keyword "do" => do
          skip
          let body ← inLoop inner
          skipNewlines (← bound)
          unless (← peek).isKeyword "while" do refuse
          skip
          ended (.again body (← conditionInParentheses))
      | .keyword "for" => do
          skip
          forLoop inner
      | .keyword "break" => do
          if (← get).loops = 0 then fail "break statement outside of loop".toList
          skip
          ended .leave
      | .keyword "continue" => do
          if (← get).loops = 0 then fail "continue statement outside of loop".toList
          skip
          ended .resume
      | .keyword "next" => do
          unless (← get).forRecords do fail "improper use of next".toList
          skip
          ended .nextRecord
      | .keyword "nextfile" => do
          unless (← get).forRecords do fail "improper use of nextfile".toList
          skip
          ended .nextFile
      | .keyword "exit" => do
          skip
          ended (.exit (← value?))
      | .keyword "return" => do
          unless (← get).inFunction do fail "return outside function body".toList
          skip
          ended (.back (← value?))
      | _ => ended (← simpleStatement)

/-- Statements in braces. -/
def block : Parse Statement := do
  unless ← sees "\x7b" do refuse
  skip
  statementsWith (statement (← bound)) (← bound)

/-! ## Programs -/

def parameterNames : (fuel : Nat) → Parse (List Octets)
  | 0 => refuse
  | fuel + 1 => do
      match ← peek with
      | .name name => do
          skip
          if ← accept "," then
            let more ← parameterNames fuel
            if more.contains name then
              fail (name ++ " is duplicated in argument list".toList)
            return name :: more
          expect ")"
          return [name]
      | .callee _ => fail "function parameter cannot be the function".toList
      | _ => refuse

def functionDefinition : Parse (Octets × Function) := do
  match ← peek with
  | .callee name => do
      skip
      expect "("
      let parameters ← if ← accept ")" then pure [] else parameterNames (← bound)
      if parameters.contains name then
        fail "function parameter cannot be the function".toList
      skipNewlines (← bound)
      modify fun parsing =>
        { parsing with parameters, localRoles := [], inFunction := true, forRecords := true }
      let body ← block
      modify fun parsing => { parsing with parameters := [], inFunction := false }
      return (name, ⟨parameters.length, body⟩)
  | _ => refuse

def writeRecord : Statement := .print [] .output

def rule : Parse Rule := do
  let action (forRecords : Bool) : Parse Statement := do
    modify fun parsing => { parsing with forRecords }
    block
  match ← peek with
  | .keyword "BEGIN" => do
      skip
      return ⟨.start, ← action false⟩
  | .keyword "END" => do
      skip
      return ⟨.finish, ← action false⟩
  | .symbol "\x7b" => return ⟨.always, ← action true⟩
  | _ => do
      let first ← wholeExpression
      let pattern ← if ← accept "," then do
          let last ← wholeExpression
          pure (Pattern.range first last)
        else pure (Pattern.condition first)
      if ← sees "\x7b" then return ⟨pattern, ← action true⟩
      endStatement
      return ⟨pattern, writeRecord⟩

/-- Rules and functions up to the end of the program. -/
def script : (fuel : Nat) → Script → Parse Script
  | 0, found => return found
  | fuel + 1, found => do
      match ← peek with
      | .endOfInput => return found
      | .semicolon false => do
          skip
          script fuel found
      | .newline => do
          skip
          script fuel found
      | .keyword "function" => do
          skip
          let line ← line
          let (name, definition) ← functionDefinition
          if (found.functions.lookup name).isSome then
            giveUp [s!"line {line}: redefinition of ".toList ++ name]
          script fuel { found with functions := found.functions ++ [(name, definition)] }
      | _ => do
          let rule ← rule
          script fuel { found with rules := found.rules ++ [rule] }

def callProblem? (functions : List (Octets × Function)) (last : Nat) :
    List CallSite → Option Octets
  | [] => none
  | call :: rest =>
      match functions.lookup call.name with
      | none => some (s!"line {last}: function ".toList ++ call.name ++ " never defined".toList)
      | some function =>
          if function.parameters < call.count then
            some (s!"line {call.line}: too many arguments in call to ".toList ++ call.name)
          else callProblem? functions last rest

/-- Reads all rules and functions. -/
def wholeScript (last : Nat) : Parse Script := do
  let script ← script ((← get).tokens.length + 1) ⟨[], []⟩
  if (← get).problems.isEmpty then
    if let some message := callProblem? script.functions last (← get).calls.reverse then
      note message
  return script

/-- The program that a text writes, or what is to be said of what is wrong with it. -/
def scriptOf (text : Octets) : Except (List Octets) Script :=
  let start : Parsing := ⟨tokens text, false, [], [], [], false, false, 0, [], 0, []⟩
  match (wholeScript (text.count '\n' + 2)).run start with
  | (.ok script, parsing) =>
      if parsing.problems.isEmpty then .ok script else .error parsing.problems.reverse
  | (.error (), parsing) => .error parsing.problems.reverse

end BlockExtension.Shell.Utility.Scanning
