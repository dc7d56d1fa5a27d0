import BlockExtension.Shell.Machine

/-!
# Arithmetic

Expressions over whole numbers of 64 bits, with variables that may be read and
assigned. An expression is cut into tokens, read into a tree by the precedence
of its operators, and evaluated; a division by zero, or a variable that holds no
number, ends the script. A shell with extensions also says at which token it
found something wrong.
-/

namespace BlockExtension.Shell.Arithmetic

/-- A token of an expression. -/
inductive Token where
  | number (n : Int64)
  | name (text : Octets)
  | mark (text : String)
  /-- What stands in brackets behind a name. -/
  | index (text : Octets)
  /-- A number with a digit that its base does not have. -/
  | misfit
  deriving DecidableEq

/-- An expression. -/
inductive Expression where
  | number (n : Int64)
  | named (name : Octets) (subscript : Option Octets)
  | unary (mark : String) (operand : Expression)
  /-- So many tokens are left behind the operator. -/
  | binary (mark : String) (left right : Expression) (behind : Nat)
  | choice (condition left right : Expression)
  | assign (name : Octets) (subscript : Option Octets) (mark : Option String)
      (operand : Expression)
  /-- Adds to a variable; the value is the one before or after that. -/
  | count (name : Octets) (subscript : Option Octets) (step : Int64) (before : Bool)

instance : Inhabited Expression := ⟨.number 0⟩

/-! ## Tokens -/

def greatest : Nat := 9223372036854775807

def bounded (n : Nat) : Int64 := Int64.ofNat (min n greatest)

/-- The number at the start of a text, in the base that its first digits say. -/
def numeral (text : Octets) : Int64 × Octets :=
  let inBase (base : Nat) (text : Octets) : Nat × Octets :=
    let found := text.takeWhile fun c => (Reader.digit? base c).isSome
    (found.foldl (fun total c => total * base + (Reader.digit? base c).getD 0) 0,
      text.drop found.length)
  let (value, rest) :=
    match text with
    | '0' :: x :: rest =>
        if (x = 'x' || x = 'X') && (rest.head?.bind (Reader.digit? 16)).isSome then
          inBase 16 rest
        else inBase 8 text
    | '0' :: rest => (0, rest)
    | text => inBase 10 text
  (bounded value, rest)

def marks (extended : Bool) : List String :=
  (if extended then ["**", "++", "--", ","] else []) ++
    ["<<=", ">>=", "&&", "||", "==", "!=", "<=", ">=", "<<", ">>", "+=", "-=", "*=", "/=",
      "%=", "&=", "^=", "|=", "=", "+", "-", "*", "/", "%", "<", ">", "&", "^", "|", "!", "~",
      "?", ":", "(", ")", "[", "]"]

def digitValue (base : Nat) (c : Char) : Nat :=
  if c.isDigit then c.toNat - '0'.toNat
  else if c.isLower then c.toNat - 'a'.toNat + 10
  else if c.isUpper then c.toNat - 'A'.toNat + (if base ≤ 36 then 10 else 36)
  else if c = '@' then 62
  else 63

def basedNumeral (text : Octets) : Token × Octets :=
  let isPart (c : Char) : Bool := c.isAlphanum || c = '_' || c = '@' || c = '#'
  let written := text.takeWhile isPart
  let rest := text.drop written.length
  let inBase (base : Nat) (digits : Octets) : Token :=
    if digits.all fun c => c ≠ '#' && digitValue base c < base then
      .number (Int64.ofNat (digits.foldl (fun total c => total * base + digitValue base c) 0))
    else .misfit
  let token :=
    match written.span (· ≠ '#') with
    | (base, '#' :: digits) =>
        match Octets.number? base with
        | some base => if 2 ≤ base && base ≤ 64 then inBase base digits else .misfit
        | none => .misfit
    | _ =>
        match written with
        | '0' :: x :: digits =>
            if x = 'x' || x = 'X' then inBase 16 digits else inBase 8 (x :: digits)
        | written => inBase 10 written
  (token, rest)

/-- What stands up to the bracket that closes one that has been opened, and the text behind it. -/
def bracketed? : (depth : Nat) → Octets → Option (Octets × Octets)
  | _, [] => none
  | 0, ']' :: rest => some ([], rest)
  | depth + 1, ']' :: rest => (bracketed? depth rest).map fun (text, rest) => (']' :: text, rest)
  | depth, '[' :: rest =>
      (bracketed? (depth + 1) rest).map fun (text, rest) => ('[' :: text, rest)
  | depth, c :: rest => (bracketed? depth rest).map fun (text, rest) => (c :: text, rest)

/--
The token at the start of a text that has no blanks before it, and the text behind
it. Signs are doubled only beside a name. A character that starts no token is a mark
without meaning.
-/
def nextToken (extended : Bool) (previous : Option Token) (c : Char) (rest : Octets) :
    Token × Octets :=
  if c.isDigit then
    if extended then basedNumeral (c :: rest)
    else
      let (n, rest) := numeral (c :: rest)
      (.number n, rest)
  else if Octets.isNameStart c then
    let name := (c :: rest).takeWhile Octets.isNamePart
    (.name name, (c :: rest).drop name.length)
  else
    let isName := match previous with
      | some (.name _) => true
      | some (.index _) => true
      | _ => false
    let isElement := extended && c = '[' && isName
    match if isElement then bracketed? 0 rest else none with
    | some (text, behind) => (.index text, behind)
    | none =>
    match (marks extended).find? fun mark => mark.toList.isPrefixOf (c :: rest) with
    | some mark =>
        let isDouble := mark = "++" || mark = "--"
        let besideName := isName ||
          ((rest.drop 1).dropWhile Octets.isSpace).head?.any Octets.isNameStart
        if isDouble && !besideName then (.mark (String.ofList [c]), rest)
        else (.mark mark, (c :: rest).drop mark.length)
    | none => (.mark "", rest)

def tokensFrom (extended : Bool) :
    (fuel : Nat) → (previous : Option Token) → Octets → List (Token × Octets)
  | 0, _, _ => []
  | _, _, [] => []
  | fuel + 1, previous, c :: rest =>
      if Octets.isSpace c then tokensFrom extended fuel previous rest
      else
        let (token, behind) := nextToken extended previous c rest
        (token, c :: rest) :: tokensFrom extended fuel (some token) behind

def tokens (extended : Bool) (text : Octets) : List Token :=
  (tokensFrom extended (text.length + 1) none text).map Prod.fst

/-- The text from the token that so many others are left behind, or from the last one. -/
def textFrom (text : Octets) (left : Nat) : Octets :=
  let all := tokensFrom true (text.length + 1) none text
  (all[all.length - max left 1]?.map Prod.snd).getD []

/-! ## Reading -/

/-- Why a text is no expression. -/
inductive Problem where
  | noOperand
  | unclosed
  | noAlternative
  | leftover
  | misfit
  | noOperator
  | noVariable
  | zeroDivisor
  | negativeExponent
  | tooDeep
  deriving DecidableEq

/-- The problem in words. -/
def Problem.message : Problem → String
  | .noOperand => "expecting primary"
  | .unclosed => "expecting ')'"
  | .noAlternative => "expecting ':'"
  | .zeroDivisor => "division by zero"
  | .tooDeep => "expression recursion level exceeded"
  | _ => "expecting EOF"

def Problem.extendedMessage : Problem → String
  | .noOperand => "syntax error: operand expected"
  | .unclosed => "missing \x60)'"
  | .noAlternative => "\x60:' expected for conditional expression"
  | .leftover => "syntax error in expression"
  | .misfit => "value too great for base"
  | .noOperator => "syntax error: invalid arithmetic operator"
  | .noVariable => "attempted assignment to non-variable"
  | .zeroDivisor => "division by 0"
  | .negativeExponent => "exponent less than 0"
  | .tooDeep => "expression recursion level exceeded"

/--
What is wrong with an expression, how many of its tokens had not been read then,
and what has a value already, as far as there is something.
-/
structure Refusal where
  problem : Problem
  left : Nat
  before : Option Expression

/-- The refusal behind an operand, which an operator ties to what is read behind it. -/
def Refusal.behind (mark : String) (operand : Expression) (refusal : Refusal) : Refusal :=
  let later := refusal.before.getD (.number 0)
  let before := if mark = "&&" || mark = "||" then .binary mark operand later 0
    else if mark = "?" then .choice operand later (.number 0)
    else .binary "," operand later 0
  { refusal with before := some before }

/-- An expression at the start of some tokens, and the tokens behind it. -/
abbrev Found := Except Refusal (Expression × List Token)

def stop {α : Type} (problem : Problem) (rest : List Token) : Except Refusal α :=
  .error ⟨problem, rest.length, none⟩

/-- Reads on behind an operand and an operator. -/
def behind {α : Type} (mark : String) (operand : Expression) (read : Except Refusal α) :
    Except Refusal α :=
  read.mapError (Refusal.behind mark operand)

/-- The operators between two operands, from the weakest on; those of a row are equally strong. -/
def rows (extended : Bool) : List (List String) :=
  [["||"], ["&&"], ["|"], ["^"], ["&"], ["==", "!="], ["<", ">", "<=", ">="], ["<<", ">>"],
    ["+", "-"], ["*", "/", "%"]] ++ if extended then [["**"]] else []

def assignments : List (String × Option String) :=
  [("=", none), ("+=", some "+"), ("-=", some "-"), ("*=", some "*"), ("/=", some "/"),
    ("%=", some "%"), ("&=", some "&"), ("^=", some "^"), ("|=", some "|"), ("<<=", some "<<"),
    (">>=", some ">>")]

/-- Operands with operators of one row between them; the first two are taken together first. -/
def operandsFrom (row : List String) (operand : List Token → Found) :
    (fuel : Nat) → Expression → List Token → Found
  | 0, left, rest => .ok (left, rest)
  | fuel + 1, left, .mark mark :: rest =>
      if row.contains mark then do
        let count := rest.length
        let (right, rest) ← behind mark left (operand rest)
        let (right, rest) ←
          if mark = "**" then operandsFrom row operand fuel right rest else pure (right, rest)
        operandsFrom row operand fuel (.binary mark left right count) rest
      else .ok (left, .mark mark :: rest)
  | _, left, rest => .ok (left, rest)

def operands (operand : List Token → Found) : List (List String) → List Token → Found
  | [], tokens => operand tokens
  | row :: stronger, tokens => do
      let (left, rest) ← operands operand stronger tokens
      operandsFrom row (operands operand stronger) tokens.length left rest

def subscript : List Token → Option Octets × List Token
  | .index text :: rest => (some text, rest)
  | tokens => (none, tokens)

/-- A single operand; `whole` reads what stands in parentheses. -/
def operand (extended : Bool) (whole : List Token → Found) : (fuel : Nat) → List Token → Found
  | 0, tokens => stop .tooDeep tokens
  | fuel + 1, tokens =>
      match tokens with
      | .number n :: rest => return (.number n, rest)
      | .name name :: rest =>
          if !extended then return (.named name none, rest)
          else
            let (index, rest) := subscript rest
            match rest with
            | .mark "++" :: rest => return (.count name index 1 true, rest)
            | .mark "--" :: rest => return (.count name index (-1) true, rest)
            | rest => return (.named name index, rest)
      | .mark "++" :: .name name :: rest =>
          let (index, rest) := subscript rest
          return (.count name index 1 false, rest)
      | .mark "--" :: .name name :: rest =>
          let (index, rest) := subscript rest
          return (.count name index (-1) false, rest)
      | .mark "(" :: rest => do
          match ← whole rest with
          | (inner, .mark ")" :: rest) => return (inner, rest)
          | (inner, rest) => behind "," inner (stop .unclosed rest)
      | .mark mark :: rest =>
          if ["+", "-", "!", "~"].contains mark then do
            let (inner, rest) ← operand extended whole fuel rest
            return (.unary mark inner, rest)
          else stop .noOperand tokens
      | tokens => stop .noOperand tokens

def conditional (extended : Bool) (whole : List Token → Found) (tokens : List Token) : Found := do
  let (condition, rest) ←
    operands (operand extended whole (tokens.length + 1)) (rows extended) tokens
  match rest with
  | .mark "?" :: rest =>
      match ← behind "?" condition (whole rest) with
      | (left, .mark ":" :: rest) =>
          let (right, rest) ← behind "?" condition (behind "," left (whole rest))
          return (.choice condition left right, rest)
      | (left, rest) => behind "?" condition (behind "," left (stop .noAlternative rest))
  | rest => return (condition, rest)

/-- A whole expression, nested at most `fuel` deep. -/
def whole (extended : Bool) : (fuel : Nat) → List Token → Found
  | 0, tokens => stop .tooDeep tokens
  | fuel + 1, tokens => do
      let inner := whole extended fuel
      match tokens with
      | .name name :: behind =>
          let (index, rest) := if extended then subscript behind else (none, behind)
          match rest with
          | .mark mark :: rest =>
              match assignments.lookup mark with
              | some applied => do
                  let (value, rest) ← inner rest
                  return (.assign name index applied value, rest)
              | none => conditional extended inner tokens
          | _ => conditional extended inner tokens
      | tokens => conditional extended inner tokens

/-- Expressions with commas between them, each behind those before it. -/
def sequence (extended : Bool) : (fuel : Nat) → List Token → Found
  | 0, tokens => whole extended (tokens.length + 1) tokens
  | fuel + 1, tokens => do
      let (first, rest) ← whole extended (tokens.length + 1) tokens
      match rest with
      | .mark "," :: rest =>
          let (second, rest) ← sequence extended fuel rest
          return (.binary "," first second rest.length, rest)
      | rest => return (first, rest)

/-- What is really wrong at a token that the readers of expressions make nothing of. -/
def cause (previous : Option Token) (found : Option Token) (problem : Problem) : Problem :=
  match found, problem with
  | some .misfit, _ => .misfit
  | some (.mark ""), _ =>
      match previous with
      | some (.mark _) => .noOperand
      | none => .noOperand
      | some _ => .noOperator
  | some (.mark mark), .leftover =>
      if (assignments.lookup mark).isSome then .noVariable else .leftover
  | _, problem => problem

/-- The expression that a text is. -/
def read (extended : Bool) (text : Octets) : Except Refusal Expression :=
  let tokens := tokens extended text
  match sequence extended tokens.length tokens with
  | .ok (expression, []) => .ok expression
  | .ok (expression, rest) => refused tokens ⟨.leftover, rest.length, some expression⟩
  | .error refusal => refused tokens refusal
where
  refused (tokens : List Token) (refusal : Refusal) : Except Refusal Expression :=
    let place := tokens.length - refusal.left
    let previous := if place = 0 then none else tokens[place - 1]?
    let problem := if extended then cause previous tokens[place]? refusal.problem
      else refusal.problem
    .error { refusal with problem }

/-! ## Evaluation -/

/-- One for what holds, zero for what does not. -/
def truth (holds : Bool) : Int64 := if holds then 1 else 0

/-- A number multiplied with itself. -/
def power (base : Int64) : Nat → Int64
  | 0 => 1
  | n + 1 => base * power base n

/-- What an operator makes of two numbers; none for a division by zero. -/
def apply (mark : String) (a b : Int64) : Option Int64 :=
  match mark with
  | "+" => some (a + b)
  | "-" => some (a - b)
  | "*" => some (a * b)
  | "/" => if b = 0 then none else some (a / b)
  | "%" => if b = 0 then none else some (a % b)
  | "**" => some (power a b.toNatClampNeg)
  | "<<" => some (a <<< (b &&& 63))
  | ">>" => some (a >>> (b &&& 63))
  | "<" => some (truth (a < b))
  | ">" => some (truth (b < a))
  | "<=" => some (truth (a ≤ b))
  | ">=" => some (truth (b ≤ a))
  | "==" => some (truth (a == b))
  | "!=" => some (truth (a != b))
  | "&" => some (a &&& b)
  | "^" => some (a ^^^ b)
  | "|" => some (a ||| b)
  | _ => some b

def digits (n : Int64) : Octets := Octets.ofInt n.toInt

def numberOf? (text : Octets) : Option Int64 :=
  let text := text.dropWhile Octets.isSpace
  let (negative, digits) :=
    match text with
    | '-' :: rest => (true, rest)
    | '+' :: rest => (false, rest)
    | rest => (false, rest)
  if !(digits.head?.any Char.isDigit) then none
  else
    let (n, rest) := numeral digits
    if rest.all Octets.isSpace then some (if negative then -n else n) else none

/-- Gives up an expression as it is written; so many of its tokens had not been read. -/
def refuse {α : Type} (written : Octets) (problem : Problem) (left : Nat) : Act α := do
  if ← Act.isExtended then
    let token := textFrom written left
    Act.discardWith (written ++ Octets.ofText s!": {problem.extendedMessage} (error token is \"" ++
      token ++ "\")".toList) 1
  else
    Act.failWith
      (Octets.ofText s!"arithmetic expression: {problem.message}: \"" ++ written ++ ['"']) 2

/-- The number that a variable holds; with extensions its text is an expression. -/
def numberIn (evaluate : Octets → Expression → Act Int64) (text : Octets) : Act Int64 := do
  if text.all Octets.isSpace then return 0
  if ← Act.isExtended then
    match read true text with
    | .ok expression => evaluate text expression
    | .error refusal => refuse text refusal.problem refusal.left
  else
    match numberOf? text with
    | some n => return n
    | none => Act.failWith (Octets.ofText "Illegal number: " ++ text) 2

/--
What an element of a variable is found by: a key, or a number; one below nought
counts from the end. None if it goes past the start.
-/
def placeOf? (number : Octets → Act Int64) (name index : Octets) : Act (Option Octets) := do
  if (← Act.shapeOf name) = .table then return some index
  let n := (← number index).toInt
  if 0 ≤ n then return some (Octets.ofNat n.toNat)
  let row := ((← Act.value? name).map Value.toRow).getD []
  let place := (row.next : Int) + n
  return if place < 0 then none else some (Octets.ofNat place.toNat)

def elementOf? (value : Value) (place : Octets) : Option Octets :=
  match value with
  | .table entries => entries.lookup place
  | value => (Octets.number? place).bind fun n => value.toRow.lookup n

/-- Says that there is no element that a subscript could stand for. -/
def refusePlace (name : Octets) : Act Unit :=
  Act.complain (name ++ ": bad array subscript".toList)

def textAt (number : Octets → Act Int64) (name : Octets) (subscript : Option Octets) :
    Act Octets := do
  match ← Act.value? name, subscript with
  | some value, none => return value.text?.getD []
  | some value, some index =>
      match ← placeOf? number name index with
      | some place => return (elementOf? value place).getD []
      | none =>
          refusePlace name
          return []
  | none, none => do
      if (← Act.isSet 'u') && (← Act.isExtended) then
        Act.failWith (name ++ ": unbound variable".toList) 1
      return []
  | none, some _ => return []

/-- Gives an element of a variable a text. -/
def storeAt (number : Octets → Act Int64) (name index text : Octets) : Act Unit := do
  let (name, _) ← Act.target name
  match ← placeOf? number name index with
  | none => Act.discardWith (name ++ '[' :: index ++ "]: bad array subscript".toList) 1
  | some place => Act.assign name (Act.placed (← Act.shapeOf name) (← Act.value? name) place text)

/-- Gives a variable, or a place of it, a number. -/
def store (number : Octets → Act Int64) (name : Octets) (subscript : Option Octets) (n : Int64) :
    Act Unit := do
  match subscript with
  | none => Act.assignText name (digits n)
  | some index => storeAt number name index (digits n)

/-- The value of an expression as it is written, nested at most `fuel` deep. -/
def evaluate : (fuel : Nat) → (written : Octets) → Expression → Act Int64
  | 0, written, _ => refuse written .tooDeep 0
  | fuel + 1, written, expression => do
      let inner := evaluate fuel written
      let number (text : Octets) : Act Int64 := numberIn (evaluate fuel) text
      let applied (mark : String) (a b : Int64) (behind : Nat) : Act Int64 := do
        if mark = "**" && b < 0 then refuse written .negativeExponent (behind - 1)
        match apply mark a b with
        | some n => return n
        | none => refuse written .zeroDivisor behind
      match expression with
      | .number n => return n
      | .named name subscript => numberIn (evaluate fuel) (← textAt number name subscript)
      | .unary mark operand =>
          let n ← inner operand
          match mark with
          | "-" => return -n
          | "!" => return truth (n == 0)
          | "~" => return ~~~n
          | _ => return n
      | .binary "&&" left right _ =>
          if (← inner left) = 0 then return 0
          return truth ((← inner right) != 0)
      | .binary "||" left right _ =>
          if (← inner left) ≠ 0 then return 1
          return truth ((← inner right) != 0)
      | .binary mark left right behind =>
          let a ← inner left
          let b ← inner right
          applied mark a b behind
      | .choice condition left right =>
          if (← inner condition) ≠ 0 then inner left else inner right
      | .assign name subscript mark operand =>
          let n ← inner operand
          let n ← match mark with
            | some mark => do
                let old ← numberIn (evaluate fuel) (← textAt number name subscript)
                applied mark old n 0
            | none => pure n
          store number name subscript n
          return n
      | .count name subscript step before =>
          let old ← numberIn (evaluate fuel) (← textAt number name subscript)
          store number name subscript (old + step)
          return if before then old else old + step

def value (written : Octets) : Act Int64 := do
  let extended ← Act.isExtended
  if extended && written.all Octets.isSpace then return 0
  match read extended written with
  | .ok expression => evaluate 1000 written expression
  | .error refusal =>
      unless extended do
        if let some before := refusal.before then
          let _ ← evaluate 1000 written before
      refuse written refusal.problem refusal.left

end BlockExtension.Shell.Arithmetic
