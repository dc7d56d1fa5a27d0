import BlockExtension.Shell.Reader.Words
import BlockExtension.Shell.Regex

/-!
# Regular expressions of the pattern scanner

The scanner writes its regular expressions in the extended notation, with rules
of its own: a circumflex or a dollar sign means an end of the text wherever it
stands, backslashes introduce characters, also in sets, and an operator must have
something to work on.
-/

namespace BlockExtension.Shell.Utility.Scanning.Notation

open BlockExtension.Shell.Reader (digit? digits)

/-- Why an expression cannot be read. -/
inductive Problem where
  | missingOperand
  | missingParenthesis
  | badClass
  | badInterval
  | repeatedStart
  deriving DecidableEq, Repr

/-- The problem in words. -/
def Problem.message : Problem → String
  | .missingOperand => "missing operand"
  | .missingParenthesis => "missing ')'"
  | .badClass => "bad class -- [], [^] or ["
  | .badInterval => "bad interval expression"
  | .repeatedStart => "syntax error ^* or ^+"

abbrev Read := StateT Octets (Except Problem)

/-- The character that a letter behind a backslash stands for, if it is another one. -/
def escape? : Char → Option Char
  | 'n' => some '\n'
  | 't' => some '\t'
  | 'f' => some '\x0c'
  | 'b' => some '\x08'
  | 'r' => some '\r'
  | 'a' => some '\x07'
  | 'v' => some '\x0b'
  | _ => none

/-- The character that stands behind a backslash, and what follows it. -/
def escaped : Octets → Char × Octets
  | [] => ('\\', [])
  | c :: rest =>
      if (digit? 8 c).isSome then
        let (value, rest) := digits 8 3 0 (c :: rest)
        (Char.ofNat (value % 256), rest)
      else if c = 'x' && (rest.head?.bind (digit? 16)).isSome then
        let (value, rest) := digits 16 2 0 rest
        (Char.ofNat value, rest)
      else ((escape? c).getD c, rest)

/-! ## Sets -/

/-- The members that start with a character, up to the last one of a range, and what follows. -/
def rangeFrom (first : Char) (rest : Octets) : List Shell.Pattern.Member × Octets :=
  match rest with
  | '-' :: last :: behind =>
      if last = ']' then ([.range first first], rest)
      else
        let (last, behind) := if last = '\\' then escaped behind else (last, behind)
        if last < first then ([.range first first, .range last last], behind)
        else ([.range first last], behind)
  | rest => ([.range first first], rest)

/-- The next members of a set, and what follows them. -/
def piece (c : Char) (rest : Octets) : Except Problem (List Shell.Pattern.Member × Octets) := do
  match c, rest with
  | '[', ':' :: behind =>
      let name := behind.takeWhile Char.isAlpha
      match behind.drop name.length with
      | ':' :: ']' :: behind =>
          let name := String.ofList name
          unless Shell.Pattern.classNames.contains name do throw .badClass
          return ([.named name], behind)
      | _ => return rangeFrom c rest
  | '\\', d :: behind =>
      let (d, behind) := escaped (d :: behind)
      return rangeFrom d behind
  | c, rest => return rangeFrom c rest

/-- The members of a set up to its closing bracket; the first character may be a bracket. -/
def members : (fuel : Nat) → (first : Bool) → Octets →
    Except Problem (List Shell.Pattern.Member × Octets)
  | 0, _, _ => .error .badClass
  | _, _, [] => .error .badClass
  | fuel + 1, first, c :: rest => do
      if c = ']' && !first then return ([], rest)
      let (found, behind) ← piece c rest
      let (more, behind) ← members fuel false behind
      return (found ++ more, behind)

/-- The set behind an opening bracket. -/
def set : Read Regex := do
  let text ← get
  let (negated, body) := match text with
    | '^' :: rest => (true, rest)
    | rest => (false, rest)
  let (members, rest) ← members (body.length + 1) true body
  StateT.set rest
  return .single (.set negated members)

/-! ## Expressions -/

def bounds? (text : Octets) : Option (Nat × Option Nat × Octets) :=
  let least := text.takeWhile Char.isDigit
  match text.drop least.length with
  | '\x7d' :: rest =>
      (Octets.number? least).map fun n => (n, some n, rest)
  | ',' :: rest =>
      let most := rest.takeWhile Char.isDigit
      match rest.drop most.length with
      | '\x7d' :: rest => some ((Octets.number? least).getD 0, Octets.number? most, rest)
      | _ => none
  | _ => none

/--
The greatest number of repetitions that is meant. Where at least two are asked for,
no more are taken than those, unless what is repeated is a choice.
-/
def mostMeant (body : Regex) (least : Nat) (most : Option Nat) : Option Nat :=
  if least < 2 then most
  else
    match body with
    | .alternative .. => most
    | _ => some least

def repeatedBy : (fuel : Nat) → (body : Regex) → Read Regex
  | 0, body => return body
  | fuel + 1, body => do
      let on (least : Nat) (most : Option Nat) (rest : Octets) : Read Regex := do
        if body matches .textStart && least ≤ 1 && most.isNone then throw .repeatedStart
        if most.any (· < least) then throw .badInterval
        StateT.set rest
        repeatedBy fuel (.repeated body least (mostMeant body least most))
      match ← get with
      | '*' :: rest => on 0 none rest
      | '+' :: rest => on 1 none rest
      | '?' :: rest => on 0 (some 1) rest
      | '\x7b' :: rest =>
          match bounds? rest with
          | some (least, most, rest) => on least most rest
          | none => return body
      | _ => return body

/-- An expression that no operator is part of; `whole` reads one in parentheses. -/
def atom (whole : Read Regex) (isFirst : Bool) : Read Regex := do
  match ← get with
  | [] => throw .missingOperand
  | c :: rest =>
      StateT.set rest
      match c with
      | '[' => set
      | '.' => return .single .any
      | '^' => return .textStart
      | '$' => return .textEnd
      | '\\' =>
          let (c, rest) := escaped rest
          StateT.set rest
          return .single (.one c)
      | '(' =>
          if let ')' :: rest := rest then
            if isFirst then throw .missingOperand
            StateT.set rest
            return .empty
          let body ← whole
          match ← get with
          | ')' :: rest =>
              StateT.set rest
              return body
          | _ => throw .missingParenthesis
      | c =>
          if ['*', '+', '?', '|'].contains c then throw .missingOperand
          return .single (.one c)

/-- Expressions one behind the other, up to a bar, a closing parenthesis or the end. -/
def sequence (inGroup : Bool) (whole : Read Regex) : (fuel : Nat) → (isFirst : Bool) → Read Regex
  | 0, _ => return .empty
  | fuel + 1, isFirst => do
      let text ← get
      let isEnd := match text with
        | [] => true
        | '|' :: _ => true
        | ')' :: _ => inGroup
        | _ => false
      if isEnd then
        if isFirst then throw (if inGroup && text.isEmpty then .missingParenthesis
          else .missingOperand)
        return .empty
      let body ← repeatedBy (text.length + 1) (← atom whole isFirst)
      return .sequence body (← sequence inGroup whole fuel false)

/-- A choice between sequences, nested at most `fuel` deep. -/
def choice : (fuel : Nat) → (inGroup : Bool) → Read Regex
  | 0, _ => throw .missingParenthesis
  | fuel + 1, inGroup => do
      let first ← sequence inGroup (choice fuel true) ((← get).length + 1) true
      match ← get with
      | '|' :: rest =>
          StateT.set rest
          return .alternative first (← choice fuel inGroup)
      | _ => return first

/-- The expression that a text writes; an empty text matches everywhere. -/
def regexOf (text : Octets) : Except Problem Regex :=
  if text.isEmpty then .ok .empty
  else
    match (choice (text.length + 2) false).run text with
    | .ok (regex, _) => .ok regex
    | .error problem => .error problem

end BlockExtension.Shell.Utility.Scanning.Notation
