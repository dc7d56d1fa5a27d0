import BlockExtension.Shell.Fields

/-!
# Tests

The utility that tells with its status whether an expression about texts,
numbers and files holds. Expressions are words, so an operator can look like an
operand; how many words there are, and where they stand, says which it is.
-/

namespace BlockExtension.Shell.Utility.Test

/-- What an operator takes. -/
inductive Kind where
  | unary
  | binary
  | connective
  | parenthesis
  | negation
  deriving DecidableEq

/-- The operators. -/
def kinds (extended : Bool) : List (String × Kind) :=
  ["-b", "-c", "-d", "-e", "-f", "-g", "-h", "-k", "-L", "-n", "-O", "-G", "-p", "-r", "-s",
    "-S", "-t", "-u", "-w", "-x", "-z"].map (·, .unary) ++
    ["=", "!=", "<", ">", "-eq", "-ne", "-lt", "-le", "-gt", "-ge", "-nt", "-ot",
      "-ef"].map (·, .binary) ++
    (if extended then [("==", .binary), ("-v", .unary)] else []) ++
    [("-a", .connective), ("-o", .connective), ("(", .parenthesis), (")", .parenthesis),
      ("!", .negation)]

def kind? (extended : Bool) (word : Octets) : Option Kind :=
  (kinds extended).lookup (String.ofList word)

/-- How complaints are put, and what ends with them. -/
structure Voice where
  extended : Bool
  /-- Complains about a word, if there is one, and gives up. -/
  refuse : (word : Option Octets) → (text : String) → Act Bool

/-- The word at the start of some is an operator there, and of which kind. -/
def lexed? (voice : Voice) : List Octets → Option Kind
  | [] => none
  | word :: rest =>
      match kind? voice.extended word with
      | some .unary =>
          match rest with
          | [] => none
          | [_] => some .unary
          | next :: _ => if kind? voice.extended next = some .binary then none else some .unary
      | some .parenthesis =>
          if word = ['('] && rest.isEmpty then none else some .parenthesis
      | other => other

def number (voice : Voice) (word : Octets) : Act Int := do
  let trimmed := word.dropWhile Octets.isSpace
  let trimmed := (trimmed.reverse.dropWhile Octets.isSpace).reverse
  let parsed := match trimmed with
    | '-' :: digits => (Octets.number? digits).map fun n => -(n : Int)
    | '+' :: digits => (Octets.number? digits).map fun n => (n : Int)
    | digits => (Octets.number? digits).map fun n => (n : Int)
  match parsed with
  | some n => return n
  | none =>
      let _ ← voice.refuse (some word) "number"
      return 0

def ofEntry (operator : String) (entry : Files.Entry) : Bool :=
  match operator, entry with
  | "-e", _ => true
  | "-r", entry => entry.isReadable
  | "-w", entry => entry.isWritable
  | "-x", entry => entry.isExecutable
  | "-O", entry => entry.mode ≠ Files.Tree.systemDirectoryMode
  | "-G", entry => entry.mode ≠ Files.Tree.systemDirectoryMode
  | "-d", .directory _ => true
  | "-f", .file .. => true
  | "-c", .device _ => true
  | "-s", .file content _ => content.size ≠ 0
  | "-s", .directory _ => true
  | "-u", entry => entry.mode &&& 0o4000 ≠ 0
  | "-g", entry => entry.mode &&& 0o2000 ≠ 0
  | "-k", entry => entry.mode &&& 0o1000 ≠ 0
  | _, _ => false

/-- What an operator says of what a descriptor leads to. -/
def ofChannel (tree : Files.Tree) (operator : String) : Channel → Bool
  | .device kind => ofEntry operator (.device kind)
  | .queue .. => ["-e", "-p", "-r", "-w", "-O", "-G"].contains operator
  | .file location .. => (tree.get? location).any (ofEntry operator)
  | .nameless content _ => ofEntry operator (.file content Files.Tree.newFileMode)

def ofFile (operator : String) (path : Octets) : Act Bool := do
  let tree ← Act.tree
  let asksLink : Bool := operator = "-h" || operator = "-L"
  if let some descriptor := Act.descriptorAt? path then
    let channel ← Act.channelOf? descriptor
    return if asksLink then !("/dev/fd/".isPrefixOf (String.ofList path)) || channel.isSome
      else channel.any fun (_, channel) => ofChannel tree operator channel
  if asksLink then
    return match tree.findNamed (Act.pathOf path) with
      | .ok (_, entry) => entry.isLink
      | .error _ => false
  match tree.find (Act.pathOf path) with
  | .error _ => return false
  | .ok (_, entry) => return ofEntry operator entry

/-- A variable, or the element of it that a word with brackets names, has a value. -/
def isDefined (word : Octets) : Act Bool := do
  let (name, index) := Act.elementOf word
  match ← Held.ofParameter name index with
  | .missing => return false
  | .single _ => return true
  | .several items _ => return !items.isEmpty

/-- The setting with a name is on. -/
def isOn (name : Octets) : Act Bool := do
  match Ambient.settings.lookup (String.ofList name) with
  | some letter => Act.isSet letter
  | none => return false

def ofWord (operator : String) (word : Octets) : Act Bool := do
  match operator with
  | "-n" => return !word.isEmpty
  | "-z" => return word.isEmpty
  | "-t" => return false
  | "-v" => isDefined word
  | operator => ofFile operator word

/--
The file that a path leads to was written after the one that another path leads to.
If there is no other one, it depends on the dialect.
-/
def isNewer (extended : Bool) (path other : Octets) : Act Bool := do
  let machine ← get
  match machine.tree.find (Act.pathOf path), machine.tree.find (Act.pathOf other) with
  | .ok (a, _), .ok (b, _) => return machine.timeOf b < machine.timeOf a
  | .ok _, .error _ => return extended
  | _, _ => return false

def ofWords (voice : Voice) (left : Octets) (operator : String) (right : Octets) :
    Act Bool := do
  let numbers (holds : Int → Int → Bool) : Act Bool := do
    let a ← number voice left
    let b ← number voice right
    return holds a b
  match operator with
  | "=" => return left = right
  | "==" => return left = right
  | "!=" => return left ≠ right
  | "<" => return !Octets.le right left
  | ">" => return !Octets.le left right
  | "-eq" => numbers fun a b => a = b
  | "-ne" => numbers fun a b => a ≠ b
  | "-lt" => numbers fun a b => a < b
  | "-le" => numbers fun a b => a ≤ b
  | "-gt" => numbers fun a b => a > b
  | "-ge" => numbers fun a b => a ≥ b
  | "-ef" =>
      let tree ← Act.tree
      match tree.find (Act.pathOf left), tree.find (Act.pathOf right) with
      | .ok (a, _), .ok (b, _) => return (tree.namesOf a).contains b
      | _, _ => return false
  | "-nt" => isNewer voice.extended left right
  | "-ot" => isNewer voice.extended right left
  | _ => return false

/-- What an expression says, and the words behind it. -/
abbrev Answer := Act (Bool × List Octets)

/-- A text, an operator with its words, or an expression in parentheses. -/
def primary (voice : Voice) (whole : List Octets → Answer) (forced : Bool)
    (words : List Octets) : Answer := do
  match words with
  | [] => return (false, [])
  | word :: rest =>
      let kind := if forced then none else lexed? voice words
      match kind with
      | some .parenthesis =>
          if word = [')'] then return (true, rest)
          if lexed? voice rest = some .parenthesis && rest.head? = some [')'] then
            return (false, rest.drop 1)
          let (answer, behind) ← whole rest
          unless behind.head? = some [')'] do
            let _ ← voice.refuse none "closing paren expected"
          return (answer, behind.drop 1)
      | some .unary =>
          match rest with
          | [] => return (← voice.refuse (some word) "argument expected", [])
          | operand :: rest => return (← ofWord (String.ofList word) operand, rest)
      | _ =>
          match rest with
          | operator :: behind =>
              if lexed? voice rest = some .binary then
                match behind with
                | [] => return (← voice.refuse (some operator) "argument expected", [])
                | right :: behind =>
                    return (← ofWords voice word (String.ofList operator) right, behind)
              return (!word.isEmpty, rest)
          | [] => return (!word.isEmpty, [])

/-- An expression that may be turned round. -/
def negated (voice : Voice) (whole : List Octets → Answer) :
    (fuel : Nat) → (forced : Bool) → List Octets → Answer
  | 0, _, words => return (false, words)
  | fuel + 1, forced, words => do
      if !forced && lexed? voice words = some .negation then
        let (answer, rest) ← negated voice whole fuel false (words.drop 1)
        return (!answer, rest)
      primary voice whole forced words

/-- Expressions of which all must hold. -/
def conjunction (voice : Voice) (whole : List Octets → Answer) :
    (fuel : Nat) → (forced : Bool) → List Octets → Answer
  | 0, _, words => return (false, words)
  | fuel + 1, forced, words => do
      let (left, rest) ← negated voice whole (words.length + 1) forced words
      if lexed? voice rest = some .connective && rest.head? = some "-a".toList then
        let (right, rest) ← conjunction voice whole fuel false (rest.drop 1)
        return (left && right, rest)
      return (left, rest)

/-- Expressions of which one must hold. -/
def disjunctionFrom (voice : Voice) (whole : List Octets → Answer) :
    (fuel : Nat) → (forced : Bool) → List Octets → Answer
  | 0, _, words => return (false, words)
  | fuel + 1, forced, words => do
      let (left, rest) ← conjunction voice whole (words.length + 1) forced words
      if lexed? voice rest = some .connective && rest.head? = some "-o".toList then
        let (right, rest) ← disjunctionFrom voice whole fuel false (rest.drop 1)
        return (left || right, rest)
      return (left, rest)

/-- A whole expression, nested at most `fuel` deep. -/
def disjunction (voice : Voice) : (fuel : Nat) → (forced : Bool) → List Octets → Answer
  | 0, _, words => return (false, words)
  | fuel + 1, forced, words =>
      disjunctionFrom voice (disjunction voice fuel false) (words.length + 1) forced words

/-- What a whole expression says, with nothing behind it. -/
def evaluated (voice : Voice) (forced : Bool) (words : List Octets) : Act Bool := do
  match ← disjunction voice (words.length + 1) forced words with
  | (answer, []) => return answer
  | (_, rest) => voice.refuse words[words.length - rest.length - 1]? "unexpected operator"

/-- What some words say; up to four of them are understood by their number. -/
def answer (voice : Voice) : (fuel : Nat) → List Octets → Act Bool
  | 0, _ => return false
  | fuel + 1, words => do
      match words with
      | [] => return false
      | [_, operator, _] =>
          if kind? voice.extended operator = some .binary then evaluated voice true words
          else shortened voice (answer voice fuel) words
      | [_, _, _, _] => shortened voice (answer voice fuel) words
      | words => evaluated voice false words
where
  /-- The words without a negation or parentheses around them. -/
  shortened (voice : Voice) (again : List Octets → Act Bool) (words : List Octets) :
      Act Bool := do
    if words.head? = some ['('] && words.getLast? = some [')'] then
      evaluated voice false (words.drop 1).dropLast
    else if words.head? = some ['!'] then return !(← again (words.drop 1))
    else evaluated voice false words

def shellVoice (extended : Bool) : Voice where
  extended
  refuse word text := do
    let said : Octets := match word, text with
      | some word, "number" =>
          if extended then word ++ ": integer expression expected".toList
          else "Illegal number: ".toList ++ word
      | some word, text =>
          if extended && text = "unexpected operator" then "too many arguments".toList
          else if word.isEmpty then text.toList
          else word ++ (": " ++ text).toList
      | none, text => text.toList
    Act.failWith said 2

/-- The test utility; under the name of a bracket it wants a closing one. -/
def run (name : Octets) (arguments : List Octets) : Act Nat := do
  let extended ← Act.isExtended
  let words ←
    if name = ['['] then
      if arguments.getLast? = some [']'] then pure arguments.dropLast
      else Act.failWith (if extended then "missing \x60]'" else "missing ]").toList 2
    else pure arguments
  let voice := shellVoice extended
  let unknown (word : Octets) (text : String) : Act Nat :=
    Act.failWith (word ++ (": " ++ text ++ " operator expected").toList) 2
  match extended, words with
  | true, [operator, _] =>
      if operator ≠ ['!'] && kind? true operator ≠ some .unary then
        return ← unknown operator "unary"
  | true, [left, operator, _] =>
      if kind? true operator ≠ some .binary && kind? true operator ≠ some .connective &&
          left ≠ ['!'] && left ≠ ['('] then
        return ← unknown operator "binary"
  | _, _ => pure ()
  return if ← answer voice (words.length + 1) words then 0 else 1

end BlockExtension.Shell.Utility.Test
