import BlockExtension.Shell.Pattern
import BlockExtension.Shell.Reader.Source

/-!
# Reading words

A word goes on until a character ends it, and quotation marks keep characters
from doing so. What a dollar sign or a backquote introduces is read as a whole;
a command in it is read by `inner`, which goes past the parenthesis at its end.
-/

namespace BlockExtension.Shell.Reader

open Read

/-- Where a stretch of a word stands, which says what ends it. -/
inductive Enclosure where
  /-- Not enclosed: blanks and operators end it. -/
  | word
  | double
  | braces (quoted : Bool)
  /-- Up to one of some characters, which is left in place. -/
  | upTo (stops : List Char) (quoted : Bool)
  | subscript
  | group
  | arithmetic
  | document
  deriving DecidableEq

namespace Enclosure

def quotes : Enclosure → Bool
  | .word => false
  | .double => true
  | .braces quoted => quoted
  | .upTo _ quoted => quoted
  | .subscript => false
  | .group => false
  | .arithmetic => true
  | .document => true

def problem? : Enclosure → Option Problem
  | .word => none
  | .double => some (.unterminatedQuotation '"')
  | .braces quoted => some (if quoted then .unterminatedQuotation '"' else .unclosedBrace)
  | .upTo _ quoted => some (if quoted then .unterminatedQuotation '"' else .unclosedBrace)
  | .subscript => some .unclosedBrace
  | .group => some .unclosedGroup
  | .arithmetic => some .unclosedArithmetic
  | .document => none

/-- A backslash keeps its meaning before this character. -/
def escapes (enclosure : Enclosure) (c : Char) : Bool :=
  c = '$' || c = '\x60' || c = '\\' ||
    match enclosure with
    | .document => false
    | .braces _ => c = '"' || c = '\x7d'
    | _ => c = '"'

end Enclosure

def endsWord (c : Char) : Bool :=
  Octets.isBlank c || c = '\n' || c = ';' || c = '&' || c = '|' || c = '(' || c = ')' ||
    c = '<' || c = '>'

def isSpecial (c : Char) : Bool :=
  c = '#' || c = '@' || c = '*' || c = '?' || c = '$' || c = '!' || c = '-'

/-- Adds a character to a stretch, as one that counts as quoted or not. -/
def add (quoted : Bool) (c : Char) (parts : Word) : Word :=
  if quoted then parts.addQuoted c else parts.addLiteral c

/-- Adds characters that stand for themselves; quotation marks leave a trace even if empty. -/
def addMarked (text : Octets) (parts : Word) : Word :=
  match parts with
  | .quoted _ :: _ => text.foldl (fun parts c => parts.addQuoted c) parts
  | _ => text.foldl (fun parts c => parts.addQuoted c) (.quoted [] :: parts)

/-- Puts a stretch that has been read as a whole behind another one. -/
def append (parts more : Word) : Word :=
  match more with
  | [] => addMarked [] parts
  | more => (more.map fun
      | .literal text => Part.literal text.reverse
      | .quoted text => .quoted text.reverse
      | part => part).reverse ++ parts

/-- What stands in quotation marks, as a field of its own unless it is all parameters at once. -/
def marked (quotation : Word) : Word :=
  match quotation with
  | [.parameter ['@'] none .plain _] => quotation
  | quotation => .quoted [] :: quotation

/-! ## Simple quotation -/

def singleQuoted : Read Octets := do
  let start := (← get).line
  let text ← takeWhile (· ≠ '\'')
  if (← peek).isNone then stopFrom start (.unterminatedQuotation '\'')
  skip
  return text

def digit? (base : Nat) (c : Char) : Option Nat :=
  let value :=
    if c.isDigit then c.toNat - '0'.toNat
    else if 'a' ≤ c && c ≤ 'f' then c.toNat - 'a'.toNat + 10
    else if 'A' ≤ c && c ≤ 'F' then c.toNat - 'A'.toNat + 10
    else base
  if value < base then some value else none

/-- The number that at most `count` digits stand for, and what follows them. -/
def digits (base : Nat) : (count value : Nat) → Octets → Nat × Octets
  | 0, value, text => (value, text)
  | _, value, [] => (value, [])
  | count + 1, value, c :: rest =>
      match digit? base c with
      | some digit => digits base count (value * base + digit) rest
      | none => (value, c :: rest)

def letterEscape? : Char → Option Char
  | '\\' => some '\\'
  | 'a' => some '\x07'
  | 'b' => some '\x08'
  | 'e' => some '\x1b'
  | 'E' => some '\x1b'
  | 'f' => some '\x0c'
  | 'n' => some '\n'
  | 'r' => some '\r'
  | 't' => some '\t'
  | 'v' => some '\x0b'
  | _ => none

def hexadecimal (places n : Nat) : Octets :=
  let shown := (Nat.toDigits 16 n).map Char.toUpper
  List.replicate (places - shown.length) '0' ++ shown

/-- The character with a number; one that is no octet stays as it is written. -/
def numbered (letter : Char) (places n : Nat) : Octets :=
  if n < 128 then [Char.ofNat n] else '\\' :: letter :: hexadecimal places n

def numberedShortly (n : Nat) : Octets :=
  if n < 65536 then numbered 'u' 4 n else numbered 'U' 8 n

/-- The text of a quotation in which backslashes introduce characters. -/
def unescaped : (fuel : Nat) → Octets → Octets
  | 0, _ => []
  | _, [] => []
  | fuel + 1, '\\' :: c :: rest =>
      if (digit? 8 c).isSome then
        let (value, rest) := digits 8 3 0 (c :: rest)
        Char.ofNat (value % 256) :: unescaped fuel rest
      else if c = 'x' && (rest.head?.bind (digit? 16)).isSome then
        let (value, rest) := digits 16 2 0 rest
        Char.ofNat value :: unescaped fuel rest
      else if (c = 'u' || c = 'U') && (rest.head?.bind (digit? 16)).isSome then
        let places := if c = 'u' then 4 else 8
        let (value, rest) := digits 16 places 0 rest
        numberedShortly value ++ unescaped fuel rest
      else if c = 'c' && !rest.isEmpty then
        match rest with
        | letter :: rest => Char.ofNat (letter.toUpper.toNat % 32) :: unescaped fuel rest
        | [] => []
      else if c = '\'' || c = '"' || c = '?' then c :: unescaped fuel rest
      else
        match letterEscape? c with
        | some found => found :: unescaped fuel rest
        | none => '\\' :: c :: unescaped fuel rest
  | fuel + 1, c :: rest => c :: unescaped fuel rest

def escapedQuotation : (fuel : Nat) → Octets → Read Octets
  | 0, text => return text
  | fuel + 1, text => do
      match ← peek with
      | none => stop (.unterminatedQuotation '\'')
      | some '\'' =>
          skip
          return unescaped (text.length + 1) text.reverse
      | some '\\' =>
          skip
          match ← peek with
          | none => stop (.unterminatedQuotation '\'')
          | some c =>
              skip
              escapedQuotation fuel (c :: '\\' :: text)
      | some c =>
          skip
          escapedQuotation fuel (c :: text)

/-! ## What is put in place of something -/

def backquotedText (quoted : Bool) : (fuel : Nat) → Octets → Read Octets
  | 0, text => return text.reverse
  | fuel + 1, text => do
      match ← peek with
      | none => stop .unclosedBackquote
      | some '\x60' =>
          skip
          return text.reverse
      | some '\\' =>
          skip
          match ← peek with
          | none => stop .unclosedBackquote
          | some c =>
              skip
              if c = '\\' || c = '\x60' || c = '$' || (quoted && c = '"') then
                backquotedText quoted fuel (c :: text)
              else backquotedText quoted fuel (c :: '\\' :: text)
      | some c =>
          skip
          backquotedText quoted fuel (c :: text)

def parameterUse (nested : Enclosure → Read Word) (quoted : Bool) : Read Use := do
  let braces := Enclosure.braces quoted
  let extended ← isExtended
  match ← peekJoined with
  | none => stop (braces.problem?.getD .unclosedBrace)
  | some c =>
      modify fun source => { source with rest := source.rest.drop 1 }
      let fallback? : Char → Option Fallback := fun
        | '-' => some .default
        | '+' => some .alternative
        | '=' => some .assign
        | '?' => some .complain
        | _ => none
      if c = '\x7d' then return .plain
      else if c = ':' then
        match (← peekJoined).bind fallback? with
        | some kind =>
            skip
            return .fallback kind true (← nested braces)
        | none =>
            if (← peek) = some '\x7d' then
              skip
              return .plain
            if !extended then
              skip
              return .meaningless (← nested braces).unquoted.1
            let start ← nested (.upTo [':', '\x7d'] quoted)
            if (← peek) = some ':' then
              skip
              let count ← nested braces
              return .slice start (some count)
            skip
            return .slice start none
      else if c = '%' || c = '#' then
        let longest := (← peekJoined) = some c
        if longest then skip
        return .without (if c = '#' then .front else .back) longest (← nested (.braces false))
      else if extended && c = '/' then
        let reach ← match ← peek with
          | some '/' => do skip; pure .all
          | some '#' => do skip; pure .atFront
          | some '%' => do skip; pure .atBack
          | _ => pure .first
        let pattern ← nested (.upTo ['/', '\x7d'] false)
        if (← peek) = some '/' then
          skip
          return .replace reach pattern (← nested (.braces false))
        skip
        return .replace reach pattern []
      else if extended && (c = '^' || c = ',' || c = '~') then
        let all := (← peek) = some c
        if all then skip
        let change : Recasing := if c = '^' then .raise else if c = ',' then .lower else .swap
        return .recase change all (← nested (.braces false))
      else if extended && c = '@' then
        match (← get).rest with
        | letter :: '\x7d' :: rest =>
            if "QUuLEPAKak".toList.contains letter then
              modify fun source => { source with rest }
              return .form letter
            return .meaningless ('@' :: (← nested braces).unquoted.1)
        | _ => return .meaningless ('@' :: (← nested braces).unquoted.1)
      else
        match fallback? c with
        | some kind => return .fallback kind false (← nested braces)
        | none => return .meaningless (c :: (← nested braces).unquoted.1)

def bracedParameter (nested : Enclosure → Read Word) (quoted : Bool) : Read Part := do
  let name : Read Octets := do
    match ← peekJoined with
    | some c =>
        if Octets.isNameStart c then takeWhile Octets.isNamePart
        else if c.isDigit then takeWhile Char.isDigit
        else return []
    | none => return []
  let subscript : Read (Option Word) := do
    if (← isExtended) && (← peek) = some '[' then
      skip
      return some (← nested .subscript)
    return none
  let finish (name : Octets) : Read Part := do
    let subscript ← subscript
    return .parameter name subscript (← parameterUse nested quoted) quoted
  match ← peekJoined with
  | some '#' =>
      skip
      let found ← name
      if !found.isEmpty then
        let subscript ← subscript
        if (← peekJoined) = some '\x7d' then
          skip
          return .parameter found subscript .length quoted
        let text ← nested (.braces quoted)
        return .parameter found none (.meaningless text.unquoted.1) quoted
      match (← get).rest with
      | c :: '\x7d' :: rest =>
          if isSpecial c then
            modify fun source => { source with rest }
            return .parameter [c] none .length quoted
          finish ['#']
      | _ => finish ['#']
  | some c =>
      if c = '!' && (← isExtended) then
        skip
        let found ← name
        if found.isEmpty then
          match (← get).rest with
          | c :: '\x7d' :: rest =>
              if c = '#' || c = '@' || c = '*' || c = '?' then
                modify fun source => { source with rest }
                return .parameter [c] none (.indirect .plain) quoted
              return ← finish ['!']
          | _ => return ← finish ['!']
        match (← get).rest with
        | '*' :: '\x7d' :: rest =>
            modify fun source => { source with rest }
            return .parameter found none (.names true) quoted
        | '@' :: '\x7d' :: rest =>
            modify fun source => { source with rest }
            return .parameter found none (.names false) quoted
        | _ => pure ()
        let subscript ← subscript
        let use ← parameterUse nested quoted
        let isWhole := match subscript with
          | some index => index.unquoted.1 = ['@'] || index.unquoted.1 = ['*']
          | none => false
        if isWhole then
          match use with
          | .plain => return .parameter found subscript .keys quoted
          | _ => pure ()
        return .parameter found subscript (.indirect use) quoted
      let found ← name
      if !found.isEmpty then finish found
      else if isSpecial c then
        skip
        finish [c]
      else
        let text ← nested (.braces quoted)
        return .parameter [] none (.meaningless text.unquoted.1) quoted
  | none => stop ((Enclosure.braces quoted).problem?.getD .unclosedBrace)

def introduced? (inner : Read Command) (nested : Enclosure → Read Word) (quoted : Bool) :
    Read (Option Part) := do
  match ← peekJoined with
  | none => return none
  | some '(' =>
      skip
      if (← peekJoined) = some '(' then
        skip
        return some (.value (← nested .arithmetic) quoted)
      let awaited := (← get).awaited
      modify fun source => { source with awaited := [] }
      let body ← inner
      modify fun source => { source with awaited }
      return some (.output body quoted)
  | some '\x7b' =>
      skip
      return some (← bracedParameter nested quoted)
  | some c =>
      if isSpecial c || c.isDigit then
        skip
        return some (.parameter [c] none .plain quoted)
      else if Octets.isNameStart c then
        return some (.parameter (← takeWhile Octets.isNamePart) none .plain quoted)
      else if !quoted && c = '\'' && (← isExtended) then
        skip
        return some (.quoted (← escapedQuotation (← bound) []).reverse)
      else return none

/--
A command between backquotes, the first of which has been gone past. The lines of
its text are counted for themselves, unless there are extensions.
-/
def backquoted (inner : Read Command) (quoted : Bool) : Read Part := do
  let line := (← get).line
  let text ← fromStart line (some .unclosedBackquote) (backquotedText quoted (← bound) [])
  let first := if ← isExtended then line else 1
  return .output (← within text first inner) quoted

/-- A command whose output is read as a file, or which reads what is written to a file. -/
def passage (output : Read Command) (reads : Bool) : Read Part := do
  skip
  skip
  let awaited := (← get).awaited
  modify fun source => { source with awaited := [] }
  let body ← output
  modify fun source => { source with awaited }
  return .passage reads body

/-- A subscript behind the name of a variable, as part of a word that is kept backwards. -/
def bracketed (nested : Enclosure → Read Word) (parts : Word) : Read Word := do
  skip
  let index ← nested .subscript
  return (append (parts.addLiteral '[') index).addLiteral ']'

/-! ## Stretches -/

/--
A stretch from a place in a word on, kept backwards. `nested` reads a stretch
inside this one, `output` a command that ends at a parenthesis and `whole` one
that ends with its text.
-/
def stretchFrom (output whole : Read Command) (nested : Enclosure → Read Word)
    (enclosure : Enclosure) : (fuel depth : Nat) → Word → Read Word
  | 0, _, parts => return parts
  | fuel + 1, depth, parts => do
      let quotes := enclosure.quotes
      let more := stretchFrom output whole nested enclosure fuel
      match ← peek with
      | none =>
          match enclosure.problem? with
          | some problem => stop problem
          | none => return parts
      | some c =>
          if enclosure = .word then
            let extended ← isExtended
            match c, (← get).rest.drop 1, parts with
            | '<', '(' :: _, _ =>
                if extended then return ← more depth ((← passage output true) :: parts)
            | '>', '(' :: _, _ =>
                if extended then return ← more depth ((← passage output false) :: parts)
            | '[', _, [.literal name] =>
                if extended && (← get).mayAssign && Octets.isName name.reverse then
                  return ← more depth (← bracketed nested parts)
            | '[', _, [] =>
                if extended && (← get).inList then
                  return ← more depth (← bracketed nested parts)
            | '(', _, .literal (sign :: _) :: _ =>
                if (← get).groups && Pattern.isGroupSign sign then
                  skip
                  let inner ← nested .group
                  return ← more depth ((append (parts.addLiteral '(') inner).addLiteral ')')
            | _, _, _ => pure ()
            if endsWord c then return parts
          else if enclosure = .double && c = '"' then
            skip
            return parts
          else if (enclosure = .braces quotes) && c = '\x7d' then
            skip
            return parts
          else if (enclosure = .subscript && c = ']' || enclosure = .group && c = ')') &&
              depth = 0 then
            skip
            return parts
          else if let .upTo stops _ := enclosure then
            if stops.contains c then return parts
          if enclosure = .arithmetic && c = ')' && depth = 0 then
            skip
            if (← peek) = some ')' then
              skip
              return parts
            return ← more 0 (parts.addQuoted ')')
          skip
          match c with
          | '\\' =>
              match ← peek with
              | none => more depth (add quotes '\\' parts)
              | some next =>
                  if next = '\n' then
                    skip
                    more depth parts
                  else if !quotes then
                    skip
                    more depth (addMarked [next] parts)
                  else if enclosure.escapes next then
                    skip
                    more depth (parts.addQuoted next)
                  else more depth (parts.addQuoted '\\')
          | '\'' =>
              if quotes then more depth (parts.addQuoted '\'')
              else more depth (addMarked (← singleQuoted) parts)
          | '"' =>
              if enclosure = .document then more depth (parts.addQuoted '"')
              else if enclosure = .arithmetic then
                more depth (if ← isExtended then parts else parts.addQuoted '"')
              else
                let quotation ← nested .double
                more depth (append parts (if ← isExtended then quotation else marked quotation))
          | '$' =>
              match ← introduced? output nested quotes with
              | some part => more depth (part :: parts)
              | none =>
                  if !quotes && (← isExtended) && (← peek) = some '"' then more depth parts
                  else more depth (add quotes '$' parts)
          | '\x60' => more depth ((← backquoted whole quotes) :: parts)
          | '(' =>
              let nests := enclosure = .arithmetic || enclosure = .group
              more (if nests then depth + 1 else depth) (add quotes c parts)
          | ')' =>
              let nests := enclosure = .arithmetic || enclosure = .group
              more (if nests then depth - 1 else depth) (add quotes c parts)
          | '[' => more (if enclosure = .subscript then depth + 1 else depth) (add quotes c parts)
          | ']' => more (if enclosure = .subscript then depth - 1 else depth) (add quotes c parts)
          | c => more depth (add quotes c parts)

/-- A stretch of a word, nested at most `fuel` deep. -/
def stretch (output whole : Read Command) : (fuel : Nat) → Enclosure → Read Word
  | 0, _ => stop .tooDeep
  | fuel + 1, enclosure => do
      let start := (← get).line
      let parts ← fromStart start enclosure.problem?
        (stretchFrom output whole (stretch output whole fuel) enclosure (← bound) 0 [])
      return parts.turned

end BlockExtension.Shell.Reader
