import BlockExtension.Shell.Ordered.Match

/-!
# Reading expressions that are tried in order

The notation of such expressions. Groups may be called and matched again before
they are written, so a text is read twice: the second time it is known what
groups there are.
-/

namespace BlockExtension.Shell.Ordered

/-! ## Characters -/

/-- The characters that are in none of some ranges. -/
def complement (ranges : Characters) : Characters :=
  let isIn (n : Nat) : Bool := isAmong ranges (Char.ofNat n)
  ((List.range 256).filter (!isIn ·)).map fun n => (Char.ofNat n, Char.ofNat n)

def unlessNot (negated : Bool) (ranges : Characters) : Characters :=
  if negated then complement ranges else ranges

def inBothCases (ranges : Characters) : Characters :=
  let isIn (c : Char) : Bool := isAmong ranges c
  let letters := (List.range 128).map Char.ofNat
  let others := letters.filter fun c =>
    c.isAlpha && !isIn c && (isIn c.toLower || isIn c.toUpper)
  ranges ++ others.map fun c => (c, c)

def one (c : Char) : Characters := [(c, c)]

def all : Characters := [('\x00', '\xff')]

def inLine : Characters := [('\x00', '\t'), ('\x0b', '\xff')]

def digits : Characters := [('0', '9')]

def wordParts : Characters := [('0', '9'), ('A', 'Z'), ('_', '_'), ('a', 'z')]

/-- Blanks, and the characters that end lines and pages. -/
def spaces : Characters := [('\t', '\r'), (' ', ' ')]

def horizontal : Characters := [('\t', '\t'), (' ', ' '), ('\xa0', '\xa0')]

def vertical : Characters := [('\n', '\r'), ('\x85', '\x85')]

def classNamed? (name : String) : Option Characters :=
  match name with
  | "alpha" => some [('A', 'Z'), ('a', 'z')]
  | "lower" => some [('a', 'z')]
  | "upper" => some [('A', 'Z')]
  | "alnum" => some [('0', '9'), ('A', 'Z'), ('a', 'z')]
  | "ascii" => some [('\x00', '\x7f')]
  | "blank" => some [('\t', '\t'), (' ', ' ')]
  | "cntrl" => some [('\x00', '\x1f'), ('\x7f', '\x7f')]
  | "digit" => some digits
  | "graph" => some [('!', '~')]
  | "print" => some [(' ', '~')]
  | "punct" => some [('!', '/'), (':', '@'), ('[', '\x60'), ('\x7b', '~')]
  | "space" => some spaces
  | "word" => some wordParts
  | "xdigit" => some [('0', '9'), ('A', 'F'), ('a', 'f')]
  | _ => none

def property? (name : String) : Option Characters :=
  let upper : Characters := [('A', 'Z'), ('\xc0', '\xd6'), ('\xd8', '\xde')]
  let lower : Characters :=
    [('a', 'z'), ('\xb5', '\xb5'), ('\xdf', '\xf6'), ('\xf8', '\xff')]
  let letter := upper ++ lower ++ [('\xaa', '\xaa'), ('\xba', '\xba')]
  match name with
  | "Any" => some all
  | "L" => some letter
  | "L&" => some (upper ++ lower)
  | "Lu" => some upper
  | "Ll" => some lower
  | "N" => some (digits ++ [('\xb2', '\xb3'), ('\xb9', '\xb9'), ('\xbc', '\xbe')])
  | "Nd" => some digits
  | "P" => some ("!\"#%&'()*,-./:;?@[\\]_\x7b\x7d\xa1\xa7\xab\xb6\xb7\xbb\xbf".toList.map
      fun c => (c, c))
  | "S" => some (("$+<=>^\x60|~\xa2\xa3\xa4\xa5\xa6\xa8\xa9\xac" ++
      "\xae\xaf\xb0\xb1\xb4\xb8\xd7\xf7").toList.map
      fun c => (c, c))
  | "Z" => some [(' ', ' '), ('\xa0', '\xa0')]
  | "Zs" => some [(' ', ' '), ('\xa0', '\xa0')]
  | "C" => some [('\x00', '\x1f'), ('\x7f', '\x9f'), ('\xad', '\xad')]
  | "Cc" => some [('\x00', '\x1f'), ('\x7f', '\x9f')]
  | "Latin" => some letter
  | "Xan" => some (letter ++ digits)
  | "Xwd" => some (letter ++ digits ++ one '_')
  | "Xsp" => some spaces
  | "Xps" => some spaces
  | _ => none

/-! ## Reading -/

/-- How what follows is meant. -/
structure Flags where
  foldsCase : Bool
  perLine : Bool
  dotsMatchAll : Bool
  /-- Blanks and comments in the text are passed over. -/
  isSpaced : Bool
  groupsNothing : Bool
  endsBeforeFeed : Bool

/-- The groups that there are, and the names of some of them. -/
structure Groups where
  count : Nat
  names : List (Octets × Nat)

/-- What is left of a text, how it is meant, and the groups read so far. -/
structure Reading where
  rest : Octets
  flags : Flags
  groups : Groups
  known : Option Groups

abbrev Read := StateT Reading (Except String)

def goOn (rest : Octets) : Read Unit := modify fun reading => { reading with rest }

def charactersOf (ranges : Characters) : Read Expression := do
  return .characters (if (← get).flags.foldsCase then inBothCases ranges else ranges)

def digitValue? (base : Nat) (c : Char) : Option Nat :=
  let value? : Option Nat :=
    if c.isDigit then some (c.toNat - '0'.toNat)
    else if 'a' ≤ c.toLower && c.toLower ≤ 'f' then some (c.toLower.toNat - 'a'.toNat + 10)
    else none
  value?.filter (· < base)

/-- The number that up to some digits at the start of a text stand for, and the rest. -/
def readDigits (base : Nat) : (most : Nat) → (value : Nat) → Octets → Nat × Octets
  | 0, value, text => (value, text)
  | most + 1, value, c :: rest =>
      match digitValue? base c with
      | some digit => readDigits base most (value * base + digit) rest
      | none => (value, c :: rest)
  | _, value, [] => (value, [])

def readBraced (base : Nat) (text : Octets) : Except String (Char × Octets) :=
  let (value, rest) := readDigits base text.length 0 text
  match rest with
  | '\x7d' :: rest =>
      if 255 < value then
        .error "character code point value in \\x\x7b\x7d or \\o\x7b\x7d is too large"
      else .ok (Char.ofNat value, rest)
  | _ => .error "non-hex character in \\x\x7b\x7d (closing brace missing?)"

def readName (close : Char) (text : Octets) : Read Octets := do
  let name := text.takeWhile Octets.isNamePart
  if name.isEmpty then throw "subpattern name expected"
  if name.head?.any Char.isDigit then throw "subpattern name must start with a non-digit"
  match text.drop name.length with
  | c :: rest =>
      if c = close then
        goOn rest
        return name
      throw "syntax error in subpattern name (missing terminator?)"
  | [] => throw "syntax error in subpattern name (missing terminator?)"

def groupNamed (name : Octets) : Read Nat := do
  match (← get).known with
  | none => return 0
  | some groups =>
      match groups.names.lookup name with
      | some index => return index
      | none => throw "reference to non-existent subpattern"

def groupNumbered (index : Nat) : Read Nat := do
  match (← get).known with
  | none => return index
  | some groups =>
      if groups.count < index then throw "reference to non-existent subpattern"
      return index

def againOf (index : Nat) : Read Expression := do
  return .again index (← get).flags.foldsCase

/-- The group that a text names by its number, perhaps counted from here, or by its name. -/
def groupOf (text : Octets) : Read Nat := do
  let count := (← get).groups.count
  match text with
  | '-' :: digits =>
      match Octets.number? digits with
      | some n =>
          if n = 0 || count < n then throw "reference to non-existent subpattern"
          groupNumbered (count + 1 - n)
      | none => throw "a relative value of zero is not allowed"
  | '+' :: digits =>
      match Octets.number? digits with
      | some n => groupNumbered (count + n)
      | none => throw "a relative value of zero is not allowed"
  | text =>
      match Octets.number? text with
      | some n => groupNumbered n
      | none => groupNamed text

/-- A text up to a closing mark; what is behind that is gone on with. -/
def readUntil (close : Char) (text : Octets) : Read Octets := do
  let inside := text.takeWhile (· ≠ close)
  if inside.length = text.length then
    throw "syntax error in subpattern name (missing terminator?)"
  goOn (text.drop (inside.length + 1))
  return inside

/-- What an escape stands for that is the same inside and outside of sets. -/
inductive Escape where
  | character (c : Char)
  | kind (ranges : Characters)

def kind? (c : Char) : Option Characters :=
  match c with
  | 'd' => some digits
  | 'D' => some (complement digits)
  | 'w' => some wordParts
  | 'W' => some (complement wordParts)
  | 's' => some spaces
  | 'S' => some (complement spaces)
  | 'h' => some horizontal
  | 'H' => some (complement horizontal)
  | 'v' => some vertical
  | 'V' => some (complement vertical)
  | _ => none

/-- The character that a letter behind a backslash stands for. -/
def control? (c : Char) : Option Char :=
  match c with
  | 'a' => some '\x07'
  | 'e' => some '\x1b'
  | 'f' => some '\x0c'
  | 'n' => some '\n'
  | 'r' => some '\r'
  | 't' => some '\t'
  | _ => none

def readProperty (text : Octets) : Except String (String × Bool × Octets) :=
  match text with
  | '\x7b' :: rest =>
      let inside := rest.takeWhile (· ≠ '\x7d')
      let (negated, name) := match inside with
        | '^' :: name => (true, name)
        | name => (false, name)
      if inside.length = rest.length then .error "malformed \\P or \\p sequence"
      else
        let name := name.filter fun c => !Octets.isBlank c && c ≠ '_' && c ≠ '-'
        .ok (String.ofList name, negated, rest.drop (inside.length + 1))
  | c :: rest => .ok (String.ofList [c], false, rest)
  | [] => .error "malformed \\P or \\p sequence"

/-- What is said of a letter that stands for nothing behind a backslash. -/
def unsupported (c : Char) : String :=
  if ['F', 'L', 'l', 'U', 'u'].contains c then
    "PCRE2 does not support \\F, \\L, \\l, \\N\x7bname\x7d, \\U, or \\u"
  else "unrecognized character follows \\"

/-- Reads what is behind a backslash, as far as it is the same inside and outside of sets. -/
def readEscape (c : Char) (rest : Octets) : Read Escape := do
  let found (escape : Escape) (rest : Octets) : Read Escape := do
    goOn rest
    return escape
  match kind? c, control? c with
  | some ranges, _ => found (.kind ranges) rest
  | none, some c => found (.character c) rest
  | none, none =>
      match c, rest with
      | 'x', '\x7b' :: digits => do
          let (c, rest) ← readBraced 16 digits
          found (.character c) rest
      | 'x', rest => do
          let (value, rest) := readDigits 16 2 0 rest
          found (.character (Char.ofNat value)) rest
      | 'o', '\x7b' :: digits => do
          let (c, rest) ← readBraced 8 digits
          found (.character c) rest
      | 'o', _ => throw "missing opening brace after \\o"
      | 'c', letter :: rest =>
          found (.character (Char.ofNat (letter.toUpper.toNat ^^^ 64))) rest
      | 'c', [] => throw "\\c at end of pattern"
      | 'p', rest => property false rest found
      | 'P', rest => property true rest found
      | c, rest =>
          if '0' ≤ c && c ≤ '7' then
            let (value, rest) := readDigits 8 3 0 (c :: rest)
            found (.character (Char.ofNat (value % 256))) rest
          else if c.isAlphanum then throw (unsupported c)
          else found (.character c) rest
where
  property (negated : Bool) (rest : Octets) (found : Escape → Octets → Read Escape) :
      Read Escape := do
    let (name, inverse, rest) ← readProperty rest
    match property? name with
    | some ranges => found (.kind (unlessNot (negated != inverse) ranges)) rest
    | none => throw "unknown property after \\P or \\p"

/-! ## Sets -/

/-- A part of a set: a character, which may start or end a range, or characters of a kind. -/
inductive Member where
  | character (c : Char)
  | kind (ranges : Characters)
  | nothing

def readMember (c : Char) (rest : Octets) : Read Member := do
  match c, rest with
  | '[', ':' :: behind =>
      let inside := behind.takeWhile fun c => c ≠ ':' && c ≠ ']' && c ≠ '\\'
      match behind.drop inside.length with
      | ':' :: ']' :: rest =>
          let (negated, name) := match inside with
            | '^' :: name => (true, name)
            | name => (false, name)
          goOn rest
          match classNamed? (String.ofList name) with
          | some ranges => return .kind (unlessNot negated ranges)
          | none => throw "unknown POSIX class name"
      | _ =>
          goOn rest
          return .character '['
  | '\\', 'b' :: rest =>
      goOn rest
      return .character '\x08'
  | '\\', 'E' :: rest =>
      goOn rest
      return .nothing
  | '\\', c :: rest =>
      if ['B', 'R', 'X'].contains c then
        throw "escape sequence is invalid in character class"
      if c = 'N' then throw "\\N is not supported in a class"
      match ← readEscape c rest with
      | .character c => return .character c
      | .kind ranges => return .kind ranges
  | '\\', [] => throw "\\ at end of pattern"
  | c, rest =>
      goOn rest
      return .character c

def readMembers : (fuel : Nat) → (isFirst : Bool) → Characters → Read Characters
  | 0, _, _ => throw "missing terminating ] for character class"
  | fuel + 1, isFirst, ranges => do
      match (← get).rest with
      | [] => throw "missing terminating ] for character class"
      | ']' :: rest =>
          if isFirst then
            goOn rest
            range fuel ranges ']'
          else
            goOn rest
            return ranges
      | '\\' :: 'Q' :: rest =>
          let (inside, rest) := quotation rest.length rest
          goOn rest
          readMembers fuel false (ranges ++ inside.map fun c => (c, c))
      | c :: rest =>
          match ← readMember c rest with
          | .character c => range fuel ranges c
          | .kind more =>
              match (← get).rest with
              | '-' :: d :: _ => if d ≠ ']' then throw "invalid range in character class"
              | _ => pure ()
              readMembers fuel false (ranges ++ more)
          | .nothing => readMembers fuel isFirst ranges
where
  range (fuel : Nat) (ranges : Characters) (first : Char) : Read Characters := do
    match (← get).rest with
    | '-' :: c :: rest =>
        if c = ']' then readMembers fuel false (ranges ++ one first)
        else
          match ← readMember c rest with
          | .character last =>
              if last < first then throw "range out of order in character class"
              readMembers fuel false (ranges ++ [(first, last)])
          | .kind _ => throw "invalid range in character class"
          | .nothing => readMembers fuel false (ranges ++ one first)
    | _ => readMembers fuel false (ranges ++ one first)
  quotation : (fuel : Nat) → Octets → Octets × Octets
    | 0, text => (text, [])
    | _, '\\' :: 'E' :: rest => ([], rest)
    | fuel + 1, c :: rest =>
        let (inside, rest) := quotation fuel rest
        (c :: inside, rest)
    | _, [] => ([], [])

def readSet : Read Expression := do
  let text := (← get).rest
  let (negated, text) := match text with
    | '^' :: rest => (true, rest)
    | rest => (false, rest)
  goOn text
  let ranges ← readMembers (text.length + 1) true []
  let ranges := if (← get).flags.foldsCase then inBothCases ranges else ranges
  return .characters (unlessNot negated ranges)

/-! ## Lengths -/

/-- How many characters an expression matches, if it always matches as many. -/
def length? : Expression → Option Nat
  | .empty => some 0
  | .never => some 0
  | .characters _ => some 1
  | .place _ => some 0
  | .group _ body => length? body
  | .again _ _ => none
  | .sequence first second => do return (← length? first) + (← length? second)
  | .alternative first second => do
      let n ← length? first
      if (← length? second) = n then some n else none
  | .repeated body least most _ => do
      let n ← length? body
      if most = some least then some (n * least) else none
  | .atomic body => length? body
  | .ahead _ _ => some 0
  | .behind _ _ _ => some 0
  | .choice _ yes no => do
      let n ← length? yes
      if (← length? no) = n then some n else none
  | .test _ yes no => do
      let n ← length? yes
      if (← length? no) = n then some n else none
  | .call _ => none
  | .keep => some 0

def lengths? : Expression → Option (List Nat)
  | .alternative first second => do return (← lengths? first) ++ (← lengths? second)
  | expression => (length? expression).map ([·])

/-! ## Repetitions -/

def readCount : Read (Option (Nat × Option Nat)) := do
  let text := (← get).rest
  match text with
  | '*' :: rest =>
      goOn rest
      return some (0, none)
  | '+' :: rest =>
      goOn rest
      return some (1, none)
  | '?' :: rest =>
      goOn rest
      return some (0, some 1)
  | '\x7b' :: rest =>
      let least := rest.takeWhile Char.isDigit
      if least.isEmpty then return none
      let number (digits : Octets) : Read Nat := do
        let n := Octets.valueOf digits
        if 65535 < n then throw "number too big in \x7b\x7d quantifier"
        return n
      match rest.drop least.length with
      | '\x7d' :: rest =>
          goOn rest
          let n ← number least
          return some (n, some n)
      | ',' :: rest =>
          let most := rest.takeWhile Char.isDigit
          match rest.drop most.length with
          | '\x7d' :: rest =>
              let n ← number least
              goOn rest
              if most.isEmpty then return some (n, none)
              let m ← number most
              if m < n then throw "numbers out of order in \x7b\x7d quantifier"
              return some (n, some m)
          | _ => return none
      | _ => return none
  | _ => return none

def readRepetition (body : Expression) : Read Expression := do
  match ← readCount with
  | none => return body
  | some (least, most) =>
      match (← get).rest with
      | '?' :: rest =>
          goOn rest
          return .repeated body least most .modest
      | '+' :: rest =>
          goOn rest
          return .repeated body least most .final
      | _ => return .repeated body least most .greedy

def passSpace : (fuel : Nat) → Read Unit
  | 0 => return
  | fuel + 1 => do
      let reading ← get
      match reading.rest with
      | '(' :: '?' :: '#' :: rest =>
          let inside := rest.takeWhile (· ≠ ')')
          if inside.length = rest.length then throw "missing ) after (?# comment"
          goOn (rest.drop (inside.length + 1))
          passSpace fuel
      | '\\' :: 'E' :: rest =>
          goOn rest
          passSpace fuel
      | c :: rest =>
          if reading.flags.isSpaced && Octets.isSpace c then
            goOn rest
            passSpace fuel
          else if reading.flags.isSpaced && c = '#' then
            goOn (rest.dropWhile (· ≠ '\n'))
            passSpace fuel
      | [] => return

/-! ## Groups -/

def changedFlags (flags : Flags) : (turnsOn : Bool) → Octets → Option Flags
  | _, [] => some flags
  | _, '-' :: rest => changedFlags flags false rest
  | turnsOn, c :: rest => do
      let flags ← changedFlags flags turnsOn rest
      match c with
      | 'i' => some { flags with foldsCase := turnsOn }
      | 'm' => some { flags with perLine := turnsOn }
      | 's' => some { flags with dotsMatchAll := turnsOn }
      | 'x' => some { flags with isSpaced := turnsOn }
      | 'n' => some { flags with groupsNothing := turnsOn }
      | 'J' => some flags
      | 'U' => some flags
      | _ => none

def numbered (name : Option Octets) (body : Read Expression) : Read Expression := do
  let reading ← get
  let index := reading.groups.count + 1
  if let some name := name then
    if (reading.groups.names.lookup name).isSome then
      throw "two named subpatterns have the same name (PCRE2_DUPNAMES not set)"
  let names := match name with
    | some name => (name, index) :: reading.groups.names
    | none => reading.groups.names
  set { reading with groups := ⟨index, names⟩ }
  return .group index (← body)

def closed (whole : Read Expression) : Read Expression := do
  let flags := (← get).flags
  let body ← whole
  match (← get).rest with
  | ')' :: rest =>
      goOn rest
      modify fun reading => { reading with flags }
      return body
  | _ => throw "missing closing parenthesis"

def readBehind (wanted : Bool) (rest : Octets) (whole : Read Expression) : Read Expression := do
  goOn rest
  let body ← closed whole
  match lengths? body with
  | some lengths => return .behind wanted lengths.eraseDups body
  | none => throw "lookbehind assertion is not fixed length"

def branches : Expression → Read (Expression × Expression)
  | .alternative _ (.alternative _ _) =>
      throw "conditional subpattern contains more than two branches"
  | .alternative yes no => return (yes, no)
  | yes => return (yes, .empty)

def readChoice (rest : Octets) (whole : Read Expression) : Read Expression := do
  match rest with
  | '?' :: _ =>
      goOn ('(' :: rest)
      let condition ← match rest with
        | '?' :: '=' :: rest => do
            goOn rest
            pure (Expression.ahead true (← closed whole))
        | '?' :: '!' :: rest => do
            goOn rest
            pure (.ahead false (← closed whole))
        | '?' :: '<' :: '=' :: rest => readBehind true rest whole
        | '?' :: '<' :: '!' :: rest => readBehind false rest whole
        | _ => throw "assertion expected after (?( or (?(?C)"
      let (yes, no) ← branches (← closed whole)
      return .test condition yes no
  | rest =>
      let name ← readUntil ')' rest
      let name := match name with
        | '<' :: more => more.dropLast
        | '\'' :: more => more.dropLast
        | name => name
      let index ← groupOf name
      let (yes, no) ← branches (← closed whole)
      return .choice index yes no

/-- Branches that all start to count groups anew. -/
def readReset (isLast : Read Bool) (branch : Read Expression) :
    (fuel : Nat) → (start most : Nat) → Read Expression
  | 0, _, _ => throw "missing closing parenthesis"
  | fuel + 1, start, most => do
      modify fun reading => { reading with groups := { reading.groups with count := start } }
      let first ← branch
      let most := max most (← get).groups.count
      if ← isLast then
        modify fun reading => { reading with groups := { reading.groups with count := most } }
        return first
      return .alternative first (← readReset isLast branch fuel start most)

def readFlags (rest : Octets) (whole : Read Expression) : Read Expression := do
  let isLetter (c : Char) : Bool := c.isAlpha || c = '-' || c = '^'
  let letters := rest.takeWhile isLetter
  let flags := (← get).flags
  let (start, behind) := match letters with
    | '^' :: more => ({ flags with
        foldsCase := false
        perLine := false
        dotsMatchAll := false
        isSpaced := false }, more)
    | letters => (flags, letters)
  match changedFlags start true behind, rest.drop letters.length with
  | some changed, ')' :: rest =>
      goOn rest
      modify fun reading => { reading with flags := changed }
      return .empty
  | some changed, ':' :: rest =>
      goOn rest
      let body ← closed do
        modify fun reading => { reading with flags := changed }
        whole
      modify fun reading => { reading with flags }
      return body
  | some _, [] => throw "missing closing parenthesis"
  | _, _ => throw "unrecognized character after (? or (?-"

def readVerb (rest : Octets) : Read Expression := do
  let inside := rest.takeWhile (· ≠ ')')
  if inside.length = rest.length then throw "missing closing parenthesis"
  goOn (rest.drop (inside.length + 1))
  match String.ofList inside with
  | "F" => return .never
  | "FAIL" => return .never
  | "UTF" => return .empty
  | "UTF8" => return .empty
  | "UCP" => return .empty
  | "ANYCRLF" => return .empty
  | "COMMIT" => return .empty
  | "PRUNE" => return .empty
  | "SKIP" => return .empty
  | "THEN" => return .empty
  | _ => throw "(*VERB) not recognized or malformed"

def readGroup (whole : Read Expression) (branch : Read Expression) : Read Expression := do
  let text := (← get).rest
  let plainly (rest : Octets) (make : Expression → Expression) : Read Expression := do
    goOn rest
    return make (← closed whole)
  let called (rest : Octets) (close : Char) : Read Expression := do
    let name ← readUntil close rest
    return .call (← groupOf name)
  let namedBy (rest : Octets) (close : Char) : Read Expression := do
    let name ← readName close rest
    numbered (some name) (closed whole)
  match text with
  | '*' :: rest => readVerb rest
  | '?' :: rest =>
      match rest with
      | ':' :: rest => plainly rest id
      | '>' :: rest => plainly rest .atomic
      | '=' :: rest => plainly rest (.ahead true)
      | '!' :: rest => plainly rest (.ahead false)
      | '<' :: '=' :: rest => readBehind true rest whole
      | '<' :: '!' :: rest => readBehind false rest whole
      | '|' :: rest =>
          goOn rest
          let start := (← get).groups.count
          closed (readReset isLast branch (rest.length + 1) start start)
      | '<' :: rest => namedBy rest '>'
      | '\'' :: rest => namedBy rest '\''
      | 'P' :: '<' :: rest => namedBy rest '>'
      | 'P' :: '=' :: rest => do
          let name ← readUntil ')' rest
          againOf (← groupNamed name)
      | 'P' :: '>' :: rest => called rest ')'
      | '&' :: rest => called rest ')'
      | 'R' :: ')' :: rest => do
          goOn rest
          return .call 0
      | '(' :: rest => readChoice rest whole
      | c :: d :: rest =>
          if c.isDigit || ((c = '+' || c = '-') && d.isDigit) then called (c :: d :: rest) ')'
          else readFlags (c :: d :: rest) whole
      | rest => readFlags rest whole
  | rest =>
      goOn rest
      if (← get).flags.groupsNothing then closed whole else numbered none (closed whole)
where
  /-- No further branch follows; the sign before one is passed over. -/
  isLast : Read Bool := do
    match (← get).rest with
    | '|' :: rest =>
        goOn rest
        return false
    | _ => return true

/-! ## Whole expressions -/

/-- An escape that stands for more than a character outside of sets. -/
def readBackslash (text : Octets) : Read Expression := do
  let place (rest : Octets) (place : Place) : Read Expression := do
    goOn rest
    return .place place
  match text with
  | [] => throw "\\ at end of pattern"
  | 'b' :: rest => place rest .wordEdge
  | 'B' :: rest => place rest .noWordEdge
  | 'A' :: rest => place rest .textStart
  | 'Z' :: rest => place rest .lastLineEnd
  | 'z' :: rest => place rest .textEnd
  | 'G' :: rest => place rest .searchStart
  | 'K' :: rest => do
      goOn rest
      return .keep
  | 'Q' :: rest => do
      let (inside, rest) := readMembers.quotation rest.length rest
      goOn rest
      inside.foldrM (fun c behind => do
        return .sequence (← charactersOf (one c)) behind) .empty
  | 'N' :: rest => do
      if rest.head? = some '\x7b' then throw (unsupported 'u')
      goOn rest
      return .characters inLine
  | 'C' :: rest => do
      goOn rest
      return .characters all
  | 'X' :: rest => do
      goOn rest
      return .characters all
  | 'R' :: rest => do
      goOn rest
      return .atomic (.alternative
        (.sequence (.characters (one '\r')) (.characters (one '\n'))) (.characters vertical))
  | 'g' :: '<' :: rest => do
      let name ← readUntil '>' rest
      return .call (← groupOf name)
  | 'g' :: '\'' :: rest => do
      let name ← readUntil '\'' rest
      return .call (← groupOf name)
  | 'g' :: '\x7b' :: rest => do
      let name ← readUntil '\x7d' rest
      againOf (← groupOf name)
  | 'g' :: rest => do
      let sign := rest.takeWhile fun c => c = '-' || c = '+'
      let number := (rest.drop sign.length).takeWhile Char.isDigit
      if number.isEmpty then
        throw ("a numbered reference must not be zero")
      goOn (rest.drop (sign.length + number.length))
      againOf (← groupOf (sign ++ number))
  | 'k' :: '<' :: rest => do
      let name ← readUntil '>' rest
      againOf (← groupNamed name)
  | 'k' :: '\'' :: rest => do
      let name ← readUntil '\'' rest
      againOf (← groupNamed name)
  | 'k' :: '\x7b' :: rest => do
      let name ← readUntil '\x7d' rest
      againOf (← groupNamed name)
  | 'k' :: _ =>
      throw "\\k is not followed by a braced, angle-bracketed, or quoted name"
  | c :: rest => do
      let number := (c :: rest).takeWhile Char.isDigit
      let value := Octets.valueOf number
      let count := ((← get).known.getD (← get).groups).count
      if c ≠ '0' && c.isDigit && (value < 10 || value ≤ count) then
        goOn ((c :: rest).drop number.length)
        againOf (← groupNumbered value)
      else
        match ← readEscape c rest with
        | .character c => charactersOf (one c)
        | .kind ranges => return .characters ranges

def readAtom (whole : Read Expression) (branch : Read Expression) : Read Expression := do
  let reading ← get
  let flags := reading.flags
  match reading.rest with
  | [] => return .empty
  | '\\' :: rest => readBackslash rest
  | '[' :: rest => do
      goOn rest
      readSet
  | '(' :: rest => do
      goOn rest
      readGroup whole branch
  | '.' :: rest => do
      goOn rest
      return .characters (if flags.dotsMatchAll then all else inLine)
  | '^' :: rest => do
      goOn rest
      return .place (if flags.perLine then .lineStart else .textStart)
  | '$' :: rest => do
      goOn rest
      return .place (if flags.perLine then .lineEnd
        else if flags.endsBeforeFeed then .lastLineEnd
        else .textEnd)
  | c :: rest => do
      if ['*', '+', '?'].contains c then
        throw "quantifier does not follow a repeatable item"
      if c = '\x7b' && (← readCount).isSome then
        throw "quantifier does not follow a repeatable item"
      goOn rest
      charactersOf (one c)

def readBranch (whole : Read Expression) (branch : Read Expression) : (fuel : Nat) →
    Read Expression
  | 0 => return .empty
  | fuel + 1 => do
      passSpace ((← get).rest.length + 1)
      match (← get).rest with
      | [] => return .empty
      | '|' :: _ => return .empty
      | ')' :: _ => return .empty
      | _ =>
          let atom ← readAtom whole branch
          passSpace ((← get).rest.length + 1)
          let first ← match atom with
            | .empty => pure .empty
            | .sequence head rest => repeatLast (.sequence head rest)
            | atom => readRepetition atom
          return .sequence first (← readBranch whole branch fuel)
where
  repeatLast : Expression → Read Expression
    | .sequence first .empty => do return .sequence (← readRepetition first) .empty
    | .sequence first rest => do return .sequence first (← repeatLast rest)
    | expression => return expression

/-- A whole expression, or one in parentheses, nested at most `fuel` deep. -/
def readWhole : (fuel : Nat) → Read Expression
  | 0 => throw "parentheses are too deeply nested"
  | fuel + 1 => do
      let branch := branchWithin fuel
      let first ← branch
      match (← get).rest with
      | '|' :: rest => do
          goOn rest
          return .alternative first (← readWhole fuel)
      | _ => return first
where
  branchWithin : (fuel : Nat) → Read Expression
    | 0 => throw "parentheses are too deeply nested"
    | fuel + 1 => do
        readBranch (readWhole fuel) (branchWithin fuel) ((← get).rest.length + 1)

/-- The expression that a text writes, when the groups in it are known or not. -/
def readOnce (flags : Flags) (text : Octets) (known : Option Groups) :
    Except String (Expression × Groups) := do
  let (expression, reading) ←
    (readWhole (2 * text.length + 4)).run ⟨text, flags, ⟨0, []⟩, known⟩
  match reading.rest with
  | [] => return (expression, reading.groups)
  | _ => throw "unmatched closing parenthesis"

def ofText (flags : Flags) (text : Octets) : Except String (Expression × Groups) := do
  let (_, groups) ← readOnce flags text none
  readOnce flags text (some groups)

end BlockExtension.Shell.Ordered
