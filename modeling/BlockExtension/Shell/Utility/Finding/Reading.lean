import BlockExtension.Shell.Utility.Finding.Query
import BlockExtension.Shell.Utility.Test

/-!
# Reading queries

Queries as words. The words are first made into tokens, one for each test, action,
connective and parenthesis, and the tokens then into a query. Where nothing stands
between two queries, both must hold.
-/

namespace BlockExtension.Shell.Utility.Finding

open Act
open Calendar (Moment)

/-! ## Tokens -/

/-- How much a connective binds. -/
inductive Rank where
  | lowest
  | sequence
  | either
  | both
  | negation
  deriving DecidableEq, Repr

/-- Ranks in order. -/
def Rank.level : Rank → Nat
  | .lowest => 0
  | .sequence => 1
  | .either => 2
  | .both => 3
  | .negation => 4

/-- A word of a query with the words that belong to it. -/
inductive Token where
  | query (query : Query)
  | negation (word : Octets)
  | connective (word : Octets) (rank : Rank)
  /-- A parenthesis; it may be one that nobody has written, around all. -/
  | opening (isWritten : Bool)
  | closing (isWritten : Bool)

namespace Token

def endsQuery : Token → Bool
  | .query _ => true
  | .closing _ => true
  | _ => false

def startsQuery : Token → Bool
  | .query _ => true
  | .negation _ => true
  | .opening _ => true
  | _ => false

/-- The token as it is written if it needs a query behind it. -/
def word? : Option Token → Option Octets
  | some (.negation word) => some word
  | some (.connective word _) => some word
  | _ => none

end Token

def connective? (word : Octets) : Option Token :=
  match String.ofList word with
  | "-a" => some (.connective word .both)
  | "-and" => some (.connective word .both)
  | "-o" => some (.connective word .either)
  | "-or" => some (.connective word .either)
  | "," => some (.connective word .sequence)
  | "!" => some (.negation word)
  | "-not" => some (.negation word)
  | "(" => some (.opening true)
  | ")" => some (.closing true)
  | _ => none

/-- Tokens with a connective between two queries that have none between them. -/
def joined : List Token → List Token
  | first :: second :: rest =>
      if first.endsQuery && second.startsQuery then
        first :: .connective "-a".toList .both :: joined (second :: rest)
      else first :: joined (second :: rest)
  | tokens => tokens

/-- Two queries with a connective of some rank between them. -/
def combined (rank : Rank) (first second : Query) : Query :=
  match rank with
  | .sequence => .sequence first second
  | .either => .either first second
  | _ => .both first second

/-- What is said of a parenthesis that is not closed. -/
def unclosed : Octets :=
  "invalid expression; I was expecting to find a ')' somewhere but did not see one.".toList

mutual

/--
The query that tokens start with, up to a connective that binds no more than a
rank, and the tokens behind it; `before` is the token in front.
-/
def expression : (fuel : Nat) → List Token → Rank → (before : Option Token) →
    Except Octets (Query × List Token)
  | 0, _, _, _ => .error "invalid expression".toList
  | fuel + 1, tokens, rank, before => do
      let (first, rest) ← match tokens with
        | [] => .error "invalid expression".toList
        | .connective word _ :: _ =>
            .error ("invalid expression; you have used a binary operator '".toList ++ word ++
              "' with nothing before it.".toList)
        | .closing isWritten :: _ =>
            match Token.word? before, isWritten with
            | some word, true =>
                .error ("expected an expression between ".toList ++ quoted word ++
                  " and ')'".toList)
            | word, false =>
                .error ("expected an expression after ".toList ++ quoted (word.getD []))
            | none, true => .error "invalid expression; you have too many ')'".toList
        | .query query :: rest => .ok (query, rest)
        | .negation word :: rest => do
            let (query, rest) ← expression fuel rest .negation (some (.negation word))
            .ok (.negation query, rest)
        | .opening isWritten :: rest => do
            match rest with
            | [] => .error lonely
            | .closing false :: _ => .error lonely
            | .closing true :: _ =>
                if isWritten then
                  .error "invalid expression; empty parentheses are not allowed.".toList
                else
                  .error ("invalid expression: expected expression before closing " ++
                    "parentheses ')'.").toList
            | rest =>
                match ← expression fuel rest .lowest (some (.opening isWritten)) with
                | (query, .closing _ :: rest) => .ok (query, rest)
                | _ => .error unclosed
      further fuel first rest rank
where
  /-- What is said of a parenthesis at the end. -/
  lonely : Octets :=
    ("invalid expression; expected to find a ')' but didn't see one. Perhaps you need an " ++
      "extra predicate after '('").toList

/-- A query with all behind it that is bound to it by a connective above a rank. -/
def further : (fuel : Nat) → Query → List Token → Rank →
    Except Octets (Query × List Token)
  | 0, query, tokens, _ => .ok (query, tokens)
  | fuel + 1, query, tokens, rank =>
      match tokens with
      | .connective word own :: rest =>
          if own.level ≤ rank.level then .ok (query, tokens)
          else do
            let (second, rest) ← expression fuel rest own (some (.connective word own))
            further fuel (combined own query second) rest rank
      | _ => .ok (query, tokens)

end

/-- The query that tokens are; if it has no action the paths are written for which it holds. -/
def Query.ofTokens (tokens : List Token) : Except Octets Query := do
  let acts := tokens.any fun token =>
    match token with
    | .query query => query.acts
    | _ => false
  let usual : Query := .write .standard ['\n']
  if tokens.isEmpty then return usual
  let wrapped := if acts then tokens
    else .opening false :: tokens ++ [.closing false, .query usual]
  let all := joined wrapped
  match ← expression (2 * all.length + 2) all .lowest none with
  | (query, []) => return query
  | (_, .closing _ :: _) => .error "you have too many ')'".toList
  | _ => .error "unexpected extra predicate".toList

/-! ## Values -/

/-- What is left of a query to be read, and what has been found out about the search. -/
structure Reading where
  rest : List Octets
  extent : Extent
  last : Option Octets
  commands : Nat

/-- A step of reading a query; what is wrong with it is said in one or two lines. -/
abbrev Read := StateT Reading (ExceptT (List Octets) Act)

def refuse {α : Type} (text : Octets) : Read α := throw [text]

/-- Something that is found out about what there is. -/
def lookUp {α : Type} (act : Act α) : Read α := StateT.lift (ExceptT.lift act)

/-- The next word, which an option needs. -/
def value (option : Octets) : Read Octets := do
  let reading ← get
  match reading.rest with
  | word :: rest =>
      set { reading with rest }
      return word
  | [] => refuse ("missing argument to \x60".toList ++ option ++ ['\''])

def refuseValue {α : Type} (option text : Octets) : Read α :=
  refuse ("invalid argument \x60".toList ++ text ++ "' to \x60".toList ++ option ++ ['\''])

/-- The number with a sign that compares. -/
def bound? : Octets → Option Bound
  | '+' :: digits => (Octets.number? digits).map .above
  | '-' :: digits => (Octets.number? digits).map .below
  | digits => (Octets.number? digits).map .exactly

/-- The number that an option asks for. -/
def boundValue (option : Octets) : Read Bound := do
  let text ← value option
  match bound? text with
  | some bound => return bound
  | none => refuseValue option text

def depthValue (option : Octets) : Read Nat := do
  let text ← value option
  match Octets.number? text with
  | some n => return n
  | none =>
      refuse ("Expected a positive decimal integer argument to ".toList ++ option ++
        ", but got ".toList ++ quoted text)

/-- Changes what holds of the whole search. -/
def extend (change : Extent → Extent) : Read Query := do
  modify fun reading => { reading with extent := change reading.extent }
  return .answer true

def sizeQuery (text : Octets) : Read Query := do
  let some last := text.getLast? | refuse "invalid null argument to -size".toList
  let unit? : Option Nat := match last with
    | 'c' => some 1
    | 'w' => some 2
    | 'b' => some 512
    | 'k' => some 1024
    | 'M' => some 1048576
    | 'G' => some 1073741824
    | last => if last.isDigit then some 512 else none
  let some unit := unit? | refuse ("invalid -size type \x60".toList ++ [last, '\''])
  match bound? (if last.isDigit then text else text.dropLast) with
  | some bound => return .size unit bound
  | none => refuse ("Invalid argument \x60".toList ++ text ++ "' to -size".toList)

def permissionQuery (text : Octets) : Read Query := do
  let (sharing, mode) := match text with
    | '-' :: mode => (Sharing.all, mode)
    | '/' :: mode => (Sharing.any, mode)
    | mode => (Sharing.exactly, mode)
  match Permission.Mode.ofText? mode with
  | some mode => return .permission sharing (mode.changed false 0 0) (mode.changed true 0 0)
  | none => refuse ("invalid mode ".toList ++ quoted text)

def kindLetters (option text : Octets) : Read (List Char) := do
  if text.isEmpty then
    refuse ("Arguments to ".toList ++ option ++ " should contain at least one letter".toList)
  let rec read (known : List Char) : Octets → Read (List Char)
    | [] => return known
    | letter :: rest => do
        if letter = 'D' then
          refuse (option ++ (" D is not supported because Solaris doors are not supported on " ++
            "the platform find was compiled on.").toList)
        if !"bcdpfls".toList.contains letter then
          refuse ("Unknown argument to ".toList ++ option ++ ": ".toList ++ [letter])
        if known.contains letter then
          refuse ("Duplicate file type '".toList ++ letter :: "' in the argument list to ".toList ++
            option ++ ['.'])
        match rest with
        | [] => return letter :: known
        | [','] =>
            refuse ("Last file type in list argument to ".toList ++ option ++
              " is missing, i.e., list is ending on: ','".toList)
        | ',' :: more => read (letter :: known) more
        | _ =>
            refuse ("Must separate multiple arguments to ".toList ++ option ++
              " using: ','".toList)
  read [] text

/-! ## Times -/

def nanosOf? (unit : Nat) (text : Octets) : Option Int :=
  let whole := text.takeWhile Char.isDigit
  let behind := text.drop whole.length
  let fraction := match behind with
    | '.' :: digits => some digits
    | [] => some []
    | _ => none
  match fraction with
  | some digits =>
      if (whole.isEmpty && digits.isEmpty) || !digits.all Char.isDigit then none
      else
        let size := unit * 1000000000
        some (Octets.valueOf whole * size +
          Octets.valueOf (digits.take 9) * size / Decimal.tenPow (min digits.length 9) : Nat)
  | none => none

/--
The times of files that a number of units asks for, at a time that stands for now.
Whole days are counted from a day before it, for times less than so long ago from
the last second of that day on.
-/
def Period.ofText? (unit : Nat) (inDays : Bool) (now : Int) (text : Octets) : Option Period :=
  let second : Int := 1000000000
  let length := unit * second
  let start := if inDays then now - length else now
  match text with
  | '-' :: count =>
      (nanosOf? unit count).map fun ago =>
        .after ((if inDays then start + length - second else start) - ago)
  | '+' :: count => (nanosOf? unit count).map fun ago => .before (start - ago)
  | count => (nanosOf? unit count).map fun ago => .within (start - ago) length

/-- The time that is now, or the end of the day if times are counted from there. -/
def countedFrom : Read Int := do
  let now : Int := (← lookUp get).now
  if !(← get).extent.wholeDays then return now
  let moment := Moment.ofNanos now
  return ((moment.seconds - moment.timeOfDay + 86400) * 1000000000 : Int)

/-- The files that have been written within some time. -/
def periodQuery (unit : Nat) (inDays : Bool) (option : Octets) : Read Query := do
  let text ← value option
  match Period.ofText? unit inDays (← countedFrom) text with
  | some period => return .written period
  | none => refuseValue option text

/-- What a path leads to, which must be there. -/
def lookedUpAt (path : Octets) : Read (Files.Location × Files.Entry) := do
  let follows := (← get).extent.deref ≠ .never
  match ← lookUp (Entries.lookedUp follows path) with
  | .ok found => return found
  | .error error => refuse (quoted path ++ (": " ++ error.wording).toList)

/-- The files that have been written after the one that a path leads to. -/
def newerQuery (path : Octets) : Read Query := do
  let (location, _) ← lookedUpAt path
  return .written (.after ((← lookUp get).timeOf location))

def newerThan (option : Octets) (ours theirs : Char) : Read Query := do
  let refuseOption : Read Query := do
    let invalid := "invalid predicate \x60".toList ++ option ++ ['\'']
    if ours = 'B' then
      throw ["This system does not provide a way to find the birth time of a file.".toList, invalid]
    refuse invalid
  if !"acm".toList.contains ours || !"acm".toList.contains theirs then return ← refuseOption
  newerQuery (← value option)

/-! ## Owners -/

def users : List (String × Nat) :=
  [("root", 0), ("daemon", 1), ("bin", 2), ("sys", 3), ("sync", 4), ("games", 5), ("man", 6),
    ("lp", 7), ("mail", 8), ("news", 9), ("uucp", 10), ("proxy", 13), ("www-data", 33),
    ("backup", 34), ("list", 38), ("irc", 39), ("nobody", 65534)]

def groups : List (String × Nat) :=
  [("root", 0), ("daemon", 1), ("bin", 2), ("sys", 3), ("adm", 4), ("tty", 5), ("disk", 6),
    ("lp", 7), ("mail", 8), ("news", 9), ("uucp", 10), ("man", 12), ("proxy", 13), ("kmem", 15),
    ("users", 100), ("nogroup", 65534)]

def ownerQuery (isGroup : Bool) (option : Octets) : Read Query := do
  let text ← value option
  let known := if isGroup then groups else users
  match known.lookup (String.ofList text), Octets.number? text with
  | some number, _ => return .owner isGroup (.exactly number)
  | none, some number => return .owner isGroup (.exactly number)
  | none, none =>
      if text.isEmpty then
        refuse ("The argument to ".toList ++ option ++ " should not be empty".toList)
      refuse (quoted text ++ (if isGroup then " is not the name of an existing group"
        else " is not the name of a known user").toList)

/-! ## Regular expressions -/

def notations : List (String × Option Bool) :=
  [("findutils-default", none), ("ed", some false), ("emacs", none), ("gnu-awk", some true),
    ("grep", some false), ("posix-awk", some true), ("awk", some true),
    ("posix-basic", some false), ("posix-egrep", some true), ("egrep", some true),
    ("posix-extended", some true), ("posix-minimal-basic", some false), ("sed", some false)]

def bracketed (text : Octets) : Octets × Octets :=
  let (negation, behind) := match text with
    | '^' :: behind => (['^'], behind)
    | behind => ([], behind)
  let (first, behind) := match behind with
    | ']' :: behind => ([']'], behind)
    | behind => ([], behind)
  let inside := behind.takeWhile (· ≠ ']')
  match behind.drop inside.length with
  | _ :: rest => (negation ++ first ++ inside ++ [']'], rest)
  | [] => (negation ++ first ++ inside, [])

/--
An expression in the extended notation, of one in which parentheses and bars are
marks only behind a backslash, and braces never are.
-/
def extendedForm : (fuel : Nat) → (isFresh : Bool) → Octets → Octets
  | 0, _, text => text
  | _, _, [] => []
  | fuel + 1, _, '\\' :: c :: rest =>
      if c = '(' || c = '|' then c :: extendedForm fuel true rest
      else if c = ')' then c :: extendedForm fuel false rest
      else if c = '\x7b' || c = '\x7d' then '\\' :: c :: extendedForm fuel false rest
      else '\\' :: c :: extendedForm fuel false rest
  | fuel + 1, _, '[' :: rest =>
      let (inside, behind) := bracketed rest
      '[' :: inside ++ extendedForm fuel false behind
  | fuel + 1, isFresh, c :: rest =>
      if "()|\x7b\x7d".toList.contains c || (isFresh && "*+?".toList.contains c) then
        '\\' :: c :: extendedForm fuel false rest
      else c :: extendedForm fuel (isFresh && c = '^') rest

/-- The files whose whole path an expression matches. -/
def regexQuery (foldsCase : Bool) (option : Octets) : Read Query := do
  let text ← value option
  let isExtended := (notations.lookup (← get).extent.regexKind).getD none
  let read := match isExtended with
    | some isExtended => Regex.ofText isExtended true text
    | none => Regex.ofText true true (extendedForm (text.length + 1) true text)
  match read with
  | .ok regex => return .shape regex foldsCase
  | .error problem =>
      refuse ("failed to compile regular expression ".toList ++ quoted text ++ ": ".toList ++
        problem.message.toList)

def regexNotation (option : Octets) : Read Query := do
  let text ← value option
  let kind := String.ofList text
  if (notations.lookup kind).isSome then
    extend fun extent => { extent with regexKind := kind }
  else
    refuse ("Unknown regular expression type ".toList ++ quoted text ++
      "; valid types are ".toList ++
      Octets.joined ", ".toList (notations.map fun entry => quoted entry.1.toList) ++ ['.'])

/-! ## Actions -/

def pathMark : Octets := "\x7b\x7d".toList

/-- The words of a command; the flag says that it is run on all files at once. -/
def commandWords (option : Octets) (mayJoin : Bool) :
    (fuel : Nat) → List Octets → Read (List Octets × Bool)
  | 0, words => return (words, false)
  | fuel + 1, words => do
      let word ← value option
      if word = [';'] then return (words, false)
      if word = ['+'] && mayJoin && words.getLast? = some pathMark then
        return (words.dropLast, true)
      commandWords option mayJoin fuel (words ++ [word])

/-- Runs a command. -/
def runQuery (isInside asks : Bool) (option : Octets) : Read Query := do
  let (words, all) ← commandWords option (!asks) ((← get).rest.length + 1) []
  if words.isEmpty then refuseValue option (if all then ['+'] else [';'])
  if !all then return .run words isInside asks
  if words.contains pathMark then
    refuse ("Only one instance of \x7b\x7d is supported with ".toList ++ option ++
      " ... +".toList)
  let number := (← get).commands
  modify fun reading => { reading with commands := number + 1 }
  return .runOnAll number words isInside

/-- Opens the file that an action writes to. -/
def outletOf (option : Octets) : Read Outlet := do
  let path ← value option
  if path = "/dev/stdout".toList then return .standard
  match ← lookUp (openPath path .write) with
  | .ok place => return .channel place
  | .error error => refuse (quoted path ++ (": " ++ error.wording).toList)

def formatQuery (outlet : Outlet) (option : Octets) : Read Query := do
  let format ← value option
  match pieces (format.length + 1) format with
  | .error text => refuse text
  | .ok found =>
      lookUp (found.warnings.forM fun text =>
        complainAs "find".toList ("warning: ".toList ++ text))
      return .writeFormat outlet found.found

def nameQuery (foldsCase : Bool) (option : Octets) : Read Query :=
  return .name (← value option) foldsCase

def pathQuery (foldsCase : Bool) (option : Octets) : Read Query := do
  let pattern ← value option
  if 1 < pattern.length && pattern.getLast? = some '/' then
    lookUp (complainAs "find".toList ("warning: ".toList ++ option ++ ' ' :: pattern ++
      " will not match anything because it ends with /.".toList))
  return .path pattern foldsCase

/-! ## Tests and actions -/

/-- Options that change nothing of what is asked. -/
def indifferent : List String :=
  ["-mount", "-xdev", "-noleaf", "-warn", "-nowarn", "-ignore_readdir_race",
    "-noignore_readdir_race"]

/-- A test or an action, which starts with its name. -/
def primary (word : Octets) : Read Query := do
  match String.ofList word with
  | "-name" => nameQuery false word
  | "-iname" => nameQuery true word
  | "-path" => pathQuery false word
  | "-wholename" => pathQuery false word
  | "-ipath" => pathQuery true word
  | "-iwholename" => pathQuery true word
  | "-lname" => return .goal (← value word) false
  | "-ilname" => return .goal (← value word) true
  | "-regex" => regexQuery false word
  | "-iregex" => regexQuery true word
  | "-regextype" => regexNotation word
  | "-type" => return .kind (← kindLetters word (← value word))
  | "-xtype" => return .otherKind (← kindLetters word (← value word))
  | "-empty" => return .empty
  | "-size" => sizeQuery (← value word)
  | "-perm" => permissionQuery (← value word)
  | "-readable" => return .access "-r"
  | "-writable" => return .access "-w"
  | "-executable" => return .access "-x"
  | "-links" => return .names (← boundValue word)
  | "-inum" => return .serial (← boundValue word)
  | "-uid" => return .owner false (← boundValue word)
  | "-gid" => return .owner true (← boundValue word)
  | "-user" => ownerQuery false word
  | "-group" => ownerQuery true word
  | "-nouser" => return .answer false
  | "-nogroup" => return .answer false
  | "-samefile" => return .one (← lookedUpAt (← value word)).1
  | "-newer" => newerQuery (← value word)
  | "-anewer" => newerQuery (← value word)
  | "-cnewer" => newerQuery (← value word)
  | "-mtime" => periodQuery 86400 true word
  | "-atime" => periodQuery 86400 true word
  | "-ctime" => periodQuery 86400 true word
  | "-mmin" => periodQuery 60 false word
  | "-amin" => periodQuery 60 false word
  | "-cmin" => periodQuery 60 false word
  | "-used" => do
      let _ ← boundValue word
      return .answer false
  | "-fstype" => do
      let _ ← value word
      return .answer false
  | "-context" =>
      let _ ← value word
      refuse "invalid predicate -context: SELinux is not enabled.".toList
  | "-true" => return .answer true
  | "-false" => return .answer false
  | "-print" => return .write .standard ['\n']
  | "-print0" => return .write .standard ['\x00']
  | "-printf" => formatQuery .standard word
  | "-ls" => return .list .standard
  | "-fprint" => return .write (← outletOf word) ['\n']
  | "-fprint0" => return .write (← outletOf word) ['\x00']
  | "-fprintf" => formatQuery (← outletOf word) word
  | "-fls" => return .list (← outletOf word)
  | "-delete" => do
      let _ ← extend fun extent => { extent with inward := true }
      return .delete
  | "-prune" => return .prune
  | "-quit" => return .quit
  | "-exec" => runQuery false false word
  | "-execdir" => runQuery true false word
  | "-ok" => runQuery false true word
  | "-okdir" => runQuery true true word
  | "-depth" => extend fun extent => { extent with inward := true, asked := true }
  | "-d" => extend fun extent => { extent with inward := true, asked := true }
  | "-maxdepth" => do
      let most ← depthValue word
      extend fun extent => { extent with most }
  | "-mindepth" => do
      let least ← depthValue word
      extend fun extent => { extent with least }
  | "-follow" => extend fun extent => { extent with deref := .always }
  | "-daystart" => extend fun extent => { extent with wholeDays := true }
  | option =>
      if indifferent.contains option then return .answer true
      match Octets.behind? "-newer".toList word with
      | some [ours, theirs] => newerThan word ours theirs
      | _ => refuse ("unknown predicate \x60".toList ++ word ++ ['\''])

/-! ## Whole queries -/

/-- A word that no path can be behind the start of a query; at the start some more can be. -/
def startsQuery (isFirst : Bool) (word : Octets) : Bool :=
  match word with
  | ['-'] => false
  | '-' :: _ => true
  | [')'] => !isFirst
  | [','] => !isFirst
  | ['!'] => true
  | ['('] => true
  | _ => false

def tokens : (fuel : Nat) → Read (List Token)
  | 0 => return []
  | fuel + 1 => do
      let reading ← get
      match reading.rest with
      | [] => return []
      | word :: rest =>
          if !startsQuery false word then
            let early := "paths must precede expression: \x60".toList ++ word ++ ['\'']
            let isThere := (← lookUp (Entries.namedAt? word)).isSome
            match reading.last.filter fun _ => isThere with
            | some last =>
                throw [early, "possible unquoted pattern after predicate \x60".toList ++ last ++
                  "'?".toList]
            | none => refuse early
          set { reading with rest }
          match connective? word with
          | some token => return token :: (← tokens fuel)
          | none =>
              let query ← primary word
              modify fun reading => { reading with last := some word }
              return .query query :: (← tokens fuel)

def readQuery (deref : Deref) (words : List Octets) :
    Act (Except (List Octets) (Query × Extent)) := do
  match ← ((tokens (words.length + 1)).run ⟨words, .unasked deref, none, 0⟩).run with
  | .error complaints => return .error complaints
  | .ok (found, reading) =>
      match Query.ofTokens found with
      | .error text => return .error [text]
      | .ok query =>
          let extent := reading.extent
          if query.hasPart (·.deletes) && query.hasPart (·.prunes) && !extent.asked then
            return .error
              [("The -delete action automatically turns on -depth, but -prune does nothing " ++
                "when -depth is in effect.  If you want to carry on anyway, just explicitly " ++
                "use the -depth option.").toList]
          return .ok (query, extent)

end BlockExtension.Shell.Utility.Finding
