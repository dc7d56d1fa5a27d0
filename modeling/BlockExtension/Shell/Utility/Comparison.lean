import BlockExtension.Shell.Utility.Entries

/-!
# Comparing files

The program that says where two files differ first, and the one that says which
lines have to be taken out of one file and put into it to make the other of it.
-/

namespace BlockExtension.Shell.Utility

open Act

/-- Says where help is to be had, in a line that starts with the name of the program. -/
def pointToHelpAgain (self : Octets) : Act Unit :=
  complainAs self ("Try '".toList ++ self ++ " --help' for more information.".toList)

def refuseCall (self text : Octets) : Act Nat := do
  complainAs self text
  pointToHelpAgain self
  return 2

def comparable (self path : Octets) : Act (Option Octets) := do
  match ← inputOf path with
  | .content text => return some text
  | .unopened error =>
      complainAs self (path ++ (": " ++ error.wording).toList)
      return none
  | .unread error =>
      complainAs self (path ++ (": " ++ error.wording).toList)
      return none

/-! ## Octet by octet -/

namespace FirstDifference

def common : Octets → Octets → Nat
  | a :: first, b :: second => if a = b then common first second + 1 else 0
  | _, _ => 0

def octal (c : Char) : Octets := Octets.padLeft 3 (Nat.toDigits 8 c.toNat)

def octalAndPlain (c : Char) : Octets := octal c ++ [' ', c]

def places : Nat → Octets → Octets → List (Nat × Char × Char)
  | place, a :: first, b :: second =>
      let more := places (place + 1) first second
      if a = b then more else (place, a, b) :: more
  | _, _, _ => []

/-- Complains that a file ends too early. -/
def sayEnd (self name text : Octets) (counts : Bool) : Act Unit := do
  let lines := text.count '\n'
  let place :=
    if text.isEmpty then " which is empty"
    else if counts then s!" after byte {text.length}"
    else if text.getLast? = some '\n' then s!" after byte {text.length}, line {lines}"
    else s!" after byte {text.length}, in line {lines + 1}"
  complainAs self ("EOF on ".toList ++ name ++ place.toList)

/-- Compares two files octet by octet. -/
def cmp : Program := fun self arguments => do
  let rules := [switch "print-bytes" 'b', setting "ignore-initial" 'i', switch "verbose" 'l',
    setting "bytes" 'n', switch "quiet" 's', ⟨"silent", none, .nothing⟩]
  match takeApart rules true (arguments.length + 1) arguments with
  | .error text => refuseCall self text
  | .ok given =>
      match given.operands with
      | [] => refuseCall self ("missing operand after ".toList ++ quoted self)
      | first :: more => do
          let second := more.headD ['-']
          if let extra :: _ := more.drop 3 then
            return ← refuseCall self ("extra operand ".toList ++ quoted extra)
          if let value :: _ := (more.drop 1).filter fun text => (amount? text).isNone then
            return ← refuseCall self
              ("invalid --ignore-initial value ".toList ++ quoted value)
          let isQuiet := given.has "quiet" || given.has "silent"
          let read (name : Octets) : Act (Option Octets) := do
            if !isQuiet then return ← comparable self name
            match ← inputOf name with
            | .content text => return some text
            | _ => return none
          let some left ← read first | return 2
          let some right ← read second | return 2
          let skipped (n : Nat) : Nat := ((more[n]?).bind amount?).getD
            (((given.value? "ignore-initial").bind amount?).getD 0)
          let limit := (given.value? "bytes").bind amount?
          let cut (text : Octets) (n : Nat) : Octets :=
            match limit with
            | some most => (text.drop (skipped n)).take most
            | none => text.drop (skipped n)
          let left := cut left 1
          let right := cut right 2
          if left = right then return 0
          if isQuiet then return 1
          let same := common left right
          if given.has "verbose" then
            let found := places 1 left right
            let width := (Octets.ofNat (min left.length right.length)).length
            put (found.flatMap fun (place, a, b) =>
              let shown := if given.has "print-bytes" then octalAndPlain else octal
              Octets.padLeft width (Octets.ofNat place) ++ ' ' :: shown a ++ ' ' :: shown b ++
                ['\n'])
          else
            if let a :: _ := left.drop same then
              if let b :: _ := right.drop same then
                let line := (left.take same).count '\n' + 1
                let start := first ++ ' ' :: second
                if given.has "print-bytes" then
                  put (start ++ (s!" differ: byte {same + 1}, line {line} is ").toList ++
                    octalAndPlain a ++ ' ' :: octalAndPlain b ++ ['\n'])
                else put (start ++ (s!" differ: char {same + 1}, line {line}\n").toList)
                return 1
          if left.length < right.length then
            sayEnd self first left (given.has "verbose")
          else if right.length < left.length then
            sayEnd self second right (given.has "verbose")
          return 1

end FirstDifference

/-! ## Line by line -/

namespace LineDifference

abbrev Line := Octets × Bool

def linesOf (text : Octets) : List Line :=
  match (Octets.cutAt '\n' text).reverse with
  | [] => []
  | last :: before =>
      before.reverse.map (·, true) ++ (if last.isEmpty then [] else [(last, false)])

/-- What is to be done with lines: how many are kept, taken out, or put in. -/
inductive Move where
  | keep
  | takeOut
  | putIn
  deriving DecidableEq, Repr

def table (same : Line → Line → Bool) (first second : Array Line) : Array (Array Nat) :=
  let width := second.size
  let empty : Array Nat := Array.replicate (width + 1) 0
  (List.range first.size).foldl (fun rows i =>
    let above := rows.back?.getD empty
    let line := first[first.size - 1 - i]?.getD ([], true)
    let row := (List.range width).foldl (fun (row : Array Nat) j =>
      let column := width - 1 - j
      let other := second[column]?.getD ([], true)
      let value :=
        if same line other then above[column + 1]?.getD 0 + 1
        else max (above[column]?.getD 0) (row[column + 1]?.getD 0)
      row.setIfInBounds column value) empty
    rows.push row) #[empty]

def moves (same : Line → Line → Bool) (rows : Array (Array Nat)) :
    (first second : List Line) → List Move
  | [], second => second.map fun _ => .putIn
  | first, [] => first.map fun _ => .takeOut
  | a :: first, b :: second =>
      let kept (left right : Nat) : Nat :=
        let width := (rows[0]?.getD #[]).size - 1
        ((rows[left]?).bind (·[width - right]?)).getD 0
      if same a b then .keep :: moves same rows first second
      else if kept (first.length + 1) second.length ≤ kept first.length (second.length + 1) then
        .takeOut :: moves same rows first (b :: second)
      else .putIn :: moves same rows (a :: first) second
  termination_by first second => first.length + second.length

/-- A place where lines are taken out and put in: where it starts in both lists. -/
structure Change where
  first : Nat
  second : Nat
  removed : List Line
  added : List Line

def changes : List Move → (i j : Nat) → (first second : List Line) → Option Change →
    List Change
  | [], _, _, _, _, current => current.toList
  | .keep :: rest, i, j, first, second, current =>
      current.toList ++ changes rest (i + 1) (j + 1) (first.drop 1) (second.drop 1) none
  | .takeOut :: rest, i, j, first, second, current =>
      let change := current.getD ⟨i, j, [], []⟩
      changes rest (i + 1) j (first.drop 1) second
        (some { change with removed := change.removed ++ first.take 1 })
  | .putIn :: rest, i, j, first, second, current =>
      let change := current.getD ⟨i, j, [], []⟩
      changes rest i (j + 1) first (second.drop 1)
        (some { change with added := change.added ++ second.take 1 })

def marked (mark : String) (lines : List Line) : Octets :=
  lines.flatMap fun (text, ends) =>
    mark.toList ++ text ++ ['\n'] ++
      (if ends then [] else "\\ No newline at end of file\n".toList)

/-- The numbers of the first and the last of some lines. -/
def span (start count : Nat) : String :=
  if count = 0 then s!"{start}"
  else if count = 1 then s!"{start + 1}"
  else s!"{start + 1},{start + count}"

def Change.usual (change : Change) : Octets :=
  let removed := change.removed.length
  let added := change.added.length
  let letter := if removed = 0 then "a" else if added = 0 then "d" else "c"
  (span change.first removed ++ letter ++ span change.second added ++ "\n").toList ++
    marked "< " change.removed ++
    (if removed = 0 || added = 0 then [] else "---\n".toList) ++ marked "> " change.added

def together (context : Nat) : List Change → List (List Change)
  | [] => []
  | change :: rest =>
      match together context rest with
      | (next :: more) :: groups =>
          if next.first - (change.first + change.removed.length) ≤ 2 * context then
            (change :: next :: more) :: groups
          else [change] :: (next :: more) :: groups
      | groups => [change] :: groups

/-- The start and the number of some lines in the notation with context. -/
def range (start count : Nat) : String :=
  if count = 1 then s!"{start + 1}"
  else s!"{if count = 0 then start else start + 1},{count}"

/-- Changes that are close to each other, with the lines around them. -/
def withContext (context : Nat) (first : List Line) (group : List Change) : Octets :=
  match group, group.getLast? with
  | change :: _, some last =>
      let start := change.first - context
      let lead := change.first - start
      let stop := min first.length (last.first + last.removed.length + context)
      let added := (group.map (·.added.length)).foldl (· + ·) 0
      let removed := (group.map (·.removed.length)).foldl (· + ·) 0
      let header := s!"@@ -{range start (stop - start)} " ++
        s!"+{range (change.second - lead) (stop - start + added - removed)} @@\n"
      header.toList ++ body start stop group
  | _, _ => []
where
  /-- The lines from one to another with the changes in them. -/
  body (start stop : Nat) : List Change → Octets
    | [] => marked " " ((first.take stop).drop start)
    | change :: rest =>
        marked " " ((first.take change.first).drop start) ++ marked "-" change.removed ++
          marked "+" change.added ++
          body (change.first + change.removed.length) stop rest

/-- A text with one blank in place of each stretch of blanks, and none at its end. -/
def withSingleBlanks (text : Octets) : Octets :=
  text.foldr (fun c rest =>
    if !Octets.isSpace c then c :: rest
    else if rest.isEmpty || rest.head? = some ' ' then rest
    else ' ' :: rest) []

/-- A line as it is compared. -/
def key (given : Invocation) (line : Line) : Line :=
  let text := line.1
  let text := if given.has "ignore-case" then text.map Char.toLower else text
  let text := if given.has "ignore-space-change" then withSingleBlanks text else text
  let text := if given.has "ignore-all-space" then text.filter (!Octets.isSpace ·) else text
  (text, line.2)

/-- The options. -/
def rules : List OptionRule :=
  [switch "brief" 'q', switch "report-identical-files" 's', switch "ignore-case" 'i',
    switch "ignore-all-space" 'w', switch "ignore-space-change" 'b',
    switch "ignore-blank-lines" 'B',
    switch "-u" 'u', ⟨"unified", some 'U', .perhaps⟩, switch "text" 'a', switch "recursive" 'r',
    switch "new-file" 'N', switch "minimal" 'd', ⟨"label", none, .value⟩,
    ⟨"color", none, .perhaps⟩, ⟨"normal", none, .nothing⟩, setting "exclude" 'x']

def diff : Program := fun self arguments => do
  match takeApart rules true (arguments.length + 1) arguments with
  | .error text => refuseCall self text
  | .ok given =>
      match given.operands with
      | [] => refuseCall self ("missing operand after ".toList ++ quoted self)
      | [one] => refuseCall self ("missing operand after ".toList ++ quoted one)
      | [first, second] => do
          let inFirst ← Entries.isDirectory first
          let inSecond ← Entries.isDirectory second
          let (left, right) :=
            if inFirst && !inSecond then (Permission.inside first (Entries.lastName second), second)
            else if inSecond && !inFirst then
              (first, Permission.inside second (Entries.lastName first))
            else (first, second)
          if inFirst && inSecond then return 0
          let old ← comparable self left
          let new ← comparable self right
          match old, new with
          | some old, some new => do
              let before := linesOf old
              let behind := linesOf new
              let same (a b : Line) : Bool := key given a == key given b
              let rows := table same before.toArray behind.toArray
              let found := changes (moves same rows before behind) 0 0 before behind none
              if found.isEmpty then
                if given.has "report-identical-files" then
                  put ("Files ".toList ++ left ++ " and ".toList ++ right ++
                    " are identical\n".toList)
                return 0
              if given.has "brief" then
                put ("Files ".toList ++ left ++ " and ".toList ++ right ++ " differ\n".toList)
                return 1
              if given.has "-u" || given.has "unified" then
                let context := ((given.value? "unified").bind Octets.number?).getD 3
                let labels := given.values "label"
                let stamp := "\t1970-01-01 00:00:00.000000000 +0000".toList
                put ("--- ".toList ++ labels[0]?.getD (left ++ stamp) ++ ['\n'])
                put ("+++ ".toList ++ labels[1]?.getD (right ++ stamp) ++ ['\n'])
                put ((together context found).flatMap (withContext context before))
              else put (found.flatMap Change.usual)
              return 1
          | _, _ => return 2
      | _ :: _ :: extra :: _ => refuseCall self ("extra operand ".toList ++ quoted extra)

end LineDifference

end BlockExtension.Shell.Utility
