import BlockExtension.Shell.Pattern
import BlockExtension.Shell.Utility.Input

/-!
# Programs for single characters

The program that puts other characters in the place of some, takes some out, or
makes one of several equal ones.
-/

namespace BlockExtension.Shell.Utility

open Act

namespace Replacement

/-! ## Sets of characters -/

/-- A piece of a written set. -/
inductive Piece where
  | one (c : Char)
  | range (first last : Char)
  | named (name : String)
  /-- A character as often as is said, or as is needed. -/
  | repeated (c : Char) (count : Option Nat)
  deriving DecidableEq, Repr

/-- A character of a written set: what stands for it, whether behind a backslash, and the rest. -/
def character? : Octets → Option (Char × Bool × Octets)
  | [] => none
  | ['\\'] => some ('\\', false, [])
  | '\\' :: c :: rest =>
      match c with
      | 'a' => some ('\x07', true, rest)
      | 'b' => some ('\x08', true, rest)
      | 'f' => some ('\x0c', true, rest)
      | 'n' => some ('\n', true, rest)
      | 'r' => some ('\r', true, rest)
      | 't' => some ('\t', true, rest)
      | 'v' => some ('\x0b', true, rest)
      | c =>
          let isOctal (d : Char) : Bool := '0' ≤ d && d ≤ '7'
          if isOctal c then
            let all := (c :: rest).takeWhile isOctal
            let valueOf (digits : Octets) : Nat :=
              digits.foldl (fun total d => total * 8 + (d.toNat - '0'.toNat)) 0
            let digits := all.take (if valueOf (all.take 3) < 256 then 3 else 2)
            some (Char.ofNat (valueOf digits), true, (c :: rest).drop digits.length)
          else some (c, true, rest)
  | c :: rest => some (c, false, rest)

def bracketed? : Octets → Option (Except Octets Piece × Octets)
  | '[' :: ':' :: rest => do
      let name := rest.takeWhile fun c => c ≠ ':' && c ≠ ']'
      match rest.drop name.length with
      | ':' :: ']' :: behind =>
          if Pattern.classNames.contains (String.ofList name) then
            some (.ok (.named (String.ofList name)), behind)
          else if name.isEmpty then
            some (.error "missing character class name '[::]'".toList, behind)
          else some (.error ("invalid character class ".toList ++ quoted name), behind)
      | _ => none
  | '[' :: '=' :: c :: '=' :: ']' :: rest => some (.ok (.one c), rest)
  | '[' :: rest => do
      let (c, _, behind) ← character? rest
      match behind with
      | '*' :: behind =>
          let digits := behind.takeWhile Char.isDigit
          match behind.drop digits.length with
          | ']' :: behind =>
              let isOctal := digits.head? = some '0'
              let count := if isOctal then
                  digits.foldl (fun total d => total * 8 + (d.toNat - '0'.toNat)) 0
                else Octets.valueOf digits
              some (.ok (.repeated c (if count = 0 then none else some count)), behind)
          | _ => none
      | _ => none
  | _ => none

def pieces : (fuel : Nat) → Octets → Except Octets (List Piece)
  | 0, _ => .ok []
  | _, [] => .ok []
  | fuel + 1, text => do
      match bracketed? text with
      | some (.ok piece, rest) => return piece :: (← pieces fuel rest)
      | some (.error problem, _) => .error problem
      | none =>
          match character? text with
          | none => return []
          | some (first, _, rest) =>
              match rest with
              | '-' :: behind =>
                  match character? behind with
                  | none => return .one first :: (← pieces fuel rest)
                  | some (last, _, behind) =>
                      if last < first then
                        .error ("range-endpoints of '".toList ++
                          text.take (text.length - behind.length) ++
                          "' are in reverse collating sequence order".toList)
                      return .range first last :: (← pieces fuel behind)
              | rest => return .one first :: (← pieces fuel rest)

def allCharacters : List Char := (List.range 256).map Char.ofNat

def between (first last : Char) : List Char :=
  allCharacters.filter fun c => first ≤ c && c ≤ last

/-- The characters of a piece; `missing` says how many are needed. -/
def Piece.characters (missing : Nat) : Piece → List Char
  | .one c => [c]
  | .range first last => between first last
  | .named name => allCharacters.filter (Pattern.isOfClass name)
  | .repeated c count => List.replicate (count.getD missing) c

def charactersOf (length : Nat) (set : List Piece) : List Char :=
  let fixed := (set.flatMap (Piece.characters 0)).length
  set.flatMap (Piece.characters (length - fixed))

/-- The characters that are not in a set. -/
def complement (characters : List Char) : List Char :=
  allCharacters.filter (!characters.contains ·)

/-! ## Exchanging characters -/

/-- Equal characters of a set that follow each other become one. -/
def squeezed (set : List Char) : (last : Option Char) → Octets → Octets
  | _, [] => []
  | last, c :: rest =>
      if last = some c && set.contains c then squeezed set last rest
      else c :: squeezed set (some c) rest

/-- Pairs of characters and what is put in their place; the last one goes on. -/
def pairs (truncates : Bool) (source target : List Char) : List (Char × Char) :=
  let target :=
    if truncates then target
    else target ++ List.replicate (source.length - target.length) (target.getLast?.getD ' ')
  source.zip target

/-- A class of letters that is put in the place of the other one. -/
def isCase : Piece → Bool
  | .named "upper" => true
  | .named "lower" => true
  | _ => false

def casedPairs : List Piece → List Piece → Option (List (Char × Char))
  | [.named "lower"], [.named "upper"] => some ((between 'a' 'z').map fun c => (c, c.toUpper))
  | [.named "upper"], [.named "lower"] => some ((between 'A' 'Z').map fun c => (c, c.toLower))
  | _, _ => none

/-- What is asked for. -/
structure Task where
  complements : Bool
  deletes : Bool
  squeezes : Bool
  truncates : Bool

def replacedBy (table : List (Char × Char)) (text : Octets) : Octets :=
  let target := (allCharacters.map fun c =>
    ((table.filter (·.1 = c)).getLast?.map (·.2)).getD c).toArray
  text.map fun c => target[c.toNat]?.getD c

/-- What a text becomes, or what is wrong with the sets. -/
def outcome (task : Task) (first : List Piece) (second : Option (List Piece))
    (text : Octets) : Except Octets Octets := do
  let plain := charactersOf 0 first
  let source := if task.complements then complement plain else plain
  match task.deletes, second with
  | true, none => return text.filter (!source.contains ·)
  | true, some second =>
      return squeezed (charactersOf 0 second) none (text.filter (!source.contains ·))
  | false, none => return squeezed source none text
  | false, some second =>
      let target := charactersOf source.length second
      let table ← match if task.complements then none else casedPairs first second with
        | some table => pure table
        | none => do
            if second.any fun piece => match piece with
                | .named _ => !isCase piece
                | _ => false then
              .error ("when translating, the only character classes that may appear in\n" ++
                "string2 are 'upper' and 'lower'").toList
            if target.isEmpty && !source.isEmpty && !task.truncates then
              .error "when not truncating set1, string2 must be non-empty".toList
            pure (pairs task.truncates source target)
      let replaced := replacedBy table text
      return if task.squeezes then squeezed target none replaced else replaced

/-- The options. -/
def rules : List OptionRule :=
  [switch "complement" 'c', switch "-C" 'C', switch "delete" 'd', switch "squeeze-repeats" 's',
    switch "truncate-set1" 't']

/-- Complains about the number of sets. -/
def refuse (self text : Octets) (reason : String) : Act Nat := do
  complainAs self text
  unless reason.isEmpty do report (reason ++ "\n").toList
  pointToHelp self
  return 1

/-- Replaces, deletes or squeezes the characters of its input. -/
def tr : Program := fun self arguments =>
  withOptions self rules false 1 arguments fun given => do
    let task : Task :=
      ⟨given.has "complement" || given.has "-C", given.has "delete", given.has "squeeze-repeats",
        given.has "truncate-set1"⟩
    let run (first : Octets) (second : Option Octets) : Act Nat := do
      let read (set : Octets) := pieces (set.length + 1) set
      let sets : Except Octets (List Piece × Option (List Piece)) := do
        let first ← read first
        match second with
        | some second => return (first, some (← read second))
        | none => return (first, none)
      let input := match ← readAll 0 with
        | .ok octets => octets
        | .error _ => []
      match sets.bind fun (first, second) => outcome task first second input with
      | .ok text => finish text true
      | .error problem =>
          complainAs self problem
          return 1
    let exchanges := !task.deletes && !task.squeezes
    match given.operands with
    | [] => refuse self "missing operand".toList ""
    | [first] =>
        let lacking := "missing operand after ".toList ++ quoted first
        if exchanges then refuse self lacking "Two strings must be given when translating."
        else if task.deletes && task.squeezes then
          refuse self lacking
            "Two strings must be given when both deleting and squeezing repeats."
        else run first none
    | [first, second] =>
        if task.deletes && !task.squeezes then
          refuse self ("extra operand ".toList ++ quoted second)
            "Only one string may be given when deleting without squeezing repeats."
        else run first (some second)
    | _ :: second :: third :: _ =>
        let extra := if task.deletes && !task.squeezes then second else third
        refuse self ("extra operand ".toList ++ quoted extra) ""

end Replacement

end BlockExtension.Shell.Utility
