import BlockExtension.Shell.Utility.Input

/-!
# Permission bits as text

How permission bits are written, as an octal number or as a list of changes to
the bits that are there, and the program that sets them.
-/

namespace BlockExtension.Shell.Utility

open Act

namespace Permission

/-- What a change does with bits. -/
inductive Verb where
  | add
  | remove
  | set
  deriving DecidableEq, Repr

/-- Which bits a change is about. -/
inductive Bits where
  | letters (letters : List Char)
  /-- Those that a class of users has. -/
  | like (who : Char)
  deriving DecidableEq, Repr

/-- A change of the bits of some classes of users; without classes all that the mask leaves. -/
structure Change where
  who : List Char
  verb : Verb
  bits : Bits
  deriving DecidableEq, Repr

/-- What becomes of permission bits. -/
inductive Mode where
  | octal (bits : Nat)
  | changes (changes : List Change)
  deriving DecidableEq, Repr

def octal? (text : Octets) : Option Nat :=
  if text.isEmpty || !text.all (fun c => '0' ≤ c && c ≤ '7') then none
  else
    let n := text.foldl (fun total c => total * 8 + (c.toNat - '0'.toNat)) 0
    if n ≤ 0o7777 then some n else none

def verb? : Char → Option Verb
  | '+' => some .add
  | '-' => some .remove
  | '=' => some .set
  | _ => none

def changesFor? (who : List Char) : (fuel : Nat) → Octets → Option (List Change)
  | 0, _ => none
  | _, [] => some []
  | fuel + 1, c :: rest => do
      let verb ← verb? c
      let letters := rest.takeWhile fun c => (verb? c).isNone
      let bits ← match letters with
        | ['u'] => some (Bits.like 'u')
        | ['g'] => some (Bits.like 'g')
        | ['o'] => some (Bits.like 'o')
        | letters => if letters.all "rwxXst".toList.contains then some (.letters letters) else none
      return ⟨who, verb, bits⟩ :: (← changesFor? who fuel (rest.drop letters.length))

def Mode.ofText? (text : Octets) : Option Mode :=
  match octal? text with
  | some bits => some (.octal bits)
  | none => do
      let changes ← (Octets.cutAt ',' text).mapM fun piece => do
        let who := piece.takeWhile "ugoa".toList.contains
        let rest := piece.drop who.length
        if rest.isEmpty then none
        else changesFor? who (rest.length + 1) rest
      return .changes changes.flatten

def classBits (mode : Nat) : Char → Nat
  | 'u' => mode / 64 % 8
  | 'g' => mode / 8 % 8
  | _ => mode % 8

/-- The bits that three bits stand for in some classes of users. -/
def spread (who : List Char) (bits : Nat) : Nat :=
  (if who.contains 'u' then bits * 64 else 0) + (if who.contains 'g' then bits * 8 else 0) +
    (if who.contains 'o' then bits else 0)

/-- The bits after a change. -/
def Change.applied (isDirectory : Bool) (mask mode : Nat) (change : Change) : Nat :=
  let everyone := change.who.isEmpty || change.who.contains 'a'
  let who := if everyone then ['u', 'g', 'o'] else change.who
  let three := match change.bits with
    | .like c => classBits mode c
    | .letters letters =>
        let canRun := letters.contains 'x' ||
          (letters.contains 'X' && (isDirectory || mode &&& 0o111 ≠ 0))
        (if letters.contains 'r' then 4 else 0) + (if letters.contains 'w' then 2 else 0) +
          (if canRun then 1 else 0)
  let special := match change.bits with
    | .letters letters =>
        (if letters.contains 's' && who.contains 'u' then 0o4000 else 0) +
          (if letters.contains 's' && who.contains 'g' then 0o2000 else 0) +
          (if letters.contains 't' then 0o1000 else 0)
    | .like _ => 0
  let meant := spread who three
  let meant := (if change.who.isEmpty then meant &&& (0o777 ^^^ mask) else meant) ||| special
  match change.verb with
  | .add => mode ||| meant
  | .remove => mode &&& (0o7777 ^^^ meant)
  | .set => (mode &&& (0o7777 ^^^ spread who 7)) ||| meant

/-- The bits that a mode makes of others. -/
def Mode.changed (isDirectory : Bool) (mask bits : Nat) : Mode → Nat
  | .octal asked => asked
  | .changes all => all.foldl (Change.applied isDirectory mask) bits

def letters (mode : Nat) : Octets :=
  let three (bits : Nat) (special : Bool) (lower upper : Char) : Octets :=
    [if bits &&& 4 ≠ 0 then 'r' else '-', if bits &&& 2 ≠ 0 then 'w' else '-',
      if special then (if bits &&& 1 ≠ 0 then lower else upper)
      else if bits &&& 1 ≠ 0 then 'x' else '-']
  three (mode / 64 % 8) (mode &&& 0o4000 ≠ 0) 's' 'S' ++
    three (mode / 8 % 8) (mode &&& 0o2000 ≠ 0) 's' 'S' ++
    three (mode % 8) (mode &&& 0o1000 ≠ 0) 't' 'T'

def octalText (mode : Nat) : Octets :=
  [mode / 512 % 8, mode / 64 % 8, mode / 8 % 8, mode % 8].flatMap Octets.ofNat

/-- Says what has become of permission bits. -/
def shownChange (path : Octets) (before after : Nat) : Octets :=
  let described (mode : Nat) : Octets := octalText mode ++ " (".toList ++ letters mode ++ [')']
  let start := "mode of ".toList ++ quoted path
  if before = after then start ++ " retained as ".toList ++ described after
  else start ++ " changed from ".toList ++ described before ++ " to ".toList ++ described after

/-- The options. -/
def rules : List OptionRule :=
  [switch "changes" 'c', switch "silent" 'f', ⟨"quiet", none, .nothing⟩, switch "verbose" 'v',
    switch "recursive" 'R', ⟨"reference", none, .value⟩, ⟨"no-preserve-root", none, .nothing⟩,
    ⟨"preserve-root", none, .nothing⟩]

/-- An argument that looks like an option but is a change of bits. -/
def isMode : Octets → Bool
  | '-' :: c :: _ => "rwxXstugoa,+=01234567".toList.contains c
  | _ => false

def inside (directory name : Octets) : Octets :=
  if directory.getLast? = some '/' then directory ++ name else directory ++ '/' :: name

/--
Sets the permission bits of a path and, if asked for, of all that is below it. Links
that are met below are left alone.
-/
def setAll (self : Octets) (given : Invocation) (mode : Mode) :
    (fuel : Nat) → (isNamed : Bool) → List Octets → Act Bool
  | 0, _, _ => return true
  | _, _, [] => return true
  | fuel + 1, isNamed, path :: rest => do
      let quiet := given.has "silent" || given.has "quiet"
      let refuse (what : String) (error : Files.OsError) : Act Bool := do
        unless quiet do
          complainAs self (what.toList ++ quoted path ++ (": " ++ error.wording).toList)
        return false
      let tree ← tree
      let isLink := match tree.findNamed (pathOf path) with
        | .ok (_, entry) => entry.isLink
        | .error _ => false
      let fine ← if isLink && !isNamed then do
          if given.has "verbose" then
            put ("neither symbolic link ".toList ++ quoted path ++
              " nor referent has been changed\n".toList)
          pure true
        else match tree.find (pathOf path) with
        | .error error =>
            if isLink && error ≠ .tooManyLinks then do
              unless quiet do
                complainAs self ("cannot operate on dangling symlink ".toList ++ quoted path)
              pure false
            else refuse "cannot access " error
        | .ok (location, entry) => do
            let isDirectory := match entry with
              | .directory _ => true
              | _ => false
            let bits := mode.changed isDirectory (← process).mask entry.mode
            match ← changeTree (·.changeMode (pathOf path) bits) with
            | some error => refuse "changing permissions of " error
            | none =>
                if given.has "verbose" || (given.has "changes" && bits ≠ entry.mode) then
                  put (shownChange path entry.mode bits ++ ['\n'])
                if given.has "recursive" && isDirectory then
                  let below := (tree.children location).map fun (name, _) =>
                    inside path (Octets.ofText name)
                  setAll self given mode fuel false below
                else pure true
      return (← setAll self given mode fuel isNamed rest) && fine

/-- Sets permission bits. -/
def chmod : Program := fun self arguments => do
  let modes := arguments.filter isMode
  let others := arguments.filter (!isMode ·)
  withOptions self rules true 1 others fun given => do
    let operands := modes ++ given.operands
    match operands with
    | [] => lackOperand self "operand" none
    | [mode] => lackOperand self "operand" (some mode)
    | text :: paths =>
        match Mode.ofText? text with
        | none =>
            complainAs self ("invalid mode: ".toList ++ quoted text)
            pointToHelp self
            return 1
        | some mode =>
            let count := (← tree).entries.length + paths.length + 1
            return if ← setAll self given mode count true paths then 0 else 1

end Permission

end BlockExtension.Shell.Utility
