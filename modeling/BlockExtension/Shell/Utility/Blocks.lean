import BlockExtension.Shell.Utility.Input

/-!
# Copies in blocks

The program that copies some blocks of its input to some place of its output
and may change them on the way.
-/

namespace BlockExtension.Shell.Utility.Blocks

open Act

/-! ## Changes -/

/-- Octets with those of each pair exchanged. -/
def swapped : Octets → Octets
  | a :: b :: rest => b :: a :: swapped rest
  | rest => rest

def blocked (size : Nat) (text : Octets) : Octets × Nat :=
  let lines := Octets.lines text
  (lines.flatMap fun line => (line ++ List.replicate (size - line.length) ' ').take size,
    lines.countP (size < ·.length))

/-- Blocks of a size as lines. -/
def unblocked (size : Nat) : (fuel : Nat) → Octets → Octets
  | 0, _ => []
  | _, [] => []
  | fuel + 1, text =>
      let line := ((text.take size).reverse.dropWhile (· = ' ')).reverse
      line ++ '\n' :: unblocked size fuel (text.drop size)

/-! ## Operands -/

/-- The multiplier that the letters behind a number stand for, and what follows them. -/
def factor? (letters : Octets) : Option (Nat × Octets) :=
  let units := "KMGTPEZYRQ".toList
  let raised (base power : Nat) : Nat :=
    (List.replicate power base).foldl (· * ·) 1
  match letters with
  | 'c' :: rest => some (1, rest)
  | 'w' :: rest => some (2, rest)
  | 'b' :: rest => some (512, rest)
  | 'k' :: 'B' :: rest => some (1000, rest)
  | letter :: rest =>
      match units.idxOf? (if letter = 'k' then 'K' else letter) with
      | none => none
      | some place =>
          match rest with
          | 'B' :: rest => some (raised 1000 (place + 1), rest)
          | 'i' :: 'B' :: rest => some (raised 1024 (place + 1), rest)
          | rest => some (raised 1024 (place + 1), rest)
  | [] => none

/-- The number that a text is, and whether it is told in octets. -/
def amount? : (fuel : Nat) → Octets → Option (Nat × Bool)
  | 0, _ => none
  | fuel + 1, text => do
      let digits := text.takeWhile Char.isDigit
      let n ← Octets.number? digits
      let rest := text.drop digits.length
      let (factor, rest) := (factor? rest).getD (1, rest)
      match rest with
      | [] => return (n * factor, false)
      | ['B'] => return (n * factor, true)
      | 'x' :: rest =>
          let (other, inOctets) ← amount? fuel rest
          return (n * factor * other, inOctets)
      | _ => none

/-- What operands ask for. -/
structure Plan where
  source : Option Octets
  target : Option Octets
  size : Option Nat
  inputSize : Nat
  outputSize : Nat
  lineSize : Nat
  /-- How many blocks or octets are copied and passed over. -/
  count : Option (Nat × Bool)
  skip : Nat × Bool
  seek : Nat × Bool
  conversions : List String
  inputFlags : List String
  outputFlags : List String
  status : String

def Plan.usual : Plan :=
  ⟨none, none, none, 512, 512, 0, none, (0, false), (0, false), [], [], [], ""⟩

def knownConversions : List String :=
  ["ascii", "ebcdic", "ibm", "block", "unblock", "lcase", "ucase", "sparse", "swab", "sync",
    "excl", "nocreat", "notrunc", "noerror", "fdatasync", "fsync"]

def knownFlags : List String :=
  ["append", "binary", "cio", "direct", "directory", "dsync", "noatime", "nocache", "noctty",
    "nofollow", "nolinks", "nonblock", "sync", "text", "fullblock", "count_bytes", "skip_bytes",
    "seek_bytes"]

/-- Something that is wrong with an operand, and whether help is offered. -/
abbrev Refusal := Octets × Bool

def wordsOf (known : List String) (what : String) (value : Octets) :
    Except Refusal (List String) :=
  (Octets.cutAt ',' value).mapM fun word =>
    if known.contains (String.ofList word) then .ok (String.ofList word)
    else .error ((what ++ ": ").toList ++ quoted word, true)

/-- A plan with what an operand asks for. -/
def Plan.adding (plan : Plan) (operand : Octets) : Except Refusal Plan := do
  let (name, value) := operand.span (· ≠ '=')
  let unknown : Refusal := ("unrecognized operand ".toList ++ quoted operand, true)
  match value with
  | [] => throw unknown
  | _ :: value =>
      let bad : Refusal := ("invalid number: ".toList ++ quoted value, false)
      let amount : Except Refusal (Nat × Bool) :=
        match amount? (value.length + 1) value with
        | some amount => .ok amount
        | none => .error bad
      let size : Except Refusal Nat :=
        match amount? (value.length + 1) value with
        | some (n + 1, _) => .ok (n + 1)
        | _ => .error bad
      match String.ofList name with
      | "if" => return { plan with source := some value }
      | "of" => return { plan with target := some value }
      | "bs" => return { plan with size := some (← size) }
      | "ibs" => return { plan with inputSize := ← size }
      | "obs" => return { plan with outputSize := ← size }
      | "cbs" => return { plan with lineSize := ← size }
      | "count" => return { plan with count := some (← amount) }
      | "skip" => return { plan with skip := ← amount }
      | "iseek" => return { plan with skip := ← amount }
      | "seek" => return { plan with seek := ← amount }
      | "oseek" => return { plan with seek := ← amount }
      | "conv" =>
          let words ← wordsOf knownConversions "invalid conversion" value
          return { plan with conversions := plan.conversions ++ words }
      | "iflag" =>
          let words ← wordsOf knownFlags "invalid input flag" value
          return { plan with inputFlags := plan.inputFlags ++ words }
      | "oflag" =>
          let words ← wordsOf knownFlags "invalid output flag" value
          return { plan with outputFlags := plan.outputFlags ++ words }
      | "status" =>
          let words ← wordsOf ["none", "noxfer", "progress"] "invalid status level" value
          return { plan with status := words.headD "" }
      | _ => throw unknown

/-- The conversions of which no two go together. -/
def contradictions : List (List String × String) :=
  [(["ascii", "ebcdic", "ibm"], "cannot combine any two of \x7bascii,ebcdic,ibm\x7d"),
    (["block", "unblock"], "cannot combine block and unblock"),
    (["lcase", "ucase"], "cannot combine lcase and ucase"),
    (["excl", "nocreat"], "cannot combine excl and nocreat")]

def planOf (operands : List Octets) : Except Refusal Plan := do
  let plan ← operands.foldlM Plan.adding .usual
  let wrong := contradictions.find? fun (words, _) =>
    1 < words.countP plan.conversions.contains
  match wrong with
  | some (_, problem) => throw (problem.toList, false)
  | none => return plan

/-! ## Copying -/

/-- How many blocks of a size some octets are: whole ones, and one that is not. -/
def records (size length : Nat) : Nat × Nat :=
  (length / size, if length % size = 0 then 0 else 1)

def Plan.changed (plan : Plan) (inputSize : Nat) (text : Octets) : Octets × Nat :=
  let has (word : String) : Bool := plan.conversions.contains word
  let filler := if has "block" || has "unblock" then ' ' else '\x00'
  let text := if has "sync" then
      text ++ List.replicate ((inputSize - text.length % inputSize) % inputSize) filler
    else text
  let text := if has "swab" then swapped text else text
  let text := if has "lcase" then text.map Char.toLower
    else if has "ucase" then text.map Char.toUpper
    else text
  if plan.lineSize = 0 then (text, 0)
  else if has "block" then blocked plan.lineSize text
  else if has "unblock" then (unblocked plan.lineSize text.length text, 0)
  else (text, 0)

def sizeText (n : Nat) : Octets :=
  let scaled (base : Nat) (letters : List String) : String :=
    let rec go : (fuel : Nat) → (unit : Nat) → List String → String
      | 0, _, _ => ""
      | fuel + 1, unit, letters =>
          match letters with
          | [] => ""
          | letter :: more =>
              if n < unit * base || more.isEmpty then
                let tenths := (n * 10 + unit / 2) / unit
                if tenths < 100 then s!"{tenths / 10}.{tenths % 10} {letter}"
                else s!"{(n + unit / 2) / unit} {letter}"
              else go fuel (unit * base) more
    go 12 base letters
  let plain := s!"{n} " ++ (if n = 1 then "byte" else "bytes")
  let decimal := scaled 1000 ["kB", "MB", "GB", "TB"]
  let binary := scaled 1024 ["KiB", "MiB", "GiB", "TiB"]
  (if n < 1000 then plain
    else if n < 1024 then s!"{plain} ({decimal})"
    else s!"{plain} ({decimal}, {binary})").toList

/-- Opens what is written to; the octets before a place stay, and those behind it may be lost. -/
def openTarget (plan : Plan) (path : Octets) (place : Nat) : Act (Option Files.OsError) := do
  let has (word : String) : Bool := plan.conversions.contains word
  let before ← readPath path
  if has "excl" && before.toOption.isSome then return some .alreadyExists
  if has "nocreat" && before.toOption.isNone then return some .notFound
  let truncates := !has "notrunc"
  let access : Access :=
    if plan.outputFlags.contains "append" then .append
    else if truncates then .write
    else .both
  match ← openPath path access with
  | .error error => return some error
  | .ok channel =>
      connect 1 (some channel)
      if truncates && 0 < place then
        let kept := (before.toOption.getD .empty).extract 0 place
        put (Octets.ofBytes kept ++ List.replicate (place - kept.size) '\x00')
      else if 0 < place then
        modify fun machine =>
          { machine with channels := machine.channels.modify channel (·.advanced place) }
      return none

/-- Says how many blocks were read and written. -/
def summarize (status : String) (inputs outputs : Nat × Nat) (cut size : Nat) : Act Unit := do
  if status = "none" then return
  let line (counts : Nat × Nat) (what : String) : Octets :=
    s!"{counts.1}+{counts.2} records {what}\n".toList
  report (line inputs "in" ++ line outputs "out")
  if 0 < cut then
    report (Octets.ofNat cut ++ " truncated record".toList ++
      (if cut = 1 then ['\n'] else ['s', '\n']))
  if status ≠ "noxfer" then report (sizeText size ++ " copied, 0 s, Infinity B/s\n".toList)

/-- Copies blocks as a plan says, from the standard input to the standard output. -/
def copy (self : Octets) (plan : Plan) : Act Nat := do
  let inputSize := plan.size.getD plan.inputSize
  let outputSize := plan.size.getD plan.outputSize
  let inOctets (flags : List String) (flag : String) (amount : Nat × Bool) (size : Nat) : Nat :=
    if amount.2 || flags.contains flag then amount.1 else amount.1 * size
  let skip := inOctets plan.inputFlags "skip_bytes" plan.skip inputSize
  let source := plan.source.getD "standard input".toList
  if 0 < skip then
    match ← readBy 0 fun _ => skip with
    | .error _ => pure ()
    | .ok passed =>
        if passed.length < skip then
          complainAs self (quotedIfTold plan.source source ++
            ": cannot skip to specified offset".toList)
  let limit := plan.count.map fun amount =>
    inOctets plan.inputFlags "count_bytes" amount inputSize
  match ← readBy 0 fun pending => limit.getD pending.size with
  | .error error =>
      complainAs self ("error reading ".toList ++ quoted source ++ (": " ++ error.wording).toList)
      summarize plan.status (0, 0) (0, 0) 0 0
      return 1
  | .ok text =>
      let (output, cut) := plan.changed inputSize text
      put output
      summarize plan.status (records inputSize text.length) (records outputSize output.length) cut
        output.length
      return 0
where
  /-- The name of an input as complaints put it. -/
  quotedIfTold (told : Option Octets) (name : Octets) : Octets :=
    if told.isSome then named name else quoted name

/-- Copies blocks from one place to another. -/
def dd : Program := fun self arguments =>
  withOptions self [] true 1 arguments fun given => do
    match planOf given.operands with
    | .error (problem, offersHelp) =>
        complainAs self problem
        if offersHelp then pointToHelp self
        return 1
    | .ok plan =>
        let refuse (path : Octets) (error : Files.OsError) : Act Nat := do
          complainAs self ("failed to open ".toList ++ quoted path ++
            (": " ++ error.wording).toList)
          return 1
        if let some path := plan.source then
          match ← openPath path .read with
          | .error error => return ← refuse path error
          | .ok channel => connect 0 (some channel)
        if let some path := plan.target then
          let outputSize := plan.size.getD plan.outputSize
          let place := if plan.seek.2 || plan.outputFlags.contains "seek_bytes" then plan.seek.1
            else plan.seek.1 * outputSize
          if let some error ← openTarget plan path place then return ← refuse path error
        copy self plan

end BlockExtension.Shell.Utility.Blocks
