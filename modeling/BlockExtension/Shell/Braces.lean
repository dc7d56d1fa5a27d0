import BlockExtension.Shell.Command

/-!
# Alternatives in braces

A word in which braces stand around alternatives, or around the ends of a range,
stands for several words. Only characters outside quotation marks make up
braces; everything else in a word goes with the alternative that it stands in.
-/

namespace BlockExtension.Shell.Braces

/-- A piece of a word: a character outside quotation marks, or a part as a whole. -/
inductive Piece where
  | char (c : Char)
  | part (part : Part)

def pieces (word : Word) : List Piece :=
  word.flatMap fun
    | .literal text => text.map .char
    | part => [.part part]

def wordOf : List Piece → Word
  | [] => []
  | .char c :: rest =>
      match wordOf rest with
      | .literal text :: more => .literal (c :: text) :: more
      | more => .literal [c] :: more
  | .part part :: rest => part :: wordOf rest

def characters? : List Piece → Option Octets
  | [] => some []
  | .char c :: rest => (characters? rest).map (c :: ·)
  | .part _ :: _ => none

/-- What stands in braces, cut at the commas that are not in braces of their own. -/
def alternatives : (depth : Nat) → (current : List Piece) → List Piece →
    Option (List (List Piece) × List Piece)
  | _, _, [] => none
  | 0, current, .char '\x7d' :: rest => some ([current.reverse], rest)
  | 0, current, .char ',' :: rest =>
      (alternatives 0 [] rest).map fun (more, behind) => (current.reverse :: more, behind)
  | depth + 1, current, .char '\x7d' :: rest =>
      alternatives depth (.char '\x7d' :: current) rest
  | depth, current, .char '\x7b' :: rest =>
      alternatives (depth + 1) (.char '\x7b' :: current) rest
  | depth, current, piece :: rest => alternatives depth (piece :: current) rest

/-- The numbers from one to another, in either direction, by a step. -/
def progression (first last step : Int) : List Int :=
  let step := if step = 0 then 1 else (step.natAbs : Int)
  let count := ((last - first).natAbs / step.toNat) + 1
  (List.range count).map fun (n : Nat) =>
    if first ≤ last then first + (n : Int) * step else first - (n : Int) * step

/-- The whole number that a text is. -/
def integer? (text : Octets) : Option Int :=
  match text with
  | '-' :: digits => (Octets.number? digits).map fun n => -(n : Int)
  | '+' :: digits => (Octets.number? digits).map fun n => (n : Int)
  | digits => (Octets.number? digits).map fun n => (n : Int)

def range? (text : Octets) : Option (List Octets) := do
  let ends := (String.ofList text).splitOn ".."
  let (first, last, step) ← match ends.map String.toList with
    | [first, last] => some (first, last, (1 : Int))
    | [first, last, step] => do some (first, last, ← integer? step)
    | _ => none
  match integer? first, integer? last with
  | some a, some b =>
      let isPadded := [first, last].any fun text =>
        match text.dropWhile (· = '-') with
        | '0' :: _ :: _ => true
        | _ => false
      let width := if isPadded then max first.length last.length else 0
      return (progression a b step).map fun n =>
        let sign := if n < 0 then ['-'] else []
        let digits := Octets.ofNat n.natAbs
        sign ++ List.replicate (width - sign.length - digits.length) '0' ++ digits
  | _, _ =>
      match first, last with
      | [a], [b] =>
          if a.isAlpha && b.isAlpha then
            return (progression a.toNat b.toNat step).map fun n => [Char.ofNat n.toNat]
          else none
      | _, _ => none

def first? : (before : List Piece) → List Piece →
    Option (List Piece × List (List Piece) × List Piece)
  | _, [] => none
  | before, .char '\x7b' :: rest =>
      match alternatives 0 [] rest with
      | some ([single], behind) =>
          match (characters? single).bind range? with
          | some texts => some (before.reverse, texts.map (·.map .char), behind)
          | none => first? (.char '\x7b' :: before) rest
      | some (found, behind) => some (before.reverse, found, behind)
      | none => first? (.char '\x7b' :: before) rest
  | before, piece :: rest => first? (piece :: before) rest

/-- The words, as pieces, that a word stands for. -/
def expanded : (fuel : Nat) → List Piece → List (List Piece)
  | 0, word => [word]
  | fuel + 1, word =>
      match first? [] word with
      | some (before, found, behind) =>
          found.flatMap fun alternative => expanded fuel (before ++ alternative ++ behind)
      | none => [word]

def limit : Nat := 100

def words (word : Word) : List Word := (expanded limit (pieces word)).map wordOf

end BlockExtension.Shell.Braces
