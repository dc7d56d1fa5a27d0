import BlockExtension.Script.Identifier

/-!
# Placeholders in display text and code

A placeholder is an identifier in square brackets. Everything else is literal
text, also brackets that hold something else and a bracket that never closes: in
`list[0]` nothing is a placeholder, and in `[[msg]]` the inner pair is one.

The scanner goes from left to right. At an opening bracket it looks for a
placeholder; if there is none, the bracket is an ordinary character and the
search goes on behind it, so a later opening bracket gets its chance.

## Main results

* `source_scanFrom`: the segments spell the text they come from.
-/

namespace BlockExtension

/-- A stretch of a scanned text. -/
inductive Segment where
  | text (value : String)
  /-- A bracketed name, and the position of its opening bracket counted from one. -/
  | placeholder (name : String) (column : Nat)
  deriving DecidableEq, Repr

/-- The text that a segment comes from. -/
def Segment.source : Segment → List Char
  | .text value => value.toList
  | .placeholder name _ => '[' :: name.toList ++ [']']

namespace Placeholder

/--
The identifier after an opening bracket and what follows its closing bracket; nothing if no
identifier in brackets stands there.
-/
def readName (text : List Char) : Option (List Char × List Char) :=
  let name := text.takeWhile Script.isIdentifierPart
  match text.dropWhile Script.isIdentifierPart with
  | ']' :: rest => if Script.isIdentifierText name then some (name, rest) else none
  | _ => none

/-- A name that is read stands in the text before its closing bracket. -/
theorem eq_of_readName {text name rest : List Char} (h : readName text = some (name, rest)) :
    text = name ++ ']' :: rest ∧ Script.isIdentifierText name := by
  have hText := List.takeWhile_append_dropWhile (p := Script.isIdentifierPart) (l := text)
  simp only [readName] at h
  split at h
  · next more hDrop =>
      split at h
      · next hName =>
          obtain ⟨rfl, rfl⟩ := Prod.mk.inj (Option.some.inj h)
          rw [hDrop] at hText
          exact ⟨hText.symm, hName⟩
      · cases h
  · cases h

/-- Literal text as a segment; no text makes no segment. -/
def flush (pending : List Char) : List Segment :=
  if pending.isEmpty then [] else [.text (String.ofList pending.reverse)]

/--
The segments of a text whose first character is at `column`. `pending` is the
literal text directly before it, last character first.
-/
def scanFrom (column : Nat) (pending : List Char) (text : List Char) : List Segment :=
  match text with
  | [] => flush pending
  | c :: rest =>
      if c = '[' then
        match h : readName rest with
        | some (name, rest') =>
            flush pending ++
              .placeholder (String.ofList name) column ::
                scanFrom (column + name.length + 2) [] rest'
        | none => scanFrom (column + 1) (c :: pending) rest
      else scanFrom (column + 1) (c :: pending) rest
  termination_by text.length
  decreasing_by
    · rw [(eq_of_readName h).1]
      simp only [List.length_cons, List.length_append]
      omega
    · simp
    · simp

def scan (text : String) : List Segment := scanFrom 1 [] text.toList

private theorem source_flush (pending : List Char) :
    (flush pending).flatMap Segment.source = pending.reverse := by
  unfold flush
  split
  · next h => simp [List.isEmpty_iff.1 h]
  · simp [Segment.source]

/-- The segments spell the pending text and then the text they come from. -/
theorem source_scanFrom (column : Nat) (pending text : List Char) :
    (scanFrom column pending text).flatMap Segment.source = pending.reverse ++ text := by
  fun_induction scanFrom column pending text with
  | case1 column pending => simp [source_flush]
  | case2 column pending rest name rest' h ih =>
      simp only [List.flatMap_append, List.flatMap_cons, source_flush, ih, Segment.source,
        (eq_of_readName h).1]
      simp
  | case3 column pending rest h ih => simpa using ih
  | case4 column pending c rest h ih => simpa using ih

end Placeholder

/--
A scanner over a text: what it has not read yet, and where that begins. Scanning
reads to the end, so a second scan finds nothing.
-/
structure Scanner where
  column : Nat
  rest : List Char
  deriving Repr

namespace Scanner

/-- A scanner before the first character of a text. -/
def ofString (text : String) : Scanner := ⟨1, text.toList⟩

def scan (scanner : Scanner) : List Segment × Scanner :=
  (Placeholder.scanFrom scanner.column [] scanner.rest,
    ⟨scanner.column + scanner.rest.length, []⟩)

end Scanner

end BlockExtension
