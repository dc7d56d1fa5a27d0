import BlockExtension.Proofs.FirstFault
import BlockExtension.Proofs.Script.Pattern

/-!
# What a scan finds

A scan looks at a text from left to right and decides at each opening bracket whether
a placeholder begins there. This file says what comes of it without the walk. On the
one hand, the placeholders are exactly the bracketed identifiers that stand in the
text (`StandsIn`), wherever they stand and whatever brackets are around them. On the
other hand, the segments are a normal form: they spell the text, no literal text is
empty or next to another one, the columns count what is spelled before, and no
literal text has a bracketed identifier in it. There is only one list of segments
like that.

Both halves rest on one fact about seams. A name that is not closed in a text can
only be closed in what follows if that begins with the rest of the name and a
bracket; whatever else follows, `Interrupts`.

## Main results

* `readName_eq_some_iff`: what is read behind a bracket.
* `Plain.append`: texts without bracketed identifiers, put together at a seam.
* `mem_scan_iff`, `scan_exact`: the placeholders are the bracketed identifiers.
* `scan_of_normal`, `scan_normal_unique`: the segments are the only normal ones.
-/

namespace BlockExtension.Placeholder

open BlockExtension.Script (isIdentifier isIdentifierText isIdentifierPart)
open BlockExtension.Script (identifierPattern mem_identifierPattern_iff)
open BlockExtension.Script.Lexer (isIdentifierPart_of_mem)

/-! ## Names behind a bracket -/

/-- What is read behind an opening bracket is an identifier and its closing bracket. -/
theorem readName_eq_some_iff {text name rest : List Char} :
    readName text = some (name, rest) ↔ text = name ++ ']' :: rest ∧ isIdentifierText name := by
  refine ⟨eq_of_readName, ?_⟩
  rintro ⟨rfl, hName⟩
  have hParts := isIdentifierPart_of_mem hName
  have hEnd : isIdentifierPart ']' = false := by decide
  have hTake : (name ++ ']' :: rest).takeWhile isIdentifierPart = name := by
    rw [List.takeWhile_append_of_pos hParts, List.takeWhile_cons_of_neg (by simp [hEnd]),
      List.append_nil]
  have hDrop : (name ++ ']' :: rest).dropWhile isIdentifierPart = ']' :: rest := by
    rw [List.dropWhile_append_of_pos hParts, List.dropWhile_cons_of_neg (by simp [hEnd])]
  simp [readName, hTake, hDrop, hName]

/-- Text that does not close a name which runs into it. -/
def Interrupts (text : List Char) : Prop :=
  ∀ more, text.dropWhile isIdentifierPart ≠ ']' :: more

theorem interrupts_nil : Interrupts [] := by simp [Interrupts]

/-- A character that neither continues a name nor closes it. -/
theorem interrupts_cons {c : Char} (hPart : isIdentifierPart c = false) (hOther : c ≠ ']')
    (text : List Char) : Interrupts (c :: text) := by
  intro more
  rw [List.dropWhile_cons_of_neg (by simp [hPart])]
  exact fun hSame => hOther (List.cons.inj hSame).1

/--
Where no name is read, none is read either when an interruption follows: the bracket that
closes it would stand in the text itself or behind it.
-/
theorem readName_append_eq_none {text more : List Char} (h : readName text = none)
    (hMore : Interrupts more) : readName (text ++ more) = none := by
  cases hRead : readName (text ++ more) with
  | none => rfl
  | some found =>
      obtain ⟨name, rest⟩ := found
      obtain ⟨hText, hName⟩ := readName_eq_some_iff.1 hRead
      have hEnd : isIdentifierPart ']' = false := by decide
      rcases List.append_eq_append_iff.1 hText with ⟨part, rfl, hPart⟩ | ⟨part, rfl, hPart⟩
      · have hParts : ∀ c ∈ part, isIdentifierPart c := fun c hc =>
          isIdentifierPart_of_mem hName c (List.mem_append_right _ hc)
        refine absurd ?_ (hMore rest)
        rw [hPart, List.dropWhile_append_of_pos hParts, List.dropWhile_cons_of_neg (by simp [hEnd])]
      · cases part with
        | nil =>
            refine absurd ?_ (hMore rest)
            rw [← List.nil_append more, ← hPart, List.dropWhile_cons_of_neg (by simp [hEnd])]
        | cons c part =>
            obtain ⟨rfl, rfl⟩ := List.cons.inj hPart
            rw [readName_eq_some_iff.2 ⟨rfl, hName⟩] at h
            cases h

/-! ## Plain text -/

def Plain (text : List Char) : Prop :=
  ∀ name column, isIdentifier name → ¬ StandsIn text name column

/-- In a plain text nothing is read behind any bracket. -/
theorem plain_iff {text : List Char} :
    Plain text ↔ ∀ front back, text = front ++ '[' :: back → readName back = none := by
  constructor
  · intro h front back hText
    cases hRead : readName back with
    | none => rfl
    | some found =>
        obtain ⟨name, rest⟩ := found
        obtain ⟨rfl, hName⟩ := readName_eq_some_iff.1 hRead
        have hIdentifier : isIdentifier (String.ofList name) := by simpa [isIdentifier] using hName
        exact absurd ⟨front, rest, by simpa using hText, rfl⟩
          (h (String.ofList name) (front.length + 1) hIdentifier)
  · rintro h name column hName ⟨front, back, hText, _⟩
    have hNone := h front _ hText
    rw [readName_eq_some_iff.2 ⟨rfl, hName⟩] at hNone
    cases hNone

theorem plain_of_not_mem {text : List Char} (h : '[' ∉ text) : Plain text := by
  refine plain_iff.2 fun front back hText => absurd ?_ h
  rw [hText]
  exact List.mem_append_right _ (List.mem_cons_self ..)

theorem Plain.of_append {front back : List Char} (h : Plain (front ++ back)) : Plain back := by
  refine plain_iff.2 fun before after hText => plain_iff.1 h (front ++ before) after ?_
  rw [hText, List.append_assoc]

/-- Text that is put together is plain if behind no bracket of its first part a name is read. -/
theorem plain_append_of_seam {front back : List Char} (hBack : Plain back)
    (hSeam : ∀ before part, front = before ++ '[' :: part → readName (part ++ back) = none) :
    Plain (front ++ back) := by
  refine plain_iff.2 fun before after hText => ?_
  rcases List.append_eq_append_iff.1 hText with ⟨part, _, hPart⟩ | ⟨part, hFront, hPart⟩
  · exact plain_iff.1 hBack part after hPart
  · cases part with
    | nil => exact plain_iff.1 hBack [] after hPart.symm
    | cons c part =>
        obtain ⟨rfl, rfl⟩ := List.cons.inj hPart
        exact hSeam before part hFront

/-- No bracketed identifier forms at a seam behind which a name is interrupted. -/
theorem Plain.append {front back : List Char} (hFront : Plain front) (hBack : Plain back)
    (hSeam : Interrupts back) : Plain (front ++ back) :=
  plain_append_of_seam hBack fun before part hSplit =>
    readName_append_eq_none (plain_iff.1 hFront before part hSplit) hSeam

/-- Text without an opening bracket begins no bracketed identifier at a seam. -/
theorem Plain.append_of_not_mem {front back : List Char} (h : '[' ∉ front) (hBack : Plain back) :
    Plain (front ++ back) := by
  refine plain_append_of_seam hBack fun before part hSplit => absurd ?_ h
  rw [hSplit]
  exact List.mem_append_right _ (List.mem_cons_self ..)

/-! ## Steps of a scan -/

theorem scanFrom_nil (column : Nat) (pending : List Char) :
    scanFrom column pending [] = flush pending := by
  rw [scanFrom]

theorem scanFrom_placeholder {rest name rest' : List Char}
    (h : readName rest = some (name, rest')) (column : Nat) (pending : List Char) :
    scanFrom column pending ('[' :: rest) =
      flush pending ++ .placeholder (String.ofList name) column ::
        scanFrom (column + name.length + 2) [] rest' := by
  rw [scanFrom, if_pos rfl]
  split
  · next found rest'' hRead =>
      rw [h] at hRead
      cases hRead
      rfl
  · next hRead =>
      rw [h] at hRead
      cases hRead

theorem scanFrom_bracket {rest : List Char} (h : readName rest = none) (column : Nat)
    (pending : List Char) :
    scanFrom column pending ('[' :: rest) = scanFrom (column + 1) ('[' :: pending) rest := by
  rw [scanFrom, if_pos rfl]
  split
  · next hRead =>
      rw [h] at hRead
      cases hRead
  · rfl

theorem scanFrom_other {c : Char} (h : c ≠ '[') (column : Nat) (pending rest : List Char) :
    scanFrom column pending (c :: rest) = scanFrom (column + 1) (c :: pending) rest := by
  rw [scanFrom, if_neg h]

/-- The spelling of a placeholder is scanned as one. -/
theorem scanFrom_source_placeholder {name : String} (h : isIdentifier name)
    (found column : Nat) (pending rest : List Char) :
    scanFrom column pending ((Segment.placeholder name found).source ++ rest) =
      flush pending ++ .placeholder name column ::
        scanFrom (column + name.toList.length + 2) [] rest := by
  have hRead : readName (name.toList ++ ']' :: rest) = some (name.toList, rest) :=
    readName_eq_some_iff.2 ⟨rfl, h⟩
  have hSource : (Segment.placeholder name found).source ++ rest =
      '[' :: (name.toList ++ ']' :: rest) := by
    simp [Segment.source]
  rw [hSource, scanFrom_placeholder hRead, String.ofList_toList]

/-- Plain text in front of an interruption is taken up as literal text. -/
theorem scanFrom_plain {text rest : List Char} (h : Plain text) (hRest : Interrupts rest)
    (column : Nat) (pending : List Char) :
    scanFrom column pending (text ++ rest) =
      scanFrom (column + text.length) (text.reverse ++ pending) rest := by
  induction text generalizing column pending with
  | nil => simp
  | cons c text ih =>
      have hTail : Plain text := Plain.of_append (show Plain ([c] ++ text) from h)
      have hStep : scanFrom column pending (c :: (text ++ rest)) =
          scanFrom (column + 1) (c :: pending) (text ++ rest) := by
        by_cases hBracket : c = '['
        · subst hBracket
          exact scanFrom_bracket (readName_append_eq_none (plain_iff.1 h [] text rfl) hRest) ..
        · exact scanFrom_other hBracket ..
      rw [List.cons_append, hStep, ih hTail, List.reverse_cons, List.append_assoc,
        List.length_cons, Nat.add_assoc, Nat.add_comm 1]
      rfl

/-! ## The placeholders of a scan -/

/-- A bracket of a name that ends before it stands in what follows the name. -/
private theorem exists_of_append_eq {name rest front back : List Char} (hName : '[' ∉ name)
    (h : name ++ ']' :: rest = front ++ '[' :: back) :
    ∃ front', front = name ++ ']' :: front' ∧ rest = front' ++ '[' :: back := by
  rcases List.append_eq_append_iff.1 h with ⟨part, rfl, hPart⟩ | ⟨part, rfl, hPart⟩
  · cases part with
    | nil => cases hPart
    | cons c part =>
        obtain ⟨rfl, rfl⟩ := List.cons.inj hPart
        exact ⟨part, rfl, rfl⟩
  · cases part with
    | nil => cases hPart
    | cons c part =>
        obtain ⟨rfl, _⟩ := List.cons.inj hPart
        exact absurd (List.mem_append_right _ (List.mem_cons_self ..)) hName

theorem not_mem_of_isIdentifierText {name : List Char} (h : isIdentifierText name) :
    '[' ∉ name := by
  intro hMem
  exact absurd (isIdentifierPart_of_mem h _ hMem) (by decide)

/--
A scan passes over no bracketed identifier. Brackets inside one another do not hide it,
since no identifier has a bracket in it.
-/
theorem mem_scanFrom_of_split {column : Nat} {pending text name front back : List Char}
    (hName : isIdentifierText name) (hText : text = front ++ '[' :: (name ++ ']' :: back)) :
    .placeholder (String.ofList name) (column + front.length) ∈ scanFrom column pending text := by
  fun_induction scanFrom column pending text generalizing front with
  | case1 column pending => simp at hText
  | case2 column pending rest found rest' hRead ih =>
      obtain ⟨rfl, hFound⟩ := readName_eq_some_iff.1 hRead
      refine List.mem_append_right _ ?_
      cases front with
      | nil =>
          have hRest := (List.cons.inj hText).2
          rw [readName_eq_some_iff.2 ⟨hRest, hName⟩] at hRead
          cases hRead
          exact List.mem_cons_self ..
      | cons c front =>
          obtain ⟨front', rfl, rfl⟩ := exists_of_append_eq (not_mem_of_isIdentifierText hFound)
            (List.cons.inj hText).2
          have hRest := ih rfl
          refine List.mem_cons_of_mem _ ?_
          rw [List.length_cons, List.length_append, List.length_cons]
          rwa [show column + (found.length + (front'.length + 1) + 1) =
            column + found.length + 2 + front'.length by omega]
  | case3 column pending rest hRead ih =>
      cases front with
      | nil =>
          have hRest := (List.cons.inj hText).2
          rw [readName_eq_some_iff.2 ⟨hRest, hName⟩] at hRead
          cases hRead
      | cons c front =>
          have hRest := ih (List.cons.inj hText).2
          rwa [List.length_cons, Nat.add_comm front.length, ← Nat.add_assoc]
  | case4 column pending c rest hOther ih =>
      cases front with
      | nil => exact absurd (List.cons.inj hText).1 hOther
      | cons d front =>
          have hRest := ih (List.cons.inj hText).2
          rwa [List.length_cons, Nat.add_comm front.length, ← Nat.add_assoc]

/-- A placeholder is scanned exactly where a bracketed identifier stands. -/
theorem mem_scan_iff {text name : String} {column : Nat} :
    .placeholder name column ∈ scan text ↔
      StandsIn text.toList name column ∧ isIdentifier name := by
  constructor
  · intro h
    exact ⟨stands_of_mem_scan h, isIdentifier_of_mem_scanFrom h⟩
  · rintro ⟨⟨front, back, hText, rfl⟩, hName⟩
    have hMem : _ ∈ scanFrom 1 [] text.toList := mem_scanFrom_of_split hName hText
    rwa [String.ofList_toList, Nat.add_comm] at hMem

/-! ## Columns -/

/-- Every placeholder has the column at which it is spelled, from `column` on. -/
def Placed (column : Nat) : List Segment → Prop
  | [] => True
  | .text value :: rest => Placed (column + value.toList.length) rest
  | .placeholder name found :: rest =>
      found = column ∧ Placed (column + name.toList.length + 2) rest

theorem placed_flush_append {column : Nat} {pending : List Char} {segments : List Segment} :
    Placed column (flush pending ++ segments) ↔ Placed (column + pending.length) segments := by
  unfold flush
  split
  · next h => rw [List.isEmpty_iff.1 h, List.nil_append, List.length_nil, Nat.add_zero]
  · simp [Placed]

/-- A scan counts columns from where its pending text begins. -/
theorem placed_scanFrom {first column : Nat} {pending text : List Char}
    (h : column = first + pending.length) : Placed first (scanFrom column pending text) := by
  fun_induction scanFrom column pending text generalizing first with
  | case1 column pending =>
      have hFlush : Placed first (flush pending ++ []) := placed_flush_append.2 trivial
      rwa [List.append_nil] at hFlush
  | case2 column pending rest name rest' hRead ih =>
      refine placed_flush_append.2 ⟨h, ?_⟩
      rw [← h, String.toList_ofList]
      exact ih rfl
  | case3 column pending rest hRead ih => exact ih (by simp [h, Nat.add_assoc])
  | case4 column pending c rest hOther ih => exact ih (by simp [h, Nat.add_assoc])

theorem length_source_placeholder (name : String) (column : Nat) :
    (Segment.placeholder name column).source.length = name.toList.length + 2 := by
  simp [Segment.source]

/-- What is spelled before a placeholder leads to its column. -/
theorem Placed.column_eq {first : Nat} {before after : List Segment} {name : String}
    {column : Nat} (h : Placed first (before ++ .placeholder name column :: after)) :
    column = first + (before.flatMap Segment.source).length := by
  induction before generalizing first with
  | nil => exact h.1
  | cons segment before ih =>
      rw [List.flatMap_cons, List.length_append]
      cases segment with
      | text value =>
          rw [ih h, Segment.source, Nat.add_assoc]
      | placeholder found at_ =>
          rw [ih h.2, length_source_placeholder]
          omega

/-- Segments are placed when each placeholder has the column to which the text before it leads. -/
theorem placed_of_column_eq {first : Nat} {segments : List Segment}
    (h : ∀ before name column after, segments = before ++ .placeholder name column :: after →
      column = first + (before.flatMap Segment.source).length) : Placed first segments := by
  induction segments generalizing first with
  | nil => trivial
  | cons segment segments ih =>
      cases segment with
      | text value =>
          refine ih fun before name column after hSplit => ?_
          rw [h (.text value :: before) name column after (by rw [hSplit]; rfl), List.flatMap_cons,
            List.length_append, Segment.source, Nat.add_assoc]
      | placeholder found at_ =>
          refine ⟨h [] found at_ segments rfl, ih fun before name column after hSplit => ?_⟩
          rw [h (.placeholder found at_ :: before) name column after (by rw [hSplit]; rfl),
            List.flatMap_cons, List.length_append, length_source_placeholder]
          omega

/-- Placed placeholders stand in the order of their columns. -/
theorem Placed.pairwise {first : Nat} {segments : List Segment} (h : Placed first segments) :
    (∀ column ∈ (Resolution.placeholders segments).map Prod.snd, first ≤ column) ∧
      ((Resolution.placeholders segments).map Prod.snd).Pairwise (· < ·) := by
  induction segments generalizing first with
  | nil => exact ⟨nofun, List.Pairwise.nil⟩
  | cons segment segments ih =>
      cases segment with
      | text value =>
          obtain ⟨hLower, hOrder⟩ := ih h
          exact ⟨fun column hMem => Nat.le_trans (Nat.le_add_right ..) (hLower column hMem), hOrder⟩
      | placeholder name found =>
          obtain ⟨rfl, hRest⟩ := h
          obtain ⟨hLower, hOrder⟩ := ih hRest
          refine ⟨fun column hMem => ?_, List.Pairwise.cons (fun column hMem => ?_) hOrder⟩
          · rcases List.mem_cons.1 hMem with rfl | hMem
            · exact Nat.le_refl _
            · have := hLower column hMem
              omega
          · have := hLower column hMem
            omega

/--
A placeholder is reported at a column exactly if an identifier stands there in
brackets, and at each column once. A bracketed text is one placeholder exactly if it
is an identifier, which is to say, exactly if it matches the pattern for identifiers.
-/
theorem scan_exact (text : String) :
    (∀ name column, .placeholder name column ∈ scan text ↔
      StandsIn text.toList name column ∧ isIdentifier name) ∧
    ((Resolution.placeholders (scan text)).map Prod.snd).Pairwise (· < ·) ∧
    (scan ("[" ++ text ++ "]") = [.placeholder text 1] ↔ isIdentifier text) ∧
    (isIdentifier text ↔ text.toList ∈ identifierPattern.matches') := by
  have hPlaced : Placed 1 (scan text) := placed_scanFrom rfl
  refine ⟨fun _ _ => mem_scan_iff, hPlaced.pairwise.2, ?_, mem_identifierPattern_iff.symm⟩
  constructor
  · intro h
    have hMem : .placeholder text 1 ∈ scan ("[" ++ text ++ "]") := by
      rw [h]
      exact List.mem_cons_self ..
    exact (mem_scan_iff.1 hMem).2
  · intro hName
    have hText : ("[" ++ text ++ "]").toList = (Segment.placeholder text 1).source ++ [] := by
      simp [Segment.source]
    rw [scan, hText, scanFrom_source_placeholder hName, scanFrom_nil]
    rfl

/-! ## Normal segments -/

def spelled (segments : List Segment) : String := String.ofList (segments.flatMap Segment.source)

/--
Segments in normal form: the columns count what is spelled before, and no literal text is
empty or stands next to another one.
-/
structure Normal (segments : List Segment) : Prop where
  text_ne_empty : ∀ value, .text value ∈ segments → value ≠ ""
  alternating : Alternating segments
  isIdentifier_name : ∀ name column, .placeholder name column ∈ segments → isIdentifier name
  column_eq : ∀ before name column after,
    segments = before ++ .placeholder name column :: after →
      column = 1 + (spelled before).toList.length

def PlainTexts (segments : List Segment) : Prop :=
  ∀ value, .text value ∈ segments → Plain value.toList

/-! ### Scans are normal -/

theorem eq_of_mem_flush {pending : List Char} {value : String} (h : .text value ∈ flush pending) :
    value = String.ofList pending.reverse ∧ pending ≠ [] := by
  unfold flush at h
  split at h
  · cases h
  · next hPending =>
      refine ⟨Segment.text.inj (List.mem_singleton.1 h), ?_⟩
      rintro rfl
      exact hPending rfl

theorem text_ne_empty_of_mem_flush {pending : List Char} {value : String}
    (h : .text value ∈ flush pending) : value ≠ "" := by
  obtain ⟨rfl, hPending⟩ := eq_of_mem_flush h
  simpa using hPending

/-- Behind no bracket of the pending text a name is read, however the text goes on. -/
def Unread (pending text : List Char) : Prop :=
  ∀ front back, pending.reverse = front ++ '[' :: back → readName (back ++ text) = none

theorem unread_nil (text : List Char) : Unread [] text := by
  intro front back h
  simp at h

/-- A character is taken up that begins no placeholder. -/
theorem Unread.cons {c : Char} {pending rest : List Char} (h : Unread pending (c :: rest))
    (hRead : c = '[' → readName rest = none) : Unread (c :: pending) rest := by
  intro front back hSplit
  rw [List.reverse_cons] at hSplit
  rcases List.append_eq_append_iff.1 hSplit with ⟨part, rfl, hPart⟩ | ⟨part, hFront, hPart⟩
  · cases part with
    | nil =>
        obtain ⟨rfl, rfl⟩ := List.cons.inj hPart
        exact hRead rfl
    | cons d part =>
        have hEnd := (List.cons.inj hPart).2
        cases part <;> cases hEnd
  · cases part with
    | nil =>
        obtain ⟨rfl, rfl⟩ := List.cons.inj hPart
        exact hRead rfl
    | cons d part =>
        obtain ⟨rfl, rfl⟩ := List.cons.inj hPart
        have hBack := h front part hFront
        rwa [← List.singleton_append, ← List.append_assoc] at hBack

/-- Behind a bracket where no name is read with more text, none is read without it. -/
theorem readName_eq_none_of_append {text more : List Char} (h : readName (text ++ more) = none) :
    readName text = none := by
  cases hRead : readName text with
  | none => rfl
  | some found =>
      obtain ⟨name, rest⟩ := found
      obtain ⟨rfl, hName⟩ := readName_eq_some_iff.1 hRead
      rw [List.append_assoc, List.cons_append, readName_eq_some_iff.2 ⟨rfl, hName⟩] at h
      cases h

theorem Unread.plain_flush {pending text : List Char} (h : Unread pending text) {value : String}
    (hMem : .text value ∈ flush pending) : Plain value.toList := by
  rw [(eq_of_mem_flush hMem).1, String.toList_ofList]
  exact plain_iff.2 fun front back hText => readName_eq_none_of_append (h front back hText)

/-- A literal text of a scan was pending, and no name was read behind any bracket of it. -/
theorem exists_flush_of_mem_scanFrom {column : Nat} {pending text : List Char} {value : String}
    (hPending : Unread pending text) (h : .text value ∈ scanFrom column pending text) :
    ∃ taken rest, Unread taken rest ∧ .text value ∈ flush taken := by
  fun_induction scanFrom column pending text with
  | case1 column pending => exact ⟨pending, [], hPending, h⟩
  | case2 column pending rest name rest' hRead ih =>
      rcases List.mem_append.1 h with h | h
      · exact ⟨pending, _, hPending, h⟩
      · rcases List.mem_cons.1 h with h | h
        · cases h
        · exact ih (unread_nil _) h
  | case3 column pending rest hRead ih => exact ih (hPending.cons fun _ => hRead) h
  | case4 column pending c rest hOther ih =>
      exact ih (hPending.cons fun hBracket => absurd hBracket hOther) h

theorem text_ne_empty_of_mem_scan {text value : String} (h : .text value ∈ scan text) :
    value ≠ "" := by
  obtain ⟨taken, rest, _, hMem⟩ := exists_flush_of_mem_scanFrom (unread_nil _) h
  exact text_ne_empty_of_mem_flush hMem

theorem plainTexts_scan (text : String) : PlainTexts (scan text) := by
  intro value h
  obtain ⟨taken, rest, hTaken, hMem⟩ := exists_flush_of_mem_scanFrom (unread_nil _) h
  exact hTaken.plain_flush hMem

theorem normal_scan (text : String) : Normal (scan text) :=
  { text_ne_empty := fun _ hMem => text_ne_empty_of_mem_scan hMem
    alternating := alternating_scanFrom ..
    isIdentifier_name := fun _ _ hMem => isIdentifier_of_mem_scanFrom hMem
    column_eq := by
      intro before name column after hSplit
      have hPlaced : Placed 1 (scan text) := placed_scanFrom rfl
      rw [hSplit] at hPlaced
      rw [spelled, String.toList_ofList]
      exact hPlaced.column_eq }

theorem spelled_scan (text : String) : spelled (scan text) = text := by
  rw [spelled, scan, source_scanFrom, List.reverse_nil, List.nil_append, String.ofList_toList]

/-! ### Normal segments are scanned -/

/-- Pending text is a segment of its own if no literal text follows it. -/
theorem scanFrom_pending {segments : List Segment}
    (hNames : ∀ name column, .placeholder name column ∈ segments → isIdentifier name)
    (hFirst : ∀ value rest, segments ≠ .text value :: rest) (column : Nat)
    (pending : List Char) :
    scanFrom column pending (segments.flatMap Segment.source) =
      flush pending ++ scanFrom column [] (segments.flatMap Segment.source) := by
  cases segments with
  | nil =>
      rw [List.flatMap_nil, scanFrom_nil, scanFrom_nil]
      exact (List.append_nil _).symm
  | cons segment segments =>
      cases segment with
      | text value => exact absurd rfl (hFirst value segments)
      | placeholder name found =>
          have hName := hNames name found (List.mem_cons_self ..)
          rw [List.flatMap_cons, scanFrom_source_placeholder hName,
            scanFrom_source_placeholder hName]
          rfl

/-- What segments spell interrupts a name if no literal text comes first. -/
theorem interrupts_source {segments : List Segment}
    (hFirst : ∀ value rest, segments ≠ .text value :: rest) :
    Interrupts (segments.flatMap Segment.source) := by
  cases segments with
  | nil => exact interrupts_nil
  | cons segment segments =>
      cases segment with
      | text value => exact absurd rfl (hFirst value segments)
      | placeholder name found => exact interrupts_cons (by decide) (by decide) _

/--
Normal segments with plain literal texts are what is scanned from the text they spell. So
the segments of a text are told by these properties alone.
-/
theorem scanFrom_source {first : Nat} {segments : List Segment} (hPlaced : Placed first segments)
    (hAlternating : Alternating segments)
    (hTexts : ∀ value, .text value ∈ segments → value ≠ "" ∧ Plain value.toList)
    (hNames : ∀ name column, .placeholder name column ∈ segments → isIdentifier name) :
    scanFrom first [] (segments.flatMap Segment.source) = segments := by
  induction segments generalizing first with
  | nil => exact scanFrom_nil ..
  | cons segment segments ih =>
      have hMoreTexts := fun value hMem => hTexts value (List.mem_cons_of_mem segment hMem)
      have hMoreNames := fun name column hMem =>
        hNames name column (List.mem_cons_of_mem segment hMem)
      rw [List.flatMap_cons]
      cases segment with
      | text value =>
          obtain ⟨hValue, hPlain⟩ := hTexts value (List.mem_cons_self ..)
          have hFirst : ∀ other rest, segments ≠ .text other :: rest := by
            rintro other rest rfl
            exact hAlternating.rel ⟨⟨value, rfl⟩, other, rfl⟩
          have hFlush : flush value.toList.reverse = [.text value] := by
            have hSome : value.toList.reverse.isEmpty = false := by
              simpa using hValue
            rw [flush, hSome, List.reverse_reverse, String.ofList_toList]
            rfl
          rw [Segment.source, scanFrom_plain hPlain (interrupts_source hFirst), List.append_nil,
            scanFrom_pending hMoreNames hFirst, hFlush,
            ih hPlaced hAlternating.tail hMoreTexts hMoreNames]
          rfl
      | placeholder name found =>
          obtain ⟨rfl, hRest⟩ := hPlaced
          rw [scanFrom_source_placeholder (hNames name found (List.mem_cons_self ..)),
            ih hRest hAlternating.tail hMoreTexts hMoreNames]
          rfl

/-- Normal segments are scanned from what they spell. -/
theorem scan_of_normal {segments : List Segment} (h : Normal segments)
    (hPlain : PlainTexts segments) : scan (spelled segments) = segments := by
  have hPlaced : Placed 1 segments := placed_of_column_eq fun before name column after hSplit => by
    rw [h.column_eq before name column after hSplit, spelled, String.toList_ofList]
  rw [scan, spelled, String.toList_ofList]
  exact scanFrom_source hPlaced h.alternating
    (fun value hMem => ⟨h.text_ne_empty value hMem, hPlain value hMem⟩) h.isIdentifier_name

/--
The segments of a text spell it, are normal, and have no bracketed identifier in
their literal texts. No other segments do that, so the text that segments of a scan
spell is scanned as the same segments again.
-/
theorem scan_normal_unique (text : String) :
    spelled (scan text) = text ∧ Normal (scan text) ∧ PlainTexts (scan text) ∧
      (∀ segments, spelled segments = text → Normal segments → PlainTexts segments →
        segments = scan text) ∧
      scan (spelled (scan text)) = scan text := by
  refine ⟨spelled_scan text, normal_scan text, plainTexts_scan text, ?_, ?_⟩
  · rintro segments rfl hNormal hPlain
    exact (scan_of_normal hNormal hPlain).symm
  · rw [spelled_scan]

end BlockExtension.Placeholder
