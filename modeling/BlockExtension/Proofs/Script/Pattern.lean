import Mathlib
import BlockExtension.Script.Identifier

/-!
# Identifiers as a regular expression

The class of identifiers is often written down as the pattern
`[A-Za-z_$][A-Za-z0-9_$]*`, with a match that has to span the whole text. This file
writes that pattern as a regular expression, one range of characters at a time, and
compares its language with `isIdentifierText`, which looks at the characters instead.

## Main results

* `mem_span`: a range holds the characters between its ends.
* `mem_identifierPattern_iff`: the texts that match the pattern are the identifiers.
-/

namespace BlockExtension.Script

/-! ## Ranges of characters -/

/-- The characters from the first to the last, in order. -/
def span (first last : Char) : List Char :=
  (List.range' first.toNat (last.toNat + 1 - first.toNat)).map Char.ofNat

/-- A range below the surrogates holds the characters between its ends. -/
theorem mem_span {first last c : Char} (hLast : last.toNat < 0xD800) :
    c ∈ span first last ↔ first ≤ c ∧ c ≤ last := by
  have hFirst : first ≤ c ↔ first.toNat ≤ c.toNat := Iff.rfl
  have hEnd : c ≤ last ↔ c.toNat ≤ last.toNat := Iff.rfl
  rw [span, List.mem_map, hFirst, hEnd]
  constructor
  · rintro ⟨n, hMem, rfl⟩
    rw [List.mem_range'_1] at hMem
    have hValid : n.isValidChar := Or.inl (by omega)
    have hSame : (Char.ofNat n).toNat = n := by
      rw [Char.ofNat, dif_pos hValid]
      rfl
    omega
  · rintro ⟨hLow, hHigh⟩
    exact ⟨c.toNat, List.mem_range'_1.2 (by omega), Char.ofNat_toNat c⟩

/-- `[A-Za-z_$]` -/
def startClass : List Char := span 'A' 'Z' ++ span 'a' 'z' ++ ['_', '$']

/-- `[A-Za-z0-9_$]` -/
def partClass : List Char := span 'A' 'Z' ++ span 'a' 'z' ++ span '0' '9' ++ ['_', '$']

theorem mem_startClass_iff {c : Char} : c ∈ startClass ↔ isIdentifierStart c := by
  have hUpper : c ∈ span 'A' 'Z' ↔ 'A' ≤ c ∧ c ≤ 'Z' := mem_span (by decide)
  have hLower : c ∈ span 'a' 'z' ↔ 'a' ≤ c ∧ c ≤ 'z' := mem_span (by decide)
  simp [startClass, isIdentifierStart, Char.isAlpha, Char.isUpper, Char.isLower, hUpper, hLower,
    Char.le_def, or_assoc]

theorem mem_partClass_iff {c : Char} : c ∈ partClass ↔ isIdentifierPart c := by
  have hDigit : c ∈ span '0' '9' ↔ c.isDigit := by
    rw [mem_span (by decide)]
    simp [Char.isDigit, Char.le_def]
  have hStart : isIdentifierPart c ↔ c ∈ startClass ∨ c.isDigit := by
    rw [mem_startClass_iff, isIdentifierPart, Bool.or_eq_true]
  rw [hStart, ← hDigit]
  simp only [partClass, startClass, List.mem_append]
  tauto

/-! ## The pattern -/

def oneOf (characters : List Char) : RegularExpression Char :=
  (characters.map RegularExpression.char).sum

theorem mem_oneOf_iff {characters text : List Char} :
    text ∈ (oneOf characters).matches' ↔ ∃ c ∈ characters, text = [c] := by
  induction characters with
  | nil => simp [oneOf, Language.notMem_zero]
  | cons c characters ih =>
      have hFirst : text ∈ ({[c]} : Language Char) ↔ text = [c] := Iff.rfl
      rw [oneOf, List.map_cons, List.sum_cons, RegularExpression.matches'_add, Language.mem_add,
        RegularExpression.matches'_char, ← oneOf, ih, hFirst]
      simp

/-- Any number of characters of a class. -/
theorem mem_star_oneOf_iff {characters text : List Char} :
    text ∈ (oneOf characters).star.matches' ↔ ∀ c ∈ text, c ∈ characters := by
  rw [RegularExpression.matches'_star, Language.mem_kstar]
  constructor
  · rintro ⟨parts, rfl, hParts⟩ c hMem
    obtain ⟨part, hPart, hc⟩ := List.mem_flatten.1 hMem
    obtain ⟨d, hd, rfl⟩ := mem_oneOf_iff.1 (hParts part hPart)
    rwa [List.mem_singleton.1 hc]
  · intro h
    refine ⟨text.map fun c => [c], ?_, fun part hPart => ?_⟩
    · rw [← List.flatMap_def, List.flatMap_singleton']
    obtain ⟨c, hc, rfl⟩ := List.mem_map.1 hPart
    exact mem_oneOf_iff.2 ⟨c, h c hc, rfl⟩

/-- `[A-Za-z_$][A-Za-z0-9_$]*` -/
def identifierPattern : RegularExpression Char := oneOf startClass * (oneOf partClass).star

/-- The texts that match the pattern from end to end are the identifiers. -/
theorem mem_identifierPattern_iff {text : List Char} :
    text ∈ identifierPattern.matches' ↔ isIdentifierText text := by
  rw [identifierPattern, RegularExpression.matches'_mul, Language.mem_mul]
  constructor
  · rintro ⟨front, hFront, back, hBack, rfl⟩
    obtain ⟨first, hFirst, rfl⟩ := mem_oneOf_iff.1 hFront
    rw [mem_star_oneOf_iff] at hBack
    simp only [List.singleton_append, isIdentifierText, Bool.and_eq_true, List.all_eq_true]
    exact ⟨mem_startClass_iff.1 hFirst, fun c hc => mem_partClass_iff.1 (hBack c hc)⟩
  · intro h
    cases text with
    | nil => cases h
    | cons first rest =>
        simp only [isIdentifierText, Bool.and_eq_true, List.all_eq_true] at h
        refine ⟨[first], mem_oneOf_iff.2 ⟨first, mem_startClass_iff.2 h.1, rfl⟩, rest, ?_, rfl⟩
        exact mem_star_oneOf_iff.2 fun c hc => mem_partClass_iff.2 (h.2 c hc)

end BlockExtension.Script
