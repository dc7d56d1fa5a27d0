import BlockExtension.Naming
import BlockExtension.Script.Identifier
import Mathlib.Data.List.Nodup

/-!
# What the names of arguments are

Whichever policy gives them, the identifiers of the arguments of one operation
can be written into the script as they are, and no two of them are the same. The
two policies have different reasons for the second: the ordinal policy writes
different numbers, and the random policy passes over every draw that is in use.

## Main results

* `Naming.length_of_take`: every argument gets an identifier.
* `Naming.forall_of_take`: what holds of counted names and of draws holds of all
  that is given.
* `Naming.isIdentifier_of_take`: what is given is an identifier.
* `Naming.ordinalId_inj`: a counted name tells its opcode and its number.
* `Naming.drawn_of_take`: nothing is drawn twice, nor what was in use.
* `Naming.nodup_of_take`: nothing is given twice.
-/

namespace BlockExtension

/-! ## Single identifiers -/

namespace RandomName

/-- A draw is an identifier. -/
theorem isIdentifier_text (name : RandomName) : Script.isIdentifier name.text := by
  have hLetter : ∀ n : Fin 52, Script.isIdentifierStart (RandomName.letter n) := by decide
  obtain ⟨letters, hLength⟩ := name
  cases letters with
  | nil => cases hLength
  | cons first rest =>
      simp only [Script.isIdentifier, RandomName.text, String.toList_ofList, List.map_cons,
        Script.isIdentifierText, Bool.and_eq_true, List.all_map, List.all_eq_true]
      exact ⟨hLetter first, fun n _ =>
        Script.isIdentifierPart_of_isIdentifierStart (hLetter n)⟩

/-- A draw has eleven letters. -/
theorem length_text (name : RandomName) : name.text.toList.length = 11 := by
  simp [text, name.length_eq]

/-- A draw consists of letters. -/
theorem isAlpha_of_mem_text (name : RandomName) : ∀ c ∈ name.text.toList, c.isAlpha := by
  have hLetter : ∀ n : Fin 52, (letter n).isAlpha := by decide
  simp [text, hLetter]

/-- What is taken from a supply is one of its draws. -/
theorem exists_text_of_takeUnused {used : List String} {supply rest : List RandomName}
    {id : String} (h : takeUnused used supply = some (id, rest)) :
    ∃ name : RandomName, id = name.text := by
  induction supply with
  | nil => cases h
  | cons name more ih =>
      simp only [takeUnused] at h
      split at h
      · exact ih h
      · cases h
        exact ⟨name, rfl⟩

/-- What is taken from a supply is taken from a longer one as well. -/
theorem takeUnused_append {used : List String} {supply rest : List RandomName} {id : String}
    (h : takeUnused used supply = some (id, rest)) (more : List RandomName) :
    takeUnused used (supply ++ more) = some (id, rest ++ more) := by
  induction supply with
  | nil => cases h
  | cons name supply ih =>
      simp only [takeUnused, List.cons_append] at h ⊢
      split at h
      · next hUsed => rw [if_pos hUsed, ih h]
      · next hUnused =>
          cases h
          rw [if_neg hUnused]

end RandomName

namespace Naming

theorem toList_ordinalId (opcode : String) (ordinal : Nat) :
    (ordinalId opcode ordinal).toList =
      opcode.toList ++ '_' :: 'a' :: 'r' :: 'g' :: Nat.toDigits 10 ordinal := by
  simp [ordinalId, ToString.toString]

/-- A counted name is an identifier if the opcode is. -/
theorem isIdentifier_ordinalId {opcode : String} (h : Script.isIdentifier opcode)
    (ordinal : Nat) : Script.isIdentifier (ordinalId opcode ordinal) := by
  rw [Script.isIdentifier, toList_ordinalId]
  refine Script.isIdentifierText_append h ?_
  have hDigits : (Nat.toDigits 10 ordinal).all Script.isIdentifierPart := by
    rw [List.all_eq_true]
    intro c hc
    have hDigit : c.isDigit := Nat.isDigit_of_mem_toDigits (by decide) (by decide) hc
    simp [Script.isIdentifierPart, hDigit]
  rw [List.all_cons, List.all_cons, List.all_cons, List.all_cons, hDigits]
  decide

/-- Different numbers make different names. -/
theorem ordinalId_injective (opcode : String) : Function.Injective (ordinalId opcode) := by
  intro m n h
  have hText := congrArg String.toList h
  rw [toList_ordinalId, toList_ordinalId, List.append_cancel_left_eq] at hText
  have hDigits : Nat.toDigits 10 m = Nat.toDigits 10 n := by simpa using hText
  rw [← Nat.ofDigitChars_ten_toDigits (n := m), ← Nat.ofDigitChars_ten_toDigits (n := n), hDigits]

/--
A counted name tells the opcode and the number, which is what stands behind its last
letter.
-/
theorem ordinalId_inj {opcode opcode' : String} {ordinal ordinal' : Nat}
    (h : ordinalId opcode ordinal = ordinalId opcode' ordinal') :
    opcode = opcode' ∧ ordinal = ordinal' := by
  suffices hOpcode : opcode = opcode' by
    subst hOpcode
    exact ⟨rfl, ordinalId_injective opcode h⟩
  have hNoLetter (number : Nat) : 'g' ∉ Nat.toDigits 10 number := fun hMem =>
    absurd (Nat.isDigit_of_mem_toDigits (by decide) (by decide) hMem) (by decide)
  have hStem {stem stem' digits digits' : List Char} (hLeft : 'g' ∉ digits)
      (hRight : 'g' ∉ digits') (hSame : stem ++ 'g' :: digits = stem' ++ 'g' :: digits') :
      stem = stem' := by
    rcases List.append_eq_append_iff.1 hSame with ⟨gap, rfl, hGap⟩ | ⟨gap, rfl, hGap⟩
    · cases gap with
      | nil => simp
      | cons first gap =>
          obtain ⟨rfl, rfl⟩ := List.cons.inj hGap
          simp at hLeft
    · cases gap with
      | nil => simp
      | cons first gap =>
          obtain ⟨rfl, rfl⟩ := List.cons.inj hGap
          simp at hRight
  have hText := congrArg String.toList h
  rw [toList_ordinalId, toList_ordinalId] at hText
  have hStems : opcode.toList ++ ['_', 'a', 'r'] = opcode'.toList ++ ['_', 'a', 'r'] :=
    hStem (hNoLetter ordinal) (hNoLetter ordinal') (by simpa using hText)
  exact String.toList_inj.1 (List.append_cancel_right hStems)

/-! ## Names and words -/

/-- A text that ends in a digit, or that consists of eleven letters. -/
def looksGenerated (text : List Char) : Bool :=
  text.getLast?.any Char.isDigit || (text.length = 11 && text.all Char.isAlpha)

/-- A counted name ends in a digit. -/
theorem looksGenerated_ordinalId (opcode : String) (ordinal : Nat) :
    looksGenerated (ordinalId opcode ordinal).toList := by
  have hNonempty : Nat.toDigits 10 ordinal ≠ [] := Nat.toDigits_ne_nil
  have hLast := List.getLast_mem hNonempty
  have hDigit : ((Nat.toDigits 10 ordinal).getLast hNonempty).isDigit :=
    Nat.isDigit_of_mem_toDigits (by decide) (by decide) hLast
  have hText : (ordinalId opcode ordinal).toList =
      (opcode.toList ++ ['_', 'a', 'r', 'g']) ++ Nat.toDigits 10 ordinal := by
    rw [toList_ordinalId, List.append_assoc]
    rfl
  have hEnd : (ordinalId opcode ordinal).toList.getLast? =
      some ((Nat.toDigits 10 ordinal).getLast hNonempty) := by
    rw [hText, List.getLast?_append_of_ne_nil _ hNonempty, List.getLast?_eq_some_getLast hNonempty]
  rw [looksGenerated, hEnd, Option.any_some, hDigit, Bool.true_or]

/-- A draw consists of eleven letters. -/
theorem looksGenerated_text (name : RandomName) : looksGenerated name.text.toList := by
  have hLetter : ∀ n : Fin 52, (RandomName.letter n).isAlpha := by decide
  simp [looksGenerated, RandomName.text, name.length_eq, hLetter]

/-! ## The identifiers of one operation -/

/-- An identifier is given by the next draw or is one of those given later. -/
theorem take_succ {naming after : Naming} {opcode : String} {ordinal count : Nat}
    {ids : List String} (h : naming.take opcode ordinal (count + 1) = some (ids, after)) :
    ∃ id naming' rest, naming.next opcode ordinal = some (id, naming') ∧
      naming'.take opcode (ordinal + 1) count = some (rest, after) ∧ ids = id :: rest := by
  simp only [take] at h
  split at h
  · cases h
  · next id naming' hNext =>
      rw [Option.map_eq_some_iff] at h
      obtain ⟨⟨rest, last⟩, hRest, hPair⟩ := h
      cases hPair
      exact ⟨id, naming', rest, hNext, hRest, rfl⟩

/-- Every argument gets an identifier. -/
theorem length_of_take {naming after : Naming} {opcode : String} {ordinal count : Nat}
    {ids : List String} (h : naming.take opcode ordinal count = some (ids, after)) :
    ids.length = count := by
  induction count generalizing naming ordinal ids with
  | zero =>
      cases h
      rfl
  | succ count ih =>
      obtain ⟨id, naming', rest, _, hRest, rfl⟩ := take_succ h
      rw [List.length_cons, ih hRest]

/-- What holds of counted names and of draws holds of the next identifier. -/
theorem of_next {P : String → Prop} {naming after : Naming} {opcode id : String} {ordinal : Nat}
    (hOrdinal : ∀ n, P (ordinalId opcode n)) (hRandom : ∀ name : RandomName, P name.text)
    (h : naming.next opcode ordinal = some (id, after)) : P id := by
  cases naming with
  | ordinal =>
      cases h
      exact hOrdinal ordinal
  | random used supply =>
      simp only [next, Option.map_eq_some_iff] at h
      obtain ⟨⟨drawn, rest⟩, hDrawn, hPair⟩ := h
      cases hPair
      obtain ⟨name, rfl⟩ := RandomName.exists_text_of_takeUnused hDrawn
      exact hRandom name

/-- What holds of counted names and of draws holds of all that is given. -/
theorem forall_of_take {P : String → Prop} {naming after : Naming} {opcode : String}
    {ordinal count : Nat} {ids : List String} (hOrdinal : ∀ n, P (ordinalId opcode n))
    (hRandom : ∀ name : RandomName, P name.text)
    (h : naming.take opcode ordinal count = some (ids, after)) : ∀ id ∈ ids, P id := by
  induction count generalizing naming ordinal ids with
  | zero =>
      cases h
      simp
  | succ count ih =>
      obtain ⟨id, naming', rest, hNext, hRest, rfl⟩ := take_succ h
      intro found hMem
      rcases List.mem_cons.1 hMem with rfl | hMem
      · exact of_next hOrdinal hRandom hNext
      · exact ih hRest found hMem

/-- What is given to the arguments of an operation are identifiers. -/
theorem isIdentifier_of_take {naming after : Naming} {opcode : String} {ordinal count : Nat}
    {ids : List String} (hOpcode : Script.isIdentifier opcode)
    (h : naming.take opcode ordinal count = some (ids, after)) :
    ∀ id ∈ ids, Script.isIdentifier id :=
  forall_of_take (P := fun id => Script.isIdentifier id) (isIdentifier_ordinalId hOpcode)
    RandomName.isIdentifier_text h

/--
Names that were drawn one after the other, while others were in use: all different, none of
those in use, and all of eleven letters.
-/
structure Drawn (used ids : List String) : Prop where
  /-- No name was drawn twice. -/
  nodup : ids.Nodup
  /-- No name that was in use was drawn. -/
  unused : ∀ id ∈ ids, id ∉ used
  /-- Each name is one of the draws. -/
  text : ∀ id ∈ ids, ∃ name : RandomName, id = name.text

theorem Drawn.nil (used : List String) : Drawn used [] := ⟨List.nodup_nil, by simp, by simp⟩

/-- What is drawn counts as used from then on. -/
theorem Drawn.append {used first second : List String} (hFirst : Drawn used first)
    (hSecond : Drawn (first.reverse ++ used) second) : Drawn used (first ++ second) where
  nodup := by
    refine List.Nodup.append hFirst.nodup hSecond.nodup fun id hOne hTwo => ?_
    exact hSecond.unused id hTwo (List.mem_append_left _ (List.mem_reverse.2 hOne))
  unused id hMem := by
    rcases List.mem_append.1 hMem with hOne | hTwo
    · exact hFirst.unused id hOne
    · exact fun hUsed => hSecond.unused id hTwo (List.mem_append_right _ hUsed)
  text id hMem := (List.mem_append.1 hMem).elim (hFirst.text id) (hSecond.text id)

section Drawing

variable {used : List String} {supply : List RandomName} {after : Naming} {opcode : String}
  {ordinal : Nat}

theorem drawn_of_next {id : String}
    (h : (Naming.random used supply).next opcode ordinal = some (id, after)) :
    Drawn used [id] ∧ ∃ rest, after = .random (id :: used) rest := by
  have hUnused := next_random_not_used h
  simp only [next, Option.map_eq_some_iff] at h
  obtain ⟨⟨drawn, rest⟩, hDrawn, hPair⟩ := h
  cases hPair
  have hText := RandomName.exists_text_of_takeUnused hDrawn
  exact ⟨⟨List.nodup_singleton _, by simpa using hUnused, by simpa using hText⟩, rest, rfl⟩

theorem drawn_of_take {count : Nat} {ids : List String}
    (h : (Naming.random used supply).take opcode ordinal count = some (ids, after)) :
    Drawn used ids ∧ ∃ rest, after = .random (ids.reverse ++ used) rest := by
  induction count generalizing used supply ordinal ids with
  | zero =>
      cases h
      exact ⟨.nil used, supply, rfl⟩
  | succ count ih =>
      obtain ⟨id, naming', rest, hNext, hRest, rfl⟩ := take_succ h
      obtain ⟨hOne, supply', rfl⟩ := drawn_of_next hNext
      obtain ⟨hMore, left, rfl⟩ := ih hRest
      exact ⟨hOne.append hMore, left, by simp⟩

end Drawing

/-- No identifier is given twice within an operation. -/
theorem nodup_of_take {naming after : Naming} {opcode : String} {ordinal count : Nat}
    {ids : List String} (h : naming.take opcode ordinal count = some (ids, after)) :
    ids.Nodup := by
  cases naming with
  | ordinal =>
      rw [take_ordinal] at h
      cases h
      exact List.Nodup.map (ordinalId_injective opcode) (List.nodup_range' ..)
  | random used supply => exact (drawn_of_take h).1.nodup

end Naming

end BlockExtension
