import BlockExtension.Proofs.Script.Literals

/-!
# Texts that are read alike

The emitters put fixed text, names and free text together, and two modules that
differ in free text should differ nowhere else once they are read. That is a
statement about two runs of the machine: `Alike` says that both texts lead from
code to code through the same brackets, and that they are made of the same pieces
once the contents of the literals are erased. It compares code character by
character, and so it compares the words and marks of the code in whatever way the
characters are grouped.

Being alike is kept by every way in which the emitters put texts together, so it is
proved for each kind of part once and then carried up.

## Main results

* `Alike.append`, `AlikeAll.join`, `AlikeAll.intercalate`: texts that are put
  together from parts that are alike are alike.
* `Alike.inside`: open brackets around two texts do not matter.
* `alike_quote`: any two quoted strings are alike.
-/

namespace BlockExtension.Script.Lexer

/-! ## Erased contents -/

/-- Every piece but a character that a literal stands for. -/
def Piece.isKept : Piece → Bool
  | .content _ => false
  | _ => true

/-- The pieces without the contents of the literals. -/
def erase (pieces : List Piece) : List Piece := pieces.filter Piece.isKept

@[simp] theorem erase_nil : erase [] = [] := rfl

@[simp] theorem erase_append (front back : List Piece) :
    erase (front ++ back) = erase front ++ erase back := List.filter_append ..

@[simp] theorem erase_cons_content (c : Char) (pieces : List Piece) :
    erase (.content c :: pieces) = erase pieces := rfl

theorem erase_cons_of_isKept {piece : Piece} (h : piece.isKept) (pieces : List Piece) :
    erase (piece :: pieces) = piece :: erase pieces := List.filter_cons_of_pos h

@[simp] theorem erase_content (text : List Char) : erase (text.map .content) = [] := by
  induction text with
  | nil => rfl
  | cons c text ih => rw [List.map_cons, erase_cons_content, ih]

/-- Nothing but the marks is left of a quoted string. -/
theorem erase_quotedPieces (text : String) :
    erase (quotedPieces text) = [.opens .double, .closes .double] := by
  rw [quotedPieces, erase_cons_of_isKept rfl, erase_append, erase_content]
  rfl

/-! ## Two texts -/

/--
Two texts that lead from code to code, from the brackets `before` to the brackets
`after`, and differ in the contents of literals at most.
-/
def Alike (before after : List Bracket) (a b : String) : Prop :=
  ∃ p q, run ⟨.code, before⟩ a.toList = (⟨.code, after⟩, p) ∧
    run ⟨.code, before⟩ b.toList = (⟨.code, after⟩, q) ∧ erase p = erase q

section Alike

variable {before middle after opened : List Bracket} {a b c d : String}

/-- A text that leads from code to code is like itself. -/
theorem alike_of_run {text : String} {pieces : List Piece}
    (h : run ⟨.code, before⟩ text.toList = (⟨.code, after⟩, pieces)) :
    Alike before after text text := ⟨pieces, pieces, h, h, rfl⟩

/-- Text that is written down character by character, and leads from code to code. -/
theorem alike_fixed {text : List Char} (h : (run ⟨.code, before⟩ text).1 = ⟨.code, after⟩) :
    Alike before after (String.ofList text) (String.ofList text) := by
  have hRun : run ⟨.code, before⟩ (String.ofList text).toList =
      (⟨.code, after⟩, (run ⟨.code, before⟩ text).2) := by
    rw [String.toList_ofList, ← h]
  exact alike_of_run hRun

theorem alike_nil : Alike opened opened "" "" := alike_of_run rfl

theorem alike_plain (h : IsPlain a.toList) : Alike opened opened a a :=
  alike_of_run (run_plain h opened)

theorem alike_name (h : isIdentifier a) : Alike opened opened a a :=
  alike_plain (isPlain_of_isIdentifier h)

theorem alike_quote : Alike opened opened (quote a) (quote b) :=
  ⟨quotedPieces a, quotedPieces b, run_quote a opened, run_quote b opened, by
    rw [erase_quotedPieces, erase_quotedPieces]⟩

/-- Texts that are put together from parts that are alike are alike. -/
theorem Alike.append (hFront : Alike before middle a b) (hBack : Alike middle after c d) :
    Alike before after (a ++ c) (b ++ d) := by
  obtain ⟨p, q, hP, hQ, hFront⟩ := hFront
  obtain ⟨r, s, hR, hS, hBack⟩ := hBack
  refine ⟨p ++ r, q ++ s, ?_, ?_, ?_⟩
  · rw [String.toList_append, run_append, hP, hR]
    rfl
  · rw [String.toList_append, run_append, hQ, hS]
    rfl
  · rw [erase_append, erase_append, hFront, hBack]

/-- Open brackets around a text that leads from code to code do not matter. -/
theorem run_inside {text : String} {pieces : List Piece} (outer : List Bracket)
    (h : run ⟨.code, before⟩ text.toList = (⟨.code, after⟩, pieces)) :
    run ⟨.code, before ++ outer⟩ text.toList = (⟨.code, after ++ outer⟩, pieces) := by
  have hWhole : (run ⟨.code, before⟩ text.toList).1.mode ≠ .broken := by
    rw [h]
    exact fun hBroken => by cases hBroken
  have hFrame := run_frame outer hWhole
  rwa [h] at hFrame

/-- Open brackets around two texts do not matter. -/
theorem Alike.inside (h : Alike before after a b) (outer : List Bracket) :
    Alike (before ++ outer) (after ++ outer) a b := by
  obtain ⟨p, q, hP, hQ, hErase⟩ := h
  exact ⟨p, q, run_inside outer hP, run_inside outer hQ, hErase⟩

/-- What is alike where no bracket is open is alike everywhere. -/
theorem Alike.anywhere (h : Alike [] [] a b) : Alike opened opened a b := h.inside opened

/-- Texts that are alike from the start on are complete, and agree in all that is not erased. -/
theorem Alike.closed (h : Alike [] [] a b) :
    (run start a.toList).1 = start ∧
      erase (run start a.toList).2 = erase (run start b.toList).2 := by
  obtain ⟨p, q, hP, hQ, hErase⟩ := h
  rw [start, hP, hQ]
  exact ⟨rfl, hErase⟩

end Alike

/-! ## Lists of texts -/

/--
Two lists of texts that are alike one by one, each from where the one before it ended. Their
joined texts are then alike as well.
-/
inductive AlikeAll : List Bracket → List Bracket → List String → List String → Prop where
  | nil {opened : List Bracket} : AlikeAll opened opened [] []
  | cons {before middle after : List Bracket} {a b : String} {as bs : List String}
      (first : Alike before middle a b) (rest : AlikeAll middle after as bs) :
      AlikeAll before after (a :: as) (b :: bs)

namespace AlikeAll

variable {before middle after opened : List Bracket} {as bs cs ds : List String}

theorem single {a b : String} (h : Alike before after a b) : AlikeAll before after [a] [b] :=
  .cons h .nil

theorem append (hFront : AlikeAll before middle as bs) (hBack : AlikeAll middle after cs ds) :
    AlikeAll before after (as ++ cs) (bs ++ ds) := by
  induction hFront with
  | nil => exact hBack
  | cons first _ ih => exact .cons first (ih hBack)

/-- The members of two lists are alike one by one. -/
theorem of_forall₂ (h : List.Forall₂ (Alike opened opened) as bs) :
    AlikeAll opened opened as bs := by
  induction h with
  | nil => exact .nil
  | cons first _ ih => exact .cons first ih

/-- A change that keeps texts alike can be made to all texts of two lists. -/
theorem map {f g : String → String}
    (hf : ∀ {before after a b}, Alike before after a b → Alike before after (f a) (g b))
    (h : AlikeAll before after as bs) : AlikeAll before after (as.map f) (bs.map g) := by
  induction h with
  | nil => exact .nil
  | cons first _ ih => exact .cons (hf first) ih

/-- Open brackets around two lists of texts do not matter. -/
theorem inside (h : AlikeAll before after as bs) (outer : List Bracket) :
    AlikeAll (before ++ outer) (after ++ outer) as bs := by
  induction h with
  | nil => exact .nil
  | cons first _ ih => exact .cons (first.inside outer) ih

theorem isEmpty_eq (h : AlikeAll before after as bs) : as.isEmpty = bs.isEmpty := by
  cases h <;> rfl

/-- Texts one behind the other. -/
theorem join (h : AlikeAll before after as bs) :
    Alike before after (String.join as) (String.join bs) := by
  induction h with
  | nil => exact alike_nil
  | cons first _ ih =>
      rw [String.join_cons, String.join_cons]
      exact first.append ih

/-- Texts one behind the other with a fixed text between them. -/
theorem intercalate {separator : String}
    (hSeparator : ∀ brackets, Alike brackets brackets separator separator)
    (h : AlikeAll before after as bs) :
    Alike before after (separator.intercalate as) (separator.intercalate bs) := by
  induction h with
  | nil => exact alike_nil
  | cons first rest ih =>
      cases rest with
      | nil =>
          rw [String.intercalate_singleton, String.intercalate_singleton]
          exact first
      | cons _ _ =>
          rw [String.intercalate_cons_cons, String.intercalate_cons_cons]
          exact (first.append (hSeparator _)).append ih

end AlikeAll

end BlockExtension.Script.Lexer
