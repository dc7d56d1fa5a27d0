import BlockExtension.Proofs.Acceptance
import BlockExtension.Proofs.Script.Alike
import BlockExtension.Script.Literal
import Mathlib.Data.List.Forall2

/-!
# Literals that are read alike

The descriptor is rendered as one literal of the script. This file carries `Alike`
through the rendering: two literals of one shape are read alike when their texts
differ, and the places where no text can stand, such as numbers and paths, are
plain code.

## Main results

* `isPlain_write`: a number has neither marks nor brackets in it.
* `AlikeLiteral.record`, `AlikeLiteral.sequence`: containers are alike when what
  they contain is.
-/

namespace BlockExtension

open BlockExtension.Script (Literal quote spaces isIdentifier)
open BlockExtension.Script.Lexer

/-! ## Numbers -/

theorem role_of_isDigit {c : Char} (h : c.isDigit) : role c = .plain :=
  role_of_isIdentifierPart (by simp [Script.isIdentifierPart, h])

private theorem isPlain_toDigits (n : Nat) : IsPlain (Nat.toDigits 10 n) := fun _ hc =>
  role_of_isDigit (Nat.isDigit_of_mem_toDigits (by decide) (by decide) hc)

section Layout

open BlockExtension.Decimal

variable {digits : List Char}

private theorem isPlain_significantDigits (h : IsPlain digits) :
    IsPlain (significantDigits digits) := by
  unfold significantDigits
  split
  · exact isPlain_replicate (by decide) 1
  · refine IsPlain.subset ?_ h
    intro c hc
    have hDropped := (List.dropWhile_sublist _).subset (List.mem_reverse.1 hc)
    exact List.mem_reverse.1 hDropped

private theorem isPlain_inPlace (h : IsPlain digits) (leading : Int) :
    IsPlain (Layout.inPlace digits leading) := by
  unfold Layout.inPlace
  split
  · have hZeros := isPlain_replicate (c := '0') (by decide) (leading.natAbs - 1)
    exact IsPlain.cons (by decide) (IsPlain.cons (by decide) (hZeros.append h))
  · have hWhole : IsPlain (digits.take (leading.natAbs + 1)) :=
      IsPlain.subset (List.take_subset ..) h
    have hZeros := isPlain_replicate (c := '0') (by decide)
      (leading.natAbs + 1 - digits.length)
    refine (hWhole.append hZeros).append (IsPlain.cons (by decide) ?_)
    split
    · exact isPlain_replicate (by decide) 1
    · exact IsPlain.subset (List.drop_subset ..) h

private theorem isPlain_withExponent {layout : Layout} (hMark : role layout.mark = .plain)
    (h : IsPlain digits) (leading : Int) : IsPlain (layout.withExponent digits leading) := by
  have hSign :
      IsPlain (if leading < 0 then ['-'] else if layout.signAlways then ['+'] else []) := by
    split
    · exact isPlain_replicate (by decide) 1
    · split
      · exact isPlain_replicate (by decide) 1
      · exact isPlain_replicate (c := '+') (by decide) 0
  have hFirst : IsPlain (digits.take 1) := IsPlain.subset (List.take_subset ..) h
  have hFraction : IsPlain
      (if (digits.drop 1).isEmpty then [] else '.' :: digits.drop 1) := by
    split
    · exact isPlain_replicate (c := '.') (by decide) 0
    · exact IsPlain.cons (by decide) (IsPlain.subset (List.drop_subset ..) h)
  exact ((hFirst.append hFraction).append (IsPlain.cons hMark hSign)).append (isPlain_toDigits _)

private theorem isPlain_layout {layout : Layout} (hMark : role layout.mark = .plain)
    (x : Decimal.Double) : IsPlain (layout.write x) := by
  have hDigits := isPlain_significantDigits (isPlain_toDigits x.shortest.coefficient)
  have hBody : IsPlain
      (if layout.leastInPlace ≤ x.shortest.leadingExponent &&
          x.shortest.leadingExponent < layout.firstBeyond then
        Layout.inPlace (significantDigits x.shortest.digits) x.shortest.leadingExponent
      else layout.withExponent (significantDigits x.shortest.digits)
        x.shortest.leadingExponent) := by
    split
    · exact isPlain_inPlace hDigits _
    · exact isPlain_withExponent hMark hDigits _
  unfold Layout.write
  dsimp only
  split
  · exact IsPlain.cons (by decide) hBody
  · exact hBody

end Layout

/-- A number has neither marks nor brackets in it. -/
theorem isPlain_write (number : Json.Number) : IsPlain number.write.toList := by
  cases number with
  | integer value =>
      rw [Json.Number.write, String.toList_ofList, Json.writeInteger]
      split
      · exact IsPlain.cons (by decide) (isPlain_toDigits _)
      · exact isPlain_toDigits _
  | double value =>
      rw [Json.Number.write, String.toList_ofList]
      exact isPlain_layout (by decide) value

/-! ## Parts of a literal -/

section Parts

variable {before after inner opened : List Bracket}

theorem isPlain_spaces (n : Nat) : IsPlain (spaces n).toList := by
  rw [spaces, String.pushn_eq_repeat_push]
  induction n with
  | zero => exact isPlain_replicate (c := ' ') (by decide) 0
  | succ n ih =>
      rw [Nat.repeat, String.toList_push]
      exact ih.append (isPlain_replicate (by decide) 1)

theorem alike_spaces (n : Nat) : Alike opened opened (spaces n) (spaces n) :=
  alike_plain (isPlain_spaces n)

theorem alike_writeKey (key : String) :
    Alike opened opened (Script.writeKey key) (Script.writeKey key) := by
  unfold Script.writeKey
  split
  · next hKey => exact alike_name hKey
  · exact alike_quote

/-- The lines between the brackets of containers are alike when the entries are. -/
theorem alike_entryLines {entries others : List String} (h : AlikeAll inner inner entries others)
    (indent : Nat) :
    Alike inner inner
      ("\n" ++ String.join (entries.map (Script.entryLine (indent + 2))) ++ spaces indent)
      ("\n" ++ String.join (others.map (Script.entryLine (indent + 2))) ++ spaces indent) := by
  have hFeed : Alike inner inner "\n" "\n" := Alike.anywhere (alike_fixed (by decide))
  have hComma : ∀ brackets, Alike brackets brackets ",\n" ",\n" := fun brackets =>
    Alike.anywhere (alike_fixed (by decide))
  have hLines := h.map (f := Script.entryLine (indent + 2)) (g := Script.entryLine (indent + 2))
    fun hEntry => ((alike_spaces (indent + 2)).append hEntry).append (hComma _)
  exact (hFeed.append hLines.join).append (alike_spaces indent)

/-- The text of a container with entries. -/
theorem enclose_of_entries {entries : List String} (h : entries.isEmpty = false)
    (opening closing : String) (indent : Nat) :
    Script.enclose opening closing indent entries =
      opening ++ ("\n" ++ String.join (entries.map (Script.entryLine (indent + 2))) ++
        spaces indent) ++ closing := by
  rw [Script.enclose, h]
  simp only [Bool.false_eq_true, if_false, String.append_assoc]

/-- Containers are alike when their entries are. -/
theorem alike_enclose {opening closing : String} {entries others : List String}
    (hOpening : Alike before inner opening opening) (hClosing : Alike inner after closing closing)
    (h : AlikeAll inner inner entries others) (indent : Nat) :
    Alike before after (Script.enclose opening closing indent entries)
      (Script.enclose opening closing indent others) := by
  cases hEmpty : entries.isEmpty with
  | true =>
      rw [Script.enclose, Script.enclose, ← h.isEmpty_eq, hEmpty]
      exact hOpening.append hClosing
  | false =>
      rw [enclose_of_entries hEmpty, enclose_of_entries (h.isEmpty_eq ▸ hEmpty)]
      exact (hOpening.append (alike_entryLines h indent)).append hClosing

end Parts

/-! ## Whole literals -/

/-- Values that are the same, or both a string. -/
inductive Json.SameButText : Json → Json → Prop where
  | string (a b : String) : SameButText (.string a) (.string b)
  | same (value : Json) : SameButText value value

def AlikeLiteral (a b : Literal) : Prop :=
  ∀ indent opened, Alike opened opened (a.render indent) (b.render indent)

def AlikeField (a b : String × Literal) : Prop := a.1 = b.1 ∧ AlikeLiteral a.2 b.2

namespace AlikeLiteral

theorem text (a b : String) : AlikeLiteral (.text a) (.text b) := fun _ _ => alike_quote

theorem flag (value : Bool) : AlikeLiteral (.flag value) (.flag value) := by
  intro indent opened
  cases value with
  | false => exact Alike.anywhere (alike_fixed (by decide))
  | true => exact Alike.anywhere (alike_fixed (by decide))

theorem reference {path : String} (h : Alike [] [] path path) :
    AlikeLiteral (.reference path) (.reference path) := fun _ _ => h.anywhere

/-- A value that is no container is plain, or it is a quoted string. -/
theorem json {a b : Json} (hScalar : a.IsScalar) (h : a.SameButText b) :
    AlikeLiteral (.json a) (.json b) := by
  intro indent opened
  cases h with
  | string a b => exact alike_quote
  | same =>
      cases a with
      | bool value =>
          cases value with
          | false => exact flag false indent opened
          | true => exact flag true indent opened
      | number value => exact alike_plain (isPlain_write value)
      | string value => exact alike_quote
      | null => exact hScalar.elim
      | array items => exact hScalar.elim
      | object fields => exact hScalar.elim

theorem alikeAll_fields {fields others : List (String × Literal)}
    (h : List.Forall₂ AlikeField fields others) (indent : Nat) (opened : List Bracket) :
    AlikeAll opened opened (Literal.renderFields indent fields)
      (Literal.renderFields indent others) := by
  have hColon : Alike opened opened ": " ": " := Alike.anywhere (alike_fixed (by decide))
  induction h with
  | nil => exact .nil
  | @cons field other _ _ hField _ ih =>
      obtain ⟨key, value⟩ := field
      obtain ⟨_, otherValue⟩ := other
      obtain ⟨rfl, hValue⟩ := hField
      exact .cons (((alike_writeKey key).append hColon).append (hValue indent opened)) ih

private theorem alikeAll_items {items others : List Literal}
    (h : List.Forall₂ AlikeLiteral items others) (indent : Nat) (opened : List Bracket) :
    AlikeAll opened opened (Literal.renderItems indent items)
      (Literal.renderItems indent others) := by
  induction h with
  | nil => exact .nil
  | cons hItem _ ih => exact .cons (hItem indent opened) ih

/-- Records are alike when their fields are. -/
theorem record {fields others : List (String × Literal)}
    (h : List.Forall₂ AlikeField fields others) :
    AlikeLiteral (.record fields) (.record others) := by
  intro indent opened
  have hOpening : Alike [] [.curly] "\x7b" "\x7b" := alike_fixed (by decide)
  have hClosing : Alike [.curly] [] "\x7d" "\x7d" := alike_fixed (by decide)
  exact (alike_enclose hOpening hClosing (alikeAll_fields h (indent + 2) [.curly]) indent).anywhere

/-- Sequences are alike when their items are. -/
theorem sequence {items others : List Literal} (h : List.Forall₂ AlikeLiteral items others) :
    AlikeLiteral (.sequence items) (.sequence others) := by
  intro indent opened
  have hOpening : Alike [] [.square] "[" "[" := alike_fixed (by decide)
  have hClosing : Alike [.square] [] "]" "]" := alike_fixed (by decide)
  exact (alike_enclose hOpening hClosing (alikeAll_items h (indent + 2) [.square]) indent).anywhere

end AlikeLiteral

end BlockExtension
