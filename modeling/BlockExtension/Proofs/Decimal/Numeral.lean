import BlockExtension.Json.Reader
import BlockExtension.Json.Writer
import BlockExtension.Proofs.Decimal.Shortest

/-!
# Numerals

A numeral of the script has a sign, a whole part, perhaps a fraction and perhaps an
exponent. This file takes numerals apart and says what they denote: without fraction
and exponent an integer, of whatever size, and else the double nearest to the decimal,
rounded once. The way back from the text of a number is exact. An integer is read as
itself, and so is a double, since the digits it is written with identify it.

## Main results

* `Numeral.parts?_text`: a numeral is taken apart into what it was put together from.
* `Numeral.ofDouble_text`: the layout of a double puts a numeral together.
* `numeral?_write`: the text of a number is read as this number.
-/

namespace BlockExtension.Json

open BlockExtension.Decimal
open Reader (digitRun wholePart fractionPart exponentPart signedDigits)

/-! ## Reading -/

/--
A numeral taken apart. The digits in front of the point, behind it and of the exponent are
kept as they are written.
-/
structure Numeral where
  negative : Bool
  whole : List Char
  fraction : Option (List Char)
  exponent : Option Int
  deriving DecidableEq, Repr

namespace Numeral

/-- The parts of a text that is a numeral whose sign is read. -/
def unsigned? (negative : Bool) (text : List Char) : Option Numeral := do
  let (whole, text) ← wholePart text
  let (fraction, text) ← fractionPart text
  let (exponent, text) ← exponentPart text
  if text.isEmpty then some ⟨negative, whole, fraction, exponent⟩ else none

/-- The parts of a text that is a numeral from its first character to its last. -/
def parts? : List Char → Option Numeral
  | '-' :: text => unsigned? true text
  | text => unsigned? false text

def valueOf (digits : List Char) : Nat := Nat.ofDigitChars 10 digits 0

def decimal (numeral : Numeral) : Scientific where
  coefficient := valueOf (numeral.whole ++ numeral.fraction.getD [])
  exponent := numeral.exponent.getD 0 - (numeral.fraction.getD []).length

/--
The number that a numeral denotes. No integer has the sign of minus zero, so a numeral
without point and exponent may still be a double.
-/
def denotes (numeral : Numeral) : Option Number :=
  let digits := valueOf numeral.whole
  if numeral.fraction = none ∧ numeral.exponent = none ∧ ¬ (numeral.negative ∧ digits = 0) then
    some (.integer (if numeral.negative then -digits else digits))
  else (numeral.decimal.nearest? numeral.negative).map .double

end Numeral

/-- The number that a text is, from its first character to its last. -/
def numeral? (text : List Char) : Option Number := (Numeral.parts? text).bind Numeral.denotes

/-! ## Texts of digits -/

def IsDigits (text : List Char) : Prop := ∀ c ∈ text, c.isDigit

theorem IsDigits.append {front back : List Char} (hFront : IsDigits front) (hBack : IsDigits back) :
    IsDigits (front ++ back) := fun c hMem =>
  (List.mem_append.1 hMem).elim (hFront c) (hBack c)

theorem isDigits_zeros (n : Nat) : IsDigits (List.replicate n '0') := by
  intro c hMem
  rw [List.eq_of_mem_replicate hMem]
  rfl

def EndsDigits (text : List Char) : Prop := ∀ c rest, text = c :: rest → c.isDigit = false

theorem endsDigits_nil : EndsDigits [] := nofun

theorem endsDigits_cons {c : Char} (h : c.isDigit = false) (rest : List Char) :
    EndsDigits (c :: rest) := by
  rintro d more hSame
  cases hSame
  exact h

/-- Digits are read to their end. -/
theorem digitRun_append {digits rest : List Char} (hDigits : IsDigits digits)
    (hRest : EndsDigits rest) : digitRun (digits ++ rest) = (digits, rest) := by
  rw [digitRun, List.takeWhile_append_of_pos hDigits, List.dropWhile_append_of_pos hDigits]
  cases rest with
  | nil => simp
  | cons c rest => simp [hRest c rest rfl]

theorem isDigits_toDigits (n : Nat) : IsDigits (Nat.toDigits 10 n) := fun _ hc =>
  Nat.isDigit_of_mem_toDigits (by decide) (by decide) hc

/-- A positive number is written without zeros in front. -/
theorem head_toDigits {n : Nat} (h : 0 < n) :
    ∃ first rest, Nat.toDigits 10 n = first :: rest ∧ first ≠ '0' := by
  have hDigit : ∀ n < 10, 0 < n → n.digitChar ≠ '0' := by decide
  induction n using Nat.strongRecOn with
  | ind n ih =>
      by_cases hSmall : n < 10
      · exact ⟨_, [], Nat.toDigits_of_lt_base hSmall, hDigit n hSmall h⟩
      · obtain ⟨first, rest, hText, hFirst⟩ := ih (n / 10) (by omega) (by omega)
        rw [Nat.toDigits_of_base_le (by decide) (by omega), hText]
        exact ⟨first, _, rfl, hFirst⟩

/-- Digits that a whole part may have: at least one, and no zero in front of others. -/
def IsWhole (digits : List Char) : Prop :=
  IsDigits digits ∧ digits ≠ [] ∧ ∀ c rest, digits ≠ '0' :: c :: rest

theorem isWhole_cons {first : Char} {rest : List Char} (hDigits : IsDigits (first :: rest))
    (hFirst : first ≠ '0') : IsWhole (first :: rest) :=
  ⟨hDigits, List.cons_ne_nil _ _, fun _ _ hSame => hFirst (List.cons.inj hSame).1⟩

theorem isWhole_zero : IsWhole ['0'] :=
  ⟨isDigits_zeros 1, List.cons_ne_nil _ _, nofun⟩

theorem isWhole_toDigits (n : Nat) : IsWhole (Nat.toDigits 10 n) := by
  rcases Nat.eq_zero_or_pos n with rfl | hPositive
  · exact isWhole_zero
  · obtain ⟨first, rest, hText, hFirst⟩ := head_toDigits hPositive
    have hDigits := isDigits_toDigits n
    rw [hText] at hDigits ⊢
    exact isWhole_cons hDigits hFirst

theorem wholePart_append {whole rest : List Char} (hWhole : IsWhole whole)
    (hRest : EndsDigits rest) : wholePart (whole ++ rest) = some (whole, rest) := by
  obtain ⟨hDigits, hNonempty, hZero⟩ := hWhole
  rw [wholePart, digitRun_append hDigits hRest]
  split
  · next h => exact absurd (congrArg Prod.fst h) hNonempty
  · next h => exact absurd (congrArg Prod.fst h) (hZero _ _)
  · rfl

/-! ## Writing -/

namespace Numeral

def fractionText : Option (List Char) → List Char
  | none => []
  | some digits => '.' :: digits

def exponentText : Option Int → List Char
  | none => []
  | some exponent => 'e' :: (if exponent < 0 then '-' else '+') :: Nat.toDigits 10 exponent.natAbs

def body (numeral : Numeral) : List Char :=
  numeral.whole ++ (fractionText numeral.fraction ++ exponentText numeral.exponent)

def text (numeral : Numeral) : List Char :=
  if numeral.negative then '-' :: numeral.body else numeral.body

/-- Parts that a numeral can be put together from. -/
structure WellFormed (numeral : Numeral) : Prop where
  whole : IsWhole numeral.whole
  fraction : ∀ digits, numeral.fraction = some digits → IsDigits digits ∧ digits ≠ []

theorem endsDigits_exponentText (exponent : Option Int) : EndsDigits (exponentText exponent) := by
  cases exponent with
  | none => exact endsDigits_nil
  | some exponent => exact endsDigits_cons (by decide) _

/-- Digits are read as the number that they are written for. -/
theorem signedDigits_text (exponent : Int) :
    signedDigits ((if exponent < 0 then '-' else '+') :: Nat.toDigits 10 exponent.natAbs) =
      some (exponent, []) := by
  have hRun := digitRun_append (isDigits_toDigits exponent.natAbs) endsDigits_nil
  have hValue : (Nat.toDigits 10 exponent.natAbs).foldl
      (fun total c => total * 10 + Reader.digitValue c) 0 = exponent.natAbs := by
    simp only [Nat.mul_comm _ 10]
    exact Nat.ofDigitChars_toDigits (by decide) (by decide)
  have hNonempty : Nat.toDigits 10 exponent.natAbs ≠ [] := Nat.toDigits_ne_nil
  rw [List.append_nil] at hRun
  by_cases hNegative : exponent < 0
  · simp only [if_pos hNegative, signedDigits, hRun, hValue, if_true]
    rw [Int.ofNat_natAbs_of_nonpos (by omega), Int.neg_neg]
  · simp only [if_neg hNegative, signedDigits, hRun, hValue, Bool.false_eq_true, if_false]
    rw [Int.natAbs_of_nonneg (by omega)]

theorem exponentPart_text (exponent : Option Int) :
    exponentPart (exponentText exponent) = some (exponent, []) := by
  cases exponent with
  | none => rfl
  | some exponent => rw [exponentText, exponentPart, signedDigits_text, Option.map_some]

theorem fractionPart_text {fraction : Option (List Char)}
    (h : ∀ digits, fraction = some digits → IsDigits digits ∧ digits ≠ []) (exponent : Option Int) :
    fractionPart (fractionText fraction ++ exponentText exponent) =
      some (fraction, exponentText exponent) := by
  cases fraction with
  | none =>
      cases exponent <;> rfl
  | some digits =>
      obtain ⟨hDigits, hNonempty⟩ := h digits rfl
      have hRun := digitRun_append hDigits (endsDigits_exponentText exponent)
      rw [fractionText, List.cons_append, fractionPart, hRun]
      split
      · next hSame => exact absurd (congrArg Prod.fst hSame) hNonempty
      · next hSame =>
          cases hSame
          rfl

theorem endsDigits_fractionText (fraction : Option (List Char)) {rest : List Char}
    (h : EndsDigits rest) : EndsDigits (fractionText fraction ++ rest) := by
  cases fraction with
  | none => exact h
  | some digits => exact endsDigits_cons (by decide) _

theorem head_body {numeral : Numeral} (h : numeral.WellFormed) :
    ∃ c rest, numeral.body = c :: rest ∧ c.isDigit := by
  obtain ⟨hDigits, hNonempty, _⟩ := h.whole
  cases hWhole : numeral.whole with
  | nil => exact absurd hWhole hNonempty
  | cons c digits =>
      exact ⟨c, _, by rw [body, hWhole]; rfl, hDigits c (hWhole ▸ List.mem_cons_self ..)⟩

theorem unsigned?_body {numeral : Numeral} (h : numeral.WellFormed) :
    unsigned? numeral.negative numeral.body = some numeral := by
  have hWhole := wholePart_append h.whole (endsDigits_fractionText numeral.fraction
    (endsDigits_exponentText numeral.exponent))
  have hFraction := fractionPart_text h.fraction numeral.exponent
  have hExponent := exponentPart_text numeral.exponent
  simp [unsigned?, body, hWhole, hFraction, hExponent]

/-- A numeral is taken apart into what it was put together from. -/
theorem parts?_text {numeral : Numeral} (h : numeral.WellFormed) :
    parts? numeral.text = some numeral := by
  have hBody := unsigned?_body h
  cases hSign : numeral.negative with
  | true => rwa [text, if_pos hSign, parts?, ← hSign]
  | false =>
      rw [text, if_neg (by simp [hSign]), parts?, ← hSign]
      · exact hBody
      · intro rest hText
        obtain ⟨c, digits, hDigits, hDigit⟩ := head_body h
        cases (List.cons.inj (hDigits.symm.trans hText)).1
        cases hDigit

/-! ### The characters of a numeral -/

/-- The characters of a numeral that are no digits. -/
def signs : List Char := ['-', '+', '.', 'e']

theorem mem_fractionText {fraction : Option (List Char)} {c : Char}
    (h : ∀ digits, fraction = some digits → IsDigits digits ∧ digits ≠ [])
    (hMem : c ∈ fractionText fraction) : c.isDigit ∨ c ∈ signs := by
  cases fraction with
  | none => cases hMem
  | some digits =>
      rcases List.mem_cons.1 hMem with rfl | hDigit
      · exact Or.inr (by decide)
      · exact Or.inl ((h digits rfl).1 c hDigit)

theorem mem_exponentText {exponent : Option Int} {c : Char} (hMem : c ∈ exponentText exponent) :
    c.isDigit ∨ c ∈ signs := by
  cases exponent with
  | none => cases hMem
  | some exponent =>
      rw [exponentText] at hMem
      rcases List.mem_cons.1 hMem with rfl | hMem
      · exact Or.inr (by decide)
      · rcases List.mem_cons.1 hMem with rfl | hDigit
        · exact Or.inr (by split <;> decide)
        · exact Or.inl (isDigits_toDigits _ c hDigit)

/-- A numeral has nothing in it but digits and these signs. -/
theorem mem_text {numeral : Numeral} (h : numeral.WellFormed) {c : Char}
    (hMem : c ∈ numeral.text) : c.isDigit ∨ c ∈ signs := by
  have hBody : c ∈ numeral.body → c.isDigit ∨ c ∈ signs := by
    intro hMem
    rcases List.mem_append.1 hMem with hWhole | hMem
    · exact Or.inl (h.whole.1 c hWhole)
    · exact (List.mem_append.1 hMem).elim (mem_fractionText h.fraction) mem_exponentText
  rw [text] at hMem
  split at hMem
  · rcases List.mem_cons.1 hMem with rfl | hMem
    · exact Or.inr (by decide)
    · exact hBody hMem
  · exact hBody hMem

/-- A numeral begins with a digit or with a minus. -/
theorem head_text {numeral : Numeral} (h : numeral.WellFormed) :
    ∃ c rest, numeral.text = c :: rest ∧ (c.isDigit ∨ c = '-') := by
  rw [text]
  split
  · exact ⟨_, _, rfl, Or.inr rfl⟩
  · obtain ⟨c, rest, hBody, hDigit⟩ := head_body h
    exact ⟨c, rest, hBody, Or.inl hDigit⟩

/-! ## Digits in their places -/

theorem valueOf_append_zeros (digits : List Char) (n : Nat) :
    valueOf (digits ++ List.replicate n '0') = valueOf digits * 10 ^ n := by
  rw [valueOf, Nat.ofDigitChars_append, Nat.ofDigitChars_replicate_zero, Nat.mul_comm]
  rfl

theorem valueOf_zeros_append (digits : List Char) (n : Nat) :
    valueOf (List.replicate n '0' ++ digits) = valueOf digits := by
  rw [valueOf, Nat.ofDigitChars_append, Nat.ofDigitChars_replicate_zero, Nat.mul_zero]
  rfl

/-- Zeros at the end of a coefficient move to the exponent. -/
theorem cast_mul_pow_mul_zpow {coefficient zeros : Nat} {e e' : Int} (h : zeros + e = e') :
    ((coefficient * 10 ^ zeros : Nat) : ℚ) * 10 ^ e = coefficient * 10 ^ e' := by
  push_cast
  rw [mul_assoc, ← zpow_natCast, ← zpow_add₀ (by norm_num), h]

/-- Digits of which the first has a power of ten: no zero is in front, unless it is the only one. -/
structure Significant (digits : List Char) (leading : Int) : Prop where
  isDigits : IsDigits digits
  head : (∃ first rest, digits = first :: rest ∧ first ≠ '0') ∨ digits = ['0'] ∧ leading = 0

/-- The numeral of digits in place, as a layout has it. -/
def inPlace (negative : Bool) (digits : List Char) (leading : Int) : Numeral :=
  if leading < 0 then
    ⟨negative, ['0'], some (List.replicate (leading.natAbs - 1) '0' ++ digits), none⟩
  else
    let whole := leading.natAbs + 1
    ⟨negative, digits.take whole ++ List.replicate (whole - digits.length) '0',
      some (if (digits.drop whole).isEmpty then ['0'] else digits.drop whole), none⟩

/-- The numeral of digits with an exponent, as a layout has it. -/
def withExponent (negative : Bool) (digits : List Char) (leading : Int) : Numeral :=
  ⟨negative, digits.take 1, if (digits.drop 1).isEmpty then none else some (digits.drop 1),
    some leading⟩

theorem inPlace_body (negative : Bool) (digits : List Char) (leading : Int) :
    (inPlace negative digits leading).body = Layout.inPlace digits leading := by
  unfold inPlace Layout.inPlace
  split <;> simp [body, fractionText, exponentText]

theorem withExponent_body (negative : Bool) (digits : List Char) (leading : Int) :
    (withExponent negative digits leading).body = numberLayout.withExponent digits leading := by
  unfold withExponent Layout.withExponent
  generalize digits.drop 1 = fraction
  by_cases hLeading : leading < 0 <;> cases fraction <;>
    simp [body, fractionText, exponentText, numberLayout, hLeading]

section Significant

variable {digits : List Char} {leading : Int}

theorem Significant.ne_nil (h : Significant digits leading) : digits ≠ [] := by
  obtain ⟨first, rest, rfl, _⟩ | ⟨rfl, _⟩ := h.head
  · exact List.cons_ne_nil _ _
  · exact List.cons_ne_nil _ _

theorem Significant.drop (h : Significant digits leading) (n : Nat) : IsDigits (digits.drop n) :=
  fun c hMem => h.isDigits c (List.mem_of_mem_drop hMem)

theorem Significant.take (h : Significant digits leading) (n : Nat) : IsDigits (digits.take n) :=
  fun c hMem => h.isDigits c (List.mem_of_mem_take hMem)

/-- The first digits are a whole part, also with zeros behind them. -/
theorem Significant.isWhole (h : Significant digits leading) (hLeading : 0 ≤ leading) :
    IsWhole (digits.take (leading.natAbs + 1) ++
      List.replicate (leading.natAbs + 1 - digits.length) '0') := by
  have hDigits := (h.take (leading.natAbs + 1)).append
    (isDigits_zeros (leading.natAbs + 1 - digits.length))
  obtain ⟨first, rest, rfl, hFirst⟩ | ⟨rfl, rfl⟩ := h.head
  · exact isWhole_cons hDigits hFirst
  · exact isWhole_zero

theorem inPlace_wellFormed (negative : Bool) (h : Significant digits leading) :
    (inPlace negative digits leading).WellFormed := by
  unfold inPlace
  split
  · refine ⟨isWhole_zero, ?_⟩
    rintro fraction hSame
    cases hSame
    exact ⟨(isDigits_zeros _).append h.isDigits, by simp [h.ne_nil]⟩
  · next hLeading =>
      refine ⟨h.isWhole (Int.not_lt.1 hLeading), ?_⟩
      rintro fraction hSame
      cases hSame
      split
      · exact ⟨isDigits_zeros 1, List.cons_ne_nil _ _⟩
      · next hFraction => exact ⟨h.drop _, by simpa using hFraction⟩

theorem withExponent_wellFormed (negative : Bool) (h : Significant digits leading) :
    (withExponent negative digits leading).WellFormed := by
  refine ⟨?_, ?_⟩
  · have hDigits := h.take 1
    obtain ⟨first, rest, rfl, hFirst⟩ | ⟨rfl, _⟩ := h.head
    · exact isWhole_cons hDigits hFirst
    · exact isWhole_zero
  · rintro fraction hSame
    simp only [withExponent] at hSame
    split at hSame
    · cases hSame
    · next hFraction =>
        cases hSame
        exact ⟨h.drop 1, by simpa using hFraction⟩

theorem inPlace_value (negative : Bool) (digits : List Char) (leading : Int) :
    (inPlace negative digits leading).decimal.value =
      valueOf digits * 10 ^ (leading + 1 - digits.length) := by
  unfold inPlace
  split
  · next hLeading =>
      have hZeros := valueOf_zeros_append digits (leading.natAbs - 1 + 1)
      have hExponent : (0 : Int) - (leading.natAbs - 1 + digits.length : Nat) =
          leading + 1 - digits.length := by omega
      simp only [decimal, Scientific.value, Option.getD_some, Option.getD_none, List.length_append,
        List.length_replicate, hExponent]
      exact congrArg (fun n : Nat => (n : ℚ) * _) hZeros
  · next hLeading =>
      by_cases hLong : digits.length ≤ leading.natAbs + 1
      · have hZeros := valueOf_append_zeros digits (leading.natAbs + 1 - digits.length + 1)
        rw [List.replicate_succ', ← List.append_assoc] at hZeros
        simp only [decimal, Scientific.value, Option.getD_some, Option.getD_none,
          List.drop_eq_nil_of_le hLong, List.take_of_length_le hLong, List.isEmpty_nil, if_true,
          hZeros, List.length_singleton]
        exact cast_mul_pow_mul_zpow (by omega)
      · have hFraction : (digits.drop (leading.natAbs + 1)).isEmpty = false := by
          simp only [List.isEmpty_eq_false_iff, ne_eq, List.drop_eq_nil_iff]
          exact hLong
        have hZeros : leading.natAbs + 1 - digits.length = 0 := by omega
        simp only [decimal, Scientific.value, Option.getD_some, Option.getD_none, hFraction, hZeros,
          Bool.false_eq_true, if_false, List.replicate_zero, List.append_nil, List.take_append_drop,
          List.length_drop]
        congr 2
        omega

theorem withExponent_value (negative : Bool) (h : digits ≠ []) :
    (withExponent negative digits leading).decimal.value =
      valueOf digits * 10 ^ (leading + 1 - digits.length) := by
  have hFraction : (if (digits.drop 1).isEmpty then none else some (digits.drop 1)).getD [] =
      digits.drop 1 := by
    cases digits.drop 1 <;> rfl
  have hPositive := List.length_pos_of_ne_nil h
  simp only [withExponent, decimal, Scientific.value, hFraction, List.take_append_drop,
    List.length_drop, Option.getD_some]
  congr 2
  omega

end Significant

/-! ## Numbers -/

/-- The digits of a positive number are those that stay and the zeros at their end. -/
theorem significantDigits_toDigits {n : Nat} (h : 0 < n) :
    ∃ first rest zeros, first ≠ '0' ∧ significantDigits (Nat.toDigits 10 n) = first :: rest ∧
      Nat.toDigits 10 n = first :: rest ++ List.replicate zeros '0' := by
  obtain ⟨first, more, hText, hFirst⟩ := head_toDigits h
  have hZeros : ((first :: more).reverse.takeWhile (· = '0')) = List.replicate
      ((first :: more).reverse.takeWhile (· = '0')).length '0' :=
    List.eq_replicate_of_mem fun c hMem => by
      simpa using List.all_eq_true.1 List.all_takeWhile c hMem
  have hSplit := congrArg List.reverse
    (List.takeWhile_append_dropWhile (p := (· = '0')) (l := (first :: more).reverse))
  rw [List.reverse_append, List.reverse_reverse, hZeros, List.reverse_replicate] at hSplit
  rw [hText, significantDigits]
  cases hKept : ((first :: more).reverse.dropWhile (· = '0')).reverse with
  | nil =>
      rw [hKept, List.nil_append] at hSplit
      exact absurd (List.eq_of_mem_replicate (hSplit ▸ List.mem_cons_self ..)) hFirst
  | cons c rest =>
      rw [hKept] at hSplit
      cases (List.cons.inj hSplit).1
      exact ⟨_, rest, _, hFirst, rfl, hSplit.symm⟩

/-- The digits of a double without the zeros at their end, where they stand and what they are. -/
theorem significant_shortest (x : Double) :
    Significant (significantDigits x.shortest.digits) x.shortest.leadingExponent ∧
      (valueOf (significantDigits x.shortest.digits) : ℚ) * 10 ^ (x.shortest.leadingExponent + 1 -
        (significantDigits x.shortest.digits).length) = x.shortest.value := by
  rcases Nat.eq_zero_or_pos x.shortest.coefficient with hZero | hPositive
  · rw [Double.shortest_of_coefficient_eq_zero hZero]
    have hDigits : significantDigits (Scientific.digits ⟨0, 0⟩) = ['0'] := by decide
    have hLeading : Scientific.leadingExponent ⟨0, 0⟩ = 0 := by decide
    rw [hDigits, hLeading]
    have hValue : valueOf ['0'] = 0 := rfl
    exact ⟨⟨isDigits_zeros 1, Or.inr ⟨rfl, rfl⟩⟩, by simp [hValue, Scientific.value]⟩
  · obtain ⟨first, rest, zeros, hFirst, hKept, hText⟩ := significantDigits_toDigits hPositive
    have hCoefficient : x.shortest.coefficient = valueOf (first :: rest) * 10 ^ zeros := by
      rw [← valueOf_append_zeros, ← hText]
      exact (Nat.ofDigitChars_toDigits (by decide) (by decide)).symm
    have hLength := congrArg List.length hText
    rw [List.length_append, List.length_replicate] at hLength
    have hDigits : IsDigits (first :: rest) := fun c hMem =>
      isDigits_toDigits x.shortest.coefficient c (hText ▸ List.mem_append_left _ hMem)
    rw [Scientific.digits, hKept]
    refine ⟨⟨hDigits, Or.inl ⟨first, rest, rfl, hFirst⟩⟩, ?_⟩
    rw [Scientific.value, hCoefficient, Scientific.leadingExponent, Scientific.digits, hLength]
    exact (cast_mul_pow_mul_zpow (by omega)).symm

/-- The numeral that a double is written as. -/
def ofDouble (x : Double) : Numeral :=
  let leading := x.shortest.leadingExponent
  let digits := significantDigits x.shortest.digits
  if numberLayout.leastInPlace ≤ leading && leading < numberLayout.firstBeyond then
    inPlace x.negative digits leading
  else withExponent x.negative digits leading

theorem ofDouble_wellFormed (x : Double) : (ofDouble x).WellFormed := by
  unfold ofDouble
  dsimp only
  split
  · exact inPlace_wellFormed x.negative (significant_shortest x).1
  · exact withExponent_wellFormed x.negative (significant_shortest x).1

theorem ofDouble_negative (x : Double) : (ofDouble x).negative = x.negative := by
  unfold ofDouble inPlace withExponent
  dsimp only
  split_ifs <;> rfl

theorem ofDouble_text (x : Double) : (ofDouble x).text = numberLayout.write x := by
  rw [text, ofDouble_negative, Layout.write, ofDouble]
  split_ifs <;> simp only [inPlace_body, withExponent_body]

theorem denotes_ofDouble (x : Double) : (ofDouble x).denotes = some (.double x) := by
  have hValue : (ofDouble x).decimal.value = x.shortest.value := by
    rw [← (significant_shortest x).2, ofDouble]
    split_ifs
    · exact inPlace_value ..
    · exact withExponent_value _ (significant_shortest x).1.ne_nil
  have hNoInteger : ¬ ((ofDouble x).fraction = none ∧ (ofDouble x).exponent = none) := by
    unfold ofDouble inPlace withExponent
    dsimp only
    split_ifs <;> simp
  rw [denotes, if_neg fun h => hNoInteger ⟨h.1, h.2.1⟩, ofDouble_negative,
    Scientific.nearest?_eq hValue, Option.map_some]

def ofInteger (value : Int) : Numeral :=
  ⟨value < 0, Nat.toDigits 10 value.natAbs, none, none⟩

theorem ofInteger_wellFormed (value : Int) : (ofInteger value).WellFormed :=
  ⟨isWhole_toDigits value.natAbs, nofun⟩

theorem ofInteger_text (value : Int) : (ofInteger value).text = writeInteger value := by
  simp [ofInteger, text, body, fractionText, exponentText, writeInteger]

theorem denotes_ofInteger (value : Int) : (ofInteger value).denotes = some (.integer value) := by
  have hDigits : valueOf (Nat.toDigits 10 value.natAbs) = value.natAbs :=
    Nat.ofDigitChars_toDigits (by decide) (by decide)
  simp only [denotes, ofInteger, hDigits, true_and, decide_eq_true_eq]
  rw [if_pos (by omega)]
  congr 2
  split <;> omega

def ofNumber : Number → Numeral
  | .integer value => ofInteger value
  | .double value => ofDouble value

theorem ofNumber_wellFormed (number : Number) : (ofNumber number).WellFormed := by
  cases number with
  | integer value => exact ofInteger_wellFormed value
  | double value => exact ofDouble_wellFormed value

theorem ofNumber_text (number : Number) : (ofNumber number).text = number.write.toList := by
  cases number with
  | integer value => rw [Number.write, String.toList_ofList, ofNumber, ofInteger_text]
  | double value => rw [Number.write, String.toList_ofList, ofNumber, ofDouble_text]

end Numeral

/-- The text of a number is read as this number. -/
theorem numeral?_write (number : Number) : numeral? number.write.toList = some number := by
  rw [numeral?, ← Numeral.ofNumber_text, Numeral.parts?_text (Numeral.ofNumber_wellFormed number),
    Option.bind_some]
  cases number with
  | integer value => exact Numeral.denotes_ofInteger value
  | double value => exact Numeral.denotes_ofDouble value

end BlockExtension.Json
