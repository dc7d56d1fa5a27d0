/-!
# Identifiers for arguments

Every argument gets an identifier of its own. There are two policies. The
ordinal policy counts: the second argument of `sayHi` is `sayHi_arg2`. The
random policy draws names of eleven letters and passes over a draw that is
already in use; it works from a finite supply of draws, and a supply that runs
out is an outcome of its own.

## Main results

* `next_random_not_used`: a drawn identifier was not in use before.
-/

namespace BlockExtension

/--
A draw of eleven letters, each counted through the upper-case and then the
lower-case alphabet.
-/
structure RandomName where
  letters : List (Fin 52)
  length_eq : letters.length = 11
  deriving DecidableEq, Repr

namespace RandomName

/-- The letter with a number: `A` to `Z`, then `a` to `z`. -/
def letter (n : Fin 52) : Char :=
  if n.val < 26 then Char.ofNat ('A'.toNat + n.val)
  else Char.ofNat ('a'.toNat + (n.val - 26))

def ofFn (letterAt : Fin 11 → Fin 52) : RandomName := ⟨List.ofFn letterAt, by simp⟩

def text (name : RandomName) : String := String.ofList (name.letters.map letter)

/-- The first draw of a supply that is not in use, and the supply behind it. -/
def takeUnused (used : List String) : List RandomName → Option (String × List RandomName)
  | [] => none
  | name :: rest =>
      if name.text ∈ used then takeUnused used rest else some (name.text, rest)

/-- What is taken was not in use. -/
theorem takeUnused_not_mem {used : List String} {supply rest : List RandomName} {id : String}
    (h : takeUnused used supply = some (id, rest)) : id ∉ used := by
  induction supply with
  | nil => cases h
  | cons name more ih =>
      simp only [takeUnused] at h
      split at h
      · exact ih h
      · next hUnused =>
          cases h
          exact hUnused

end RandomName

/--
A policy for identifiers, with what it remembers. The random policy remembers all
identifiers that it has given, over the whole palette.
-/
inductive Naming where
  /-- The opcode and the number of the argument. -/
  | ordinal
  /-- Draws from a supply that are not among those in use. -/
  | random (used : List String) (supply : List RandomName)
  deriving DecidableEq, Repr

namespace Naming

/-- The identifier of the argument numbered `ordinal`, counted from one. -/
def ordinalId (opcode : String) (ordinal : Nat) : String := s!"{opcode}_arg{ordinal}"

/-- The next identifier, and the policy after it; nothing when the supply runs out. -/
def next (naming : Naming) (opcode : String) (ordinal : Nat) : Option (String × Naming) :=
  match naming with
  | .ordinal => some (ordinalId opcode ordinal, .ordinal)
  | .random used supply =>
      (RandomName.takeUnused used supply).map fun (id, rest) =>
        (id, .random (id :: used) rest)

/--
The identifiers of `count` arguments, the first of which is numbered `ordinal`; nothing when
the supply runs out before that.
-/
def take (naming : Naming) (opcode : String) (ordinal : Nat) :
    (count : Nat) → Option (List String × Naming)
  | 0 => some ([], naming)
  | count + 1 =>
      match naming.next opcode ordinal with
      | none => none
      | some (id, naming) =>
          (naming.take opcode (ordinal + 1) count).map fun (ids, naming) => (id :: ids, naming)

/-- A drawn identifier was not in use before. -/
theorem next_random_not_used {used : List String} {supply : List RandomName} {opcode id : String}
    {ordinal : Nat} {naming : Naming}
    (h : (Naming.random used supply).next opcode ordinal = some (id, naming)) : id ∉ used := by
  simp only [next, Option.map_eq_some_iff] at h
  obtain ⟨⟨drawn, rest⟩, hDrawn, hPair⟩ := h
  cases hPair
  exact RandomName.takeUnused_not_mem hDrawn

theorem take_ordinal (opcode : String) (count ordinal : Nat) :
    Naming.ordinal.take opcode ordinal count =
      some ((List.range' ordinal count).map (ordinalId opcode), .ordinal) := by
  induction count generalizing ordinal with
  | zero => rfl
  | succ count ih => simp [take, next, ih, List.range'_succ]

end Naming

end BlockExtension
