/-!
# Association lists in order of arrival

A finite map as a list of pairs, in the order in which the keys first arrived.
Writing a key that is there already changes its value and moves nothing. Two
parts of the library live on this: the fields of a document, and the entries of
a file tree.

## Main results

* `keys_put`: writing a key adds it at the end, or moves nothing if it is there.
* `lookup_put_self`, `lookup_put_of_ne`: afterwards the key has the new value,
  and every other key has the value it had.
* `lookup_erase_self`, `lookup_erase_of_ne`: the same for taking a key out.
-/

namespace BlockExtension.Association

variable {κ α : Type} [BEq κ]

/--
Writes a key: in place if it is there, else at the end. So a key that an object repeats
keeps the place of the first and takes the value of the last.
-/
def put (entries : List (κ × α)) (key : κ) (value : α) : List (κ × α) :=
  match entries with
  | [] => [(key, value)]
  | (k, v) :: rest =>
      if k == key then (k, value) :: rest else (k, v) :: put rest key value

/-- The entries that remain when all are written in turn. -/
def putAll (entries : List (κ × α)) : List (κ × α) :=
  entries.foldl (fun written entry => put written entry.1 entry.2) []

def erase (entries : List (κ × α)) (key : κ) : List (κ × α) :=
  entries.filter fun entry => entry.1 != key

variable [LawfulBEq κ]

/-- Writing a key adds it at the end, or moves nothing if it is there. -/
theorem keys_put (entries : List (κ × α)) (key : κ) (value : α) :
    (put entries key value).map Prod.fst =
      if key ∈ entries.map Prod.fst then entries.map Prod.fst
      else entries.map Prod.fst ++ [key] := by
  induction entries with
  | nil => simp [put]
  | cons entry rest ih =>
      obtain ⟨k, v⟩ := entry
      by_cases hKey : k = key
      · simp [put, hKey]
      · have hOther : ¬ key = k := fun h => hKey h.symm
        simp only [put, beq_iff_eq, hKey, if_false, List.map_cons, List.mem_cons, hOther,
          false_or, ih]
        split <;> simp

/-- A key just written has the value written. -/
@[simp] theorem lookup_put_self (entries : List (κ × α)) (key : κ) (value : α) :
    (put entries key value).lookup key = some value := by
  induction entries with
  | nil => simp [put]
  | cons entry rest ih =>
      obtain ⟨k, v⟩ := entry
      by_cases hKey : k = key
      · simp [put, hKey]
      · have hOther : (key == k) = false := by simpa using fun h => hKey h.symm
        simp [put, hKey, List.lookup_cons, hOther, ih]

/-- Every other key keeps the value it had. -/
theorem lookup_put_of_ne (entries : List (κ × α)) {key other : κ} (value : α)
    (h : other ≠ key) : (put entries key value).lookup other = entries.lookup other := by
  induction entries with
  | nil =>
      have hOther : (other == key) = false := by simpa using h
      simp [put, List.lookup_cons, hOther]
  | cons entry rest ih =>
      obtain ⟨k, v⟩ := entry
      by_cases hKey : k = key
      · have hOther : (other == k) = false := by simpa [hKey] using h
        simp [put, hKey, List.lookup_cons, hKey ▸ hOther]
      · by_cases hHead : other = k
        · simp [put, hKey, hHead]
        · have hOther : (other == k) = false := by simpa using hHead
          simp [put, hKey, List.lookup_cons, hOther, ih]

/-- A key that is taken out is gone. -/
@[simp] theorem lookup_erase_self (entries : List (κ × α)) (key : κ) :
    (erase entries key).lookup key = none := by
  induction entries with
  | nil => rfl
  | cons entry rest ih =>
      obtain ⟨k, v⟩ := entry
      by_cases hKey : k = key
      · simpa [erase, hKey] using ih
      · have hOther : (key == k) = false := by simpa using fun h => hKey h.symm
        simpa [erase, hKey, List.lookup_cons, hOther] using ih

/-- Every other key keeps its value when one is taken out. -/
theorem lookup_erase_of_ne (entries : List (κ × α)) {key other : κ} (h : other ≠ key) :
    (erase entries key).lookup other = entries.lookup other := by
  induction entries with
  | nil => rfl
  | cons entry rest ih =>
      obtain ⟨k, v⟩ := entry
      by_cases hKey : k = key
      · have hOther : (other == k) = false := by simpa [hKey] using h
        simpa [erase, hKey, List.lookup_cons, hKey ▸ hOther] using ih
      · by_cases hHead : other = k
        · simp [erase, hKey, hHead]
        · have hOther : (other == k) = false := by simpa using hHead
          simpa [erase, hKey, List.lookup_cons, hOther] using ih

end BlockExtension.Association
