import BlockExtension.Proofs.Resolution

/-!
# Resolving entry by entry

Resolving walks over a palette with two things in its hands: the opcodes it has
met, and the policy that gives out identifiers. Neither has a say in what becomes of
an entry once its identifiers are given. So the walk comes apart into three
questions that can be asked one by one: whether two operations have one opcode,
which identifiers each entry receives, and what each entry resolves to on its own.

## Main results

* `Resolution.resolve_eq_ok_iff`: a palette resolves exactly if no opcode is
  repeated, there are identifiers enough and every entry resolves on its own.
* `Resolution.takeEach_ordinal`: the ordinal policy gives each entry its own
  identifiers, whatever is in front of it.
-/

namespace BlockExtension

/--
An entry that has received identifiers for its arguments, resolved on its own. Nothing of it
depends on the entries around it but its opcode, which must be new.
-/
def Declaration.resolveWith (ids : List String) :
    Declaration → Except Fault (Block × List Warning)
  | .separator => .ok (.separator, [])
  | .label text => .ok (.label text, [])
  | .operation declared => do
      Resolution.checkArguments declared
      let (resolved, warnings) ← Resolution.resolveOperation declared ids
      return (.operation resolved, warnings)

/--
The identifiers that a policy gives to each of the entries, one after the other. An entry
that is no operation takes none.
-/
def Naming.takeEach (naming : Naming) : List Declaration → Option (List (List String))
  | [] => some []
  | .operation declared :: rest =>
      match naming.take declared.opcode 1 declared.arguments.length with
      | none => none
      | some (ids, naming) => (naming.takeEach rest).map (ids :: ·)
  | _ :: rest => (naming.takeEach rest).map ([] :: ·)

def Declaration.ordinalIds : Declaration → List String
  | .operation declared =>
      (List.range' 1 declared.arguments.length).map (Naming.ordinalId declared.opcode)
  | _ => []

/-- How many identifiers an entry takes. -/
def Declaration.arity : Declaration → Nat
  | .operation declared => declared.arguments.length
  | _ => 0

/-- Each entry receives as many identifiers as it takes. -/
theorem Naming.map_length_takeEach {naming : Naming} {declarations : List Declaration}
    {each : List (List String)} (h : naming.takeEach declarations = some each) :
    each.map List.length = declarations.map Declaration.arity := by
  induction declarations generalizing naming each with
  | nil =>
      cases h
      rfl
  | cons declaration rest ih =>
      cases declaration with
      | operation declared =>
          simp only [takeEach] at h
          split at h
          · cases h
          · next ids naming' hTake =>
              obtain ⟨eachRest, hRest, rfl⟩ := Option.map_eq_some_iff.1 h
              rw [List.map_cons, List.map_cons, ih hRest, length_of_take hTake]
              rfl
      | separator | label text =>
          obtain ⟨eachRest, hRest, rfl⟩ := Option.map_eq_some_iff.1 h
          rw [List.map_cons, List.map_cons, ih hRest]
          rfl

namespace Resolution

/-- Entries that were resolved on their own, put together in order. -/
def ofPieces (pieces : List (Block × List Warning)) : Resolution :=
  ⟨pieces.map Prod.fst, pieces.flatMap Prod.snd⟩

theorem cons_ofPieces (piece : Block × List Warning) (pieces : List (Block × List Warning)) :
    cons piece.1 piece.2 (ofPieces pieces) = ofPieces (piece :: pieces) := by
  simp [cons, ofPieces]

section Step

variable {position : Nat} {seen : List (String × Nat)} {naming : Naming}
  {declared : OperationDeclaration} {rest : List Declaration} {resolution : Resolution}

/-- What it takes that an operation and all that follows it resolve. -/
theorem resolveFrom_operation_iff :
    resolveFrom position seen naming (.operation declared :: rest) = .ok resolution ↔
      declared.opcode ∉ seen.map Prod.fst ∧ ∃ ids naming' piece more,
        naming.take declared.opcode 1 declared.arguments.length = some (ids, naming') ∧
        (Declaration.operation declared).resolveWith ids = .ok piece ∧
        resolveFrom (position + 1) ((declared.opcode, position) :: seen) naming' rest = .ok more ∧
        resolution = cons piece.1 piece.2 more := by
  simp only [resolveFrom, Declaration.resolveWith, bind_eq_ok_iff, mapError_eq_ok_iff,
    checkOpcode_eq_ok_iff]
  constructor
  · rintro ⟨_, hOpcode, _, hArguments, h⟩
    refine ⟨hOpcode, ?_⟩
    split at h
    · cases h
    · next ids naming' hTake =>
        simp only [bind_eq_ok_iff, mapError_eq_ok_iff] at h
        obtain ⟨⟨operation, warnings⟩, hOperation, more, hMore, h⟩ := h
        cases h
        exact ⟨ids, naming', (.operation operation, warnings), more, hTake,
          ⟨_, hArguments, _, hOperation, rfl⟩, hMore, rfl⟩
  · rintro ⟨hOpcode, ids, naming', piece, more, hTake, ⟨_, hArguments, ⟨operation, warnings⟩,
      hOperation, hPiece⟩, hMore, rfl⟩
    cases hPiece
    refine ⟨(), hOpcode, (), hArguments, ?_⟩
    simp only [hTake, bind_eq_ok_iff, mapError_eq_ok_iff]
    exact ⟨_, hOperation, more, hMore, rfl⟩

end Step

/-- No opcode is declared twice, and none of them was met before. -/
private def NewOpcodes (seen : List (String × Nat)) (declarations : List Declaration) : Prop :=
  (opcodes declarations).Nodup ∧ ∀ opcode ∈ opcodes declarations, opcode ∉ seen.map Prod.fst

private theorem newOpcodes_operation_iff (position : Nat) {seen : List (String × Nat)}
    {declared : OperationDeclaration} {rest : List Declaration} :
    NewOpcodes seen (.operation declared :: rest) ↔
      declared.opcode ∉ seen.map Prod.fst ∧
        NewOpcodes ((declared.opcode, position) :: seen) rest := by
  unfold NewOpcodes
  rw [show opcodes (.operation declared :: rest) = declared.opcode :: opcodes rest from rfl]
  simp only [List.nodup_cons, List.map_cons, List.mem_cons, not_or, forall_eq_or_imp]
  constructor
  · rintro ⟨⟨hHead, hNodup⟩, hNew, hRest⟩
    exact ⟨hNew, hNodup, fun opcode hMem => ⟨fun hSame => hHead (hSame ▸ hMem), hRest opcode hMem⟩⟩
  · rintro ⟨hNew, hNodup, hRest⟩
    exact ⟨⟨fun hMem => (hRest _ hMem).1 rfl, hNodup⟩, hNew,
      fun opcode hMem => (hRest opcode hMem).2⟩

/-- Every entry resolves on its own with the identifiers it receives. -/
def ResolveEach (naming : Naming) (declarations : List Declaration)
    (pieces : List (Block × List Warning)) : Prop :=
  ∃ ids, naming.takeEach declarations = some ids ∧
    List.zipWith Declaration.resolveWith ids declarations = pieces.map .ok

private theorem resolveEach_nil_iff {naming : Naming} {pieces : List (Block × List Warning)} :
    ResolveEach naming [] pieces ↔ pieces = [] := by
  simp [ResolveEach, Naming.takeEach, eq_comm]

private theorem resolveEach_operation_iff {naming : Naming} {declared : OperationDeclaration}
    {rest : List Declaration} {pieces : List (Block × List Warning)} :
    ResolveEach naming (.operation declared :: rest) pieces ↔ ∃ ids naming' piece more,
      naming.take declared.opcode 1 declared.arguments.length = some (ids, naming') ∧
      (Declaration.operation declared).resolveWith ids = .ok piece ∧
      ResolveEach naming' rest more ∧ pieces = piece :: more := by
  unfold ResolveEach
  constructor
  · rintro ⟨each, hEach, hPieces⟩
    simp only [Naming.takeEach] at hEach
    split at hEach
    · cases hEach
    · next ids naming' hTake =>
        obtain ⟨idsRest, hRest, rfl⟩ := Option.map_eq_some_iff.1 hEach
        rw [List.zipWith_cons_cons] at hPieces
        cases pieces with
        | nil => cases hPieces
        | cons piece more =>
            obtain ⟨hPiece, hMore⟩ := List.cons.inj hPieces
            exact ⟨ids, naming', piece, more, hTake, hPiece, ⟨idsRest, hRest, hMore⟩, rfl⟩
  · rintro ⟨ids, naming', piece, more, hTake, hPiece, ⟨idsRest, hRest, hMore⟩, rfl⟩
    refine ⟨ids :: idsRest, by simp [Naming.takeEach, hTake, hRest], ?_⟩
    rw [List.zipWith_cons_cons, hPiece, hMore, List.map_cons]

/-- An entry without arguments takes no identifier. -/
private theorem resolveEach_plain_iff {naming : Naming} {declaration : Declaration}
    {piece : Block × List Warning} {rest : List Declaration}
    {pieces : List (Block × List Warning)}
    (hTake : ∀ naming : Naming, naming.takeEach (declaration :: rest) =
      (naming.takeEach rest).map ([] :: ·))
    (hPiece : declaration.resolveWith [] = .ok piece) :
    ResolveEach naming (declaration :: rest) pieces ↔
      ∃ more, ResolveEach naming rest more ∧ pieces = piece :: more := by
  unfold ResolveEach
  rw [hTake]
  constructor
  · rintro ⟨each, hEach, hPieces⟩
    obtain ⟨idsRest, hRest, rfl⟩ := Option.map_eq_some_iff.1 hEach
    rw [List.zipWith_cons_cons, hPiece] at hPieces
    cases pieces with
    | nil => cases hPieces
    | cons first more =>
        obtain ⟨hFirst, hMore⟩ := List.cons.inj hPieces
        cases hFirst
        exact ⟨more, ⟨idsRest, hRest, hMore⟩, rfl⟩
  · rintro ⟨more, ⟨idsRest, hRest, hMore⟩, rfl⟩
    refine ⟨[] :: idsRest, by simp [hRest], ?_⟩
    rw [List.zipWith_cons_cons, hPiece, hMore, List.map_cons]

private theorem resolveFrom_eq_ok_iff {position : Nat} {seen : List (String × Nat)}
    {naming : Naming} {declarations : List Declaration} {resolution : Resolution} :
    resolveFrom position seen naming declarations = .ok resolution ↔
      NewOpcodes seen declarations ∧
        ∃ pieces, ResolveEach naming declarations pieces ∧ resolution = ofPieces pieces := by
  induction declarations generalizing position seen naming resolution with
  | nil => simp [resolveFrom, NewOpcodes, opcodes, resolveEach_nil_iff, ofPieces, eq_comm]
  | cons declaration rest ih =>
      have hPlain (piece : Block × List Warning)
          (hWalk : resolveFrom position seen naming (declaration :: rest) =
            (resolveFrom (position + 1) seen naming rest).map (cons piece.1 piece.2))
          (hOpcodes : opcodes (declaration :: rest) = opcodes rest)
          (hTake : ∀ naming : Naming, naming.takeEach (declaration :: rest) =
            (naming.takeEach rest).map ([] :: ·))
          (hPiece : declaration.resolveWith [] = .ok piece) :
          resolveFrom position seen naming (declaration :: rest) = .ok resolution ↔
            NewOpcodes seen (declaration :: rest) ∧
              ∃ pieces, ResolveEach naming (declaration :: rest) pieces ∧
                resolution = ofPieces pieces := by
        have hNew : NewOpcodes seen (declaration :: rest) ↔ NewOpcodes seen rest := by
          unfold NewOpcodes
          rw [hOpcodes]
        simp only [hWalk, map_eq_ok_iff, ih, hNew, resolveEach_plain_iff hTake hPiece]
        constructor
        · rintro ⟨more, ⟨hRest, pieces, hEach, rfl⟩, rfl⟩
          exact ⟨hRest, _, ⟨pieces, hEach, rfl⟩, cons_ofPieces ..⟩
        · rintro ⟨hRest, _, ⟨pieces, hEach, rfl⟩, rfl⟩
          exact ⟨_, ⟨hRest, pieces, hEach, rfl⟩, cons_ofPieces ..⟩
      cases declaration with
      | separator => exact hPlain (.separator, []) rfl rfl (fun _ => rfl) rfl
      | label text => exact hPlain (.label text, []) rfl rfl (fun _ => rfl) rfl
      | operation declared =>
          simp only [resolveFrom_operation_iff, ih, resolveEach_operation_iff,
            newOpcodes_operation_iff position]
          constructor
          · rintro ⟨hOpcode, ids, naming', piece, _, hTake, hPiece,
              ⟨hRest, pieces, hEach, rfl⟩, rfl⟩
            exact ⟨⟨hOpcode, hRest⟩, _, ⟨ids, naming', piece, pieces, hTake, hPiece, hEach, rfl⟩,
              cons_ofPieces ..⟩
          · rintro ⟨⟨hOpcode, hRest⟩, _, ⟨ids, naming', piece, pieces, hTake, hPiece, hEach, rfl⟩,
              rfl⟩
            exact ⟨hOpcode, ids, naming', piece, _, hTake, hPiece, ⟨hRest, pieces, hEach, rfl⟩,
              (cons_ofPieces ..).symm⟩

/--
A palette resolves exactly if no opcode is repeated, there are identifiers enough
and every entry resolves on its own; the results stand in the order of the entries.
-/
theorem resolve_eq_ok_iff {naming : Naming} {declarations : List Declaration}
    {resolution : Resolution} :
    resolve naming declarations = .ok resolution ↔
      (opcodes declarations).Nodup ∧
        ∃ pieces, ResolveEach naming declarations pieces ∧ resolution = ofPieces pieces := by
  simp [resolve, resolveFrom_eq_ok_iff, NewOpcodes]

/-! ## The ordinal policy -/

/-- The ordinal policy gives each entry its own identifiers, whatever is in front of it. -/
theorem takeEach_ordinal (declarations : List Declaration) :
    Naming.ordinal.takeEach declarations = some (declarations.map Declaration.ordinalIds) := by
  induction declarations with
  | nil => rfl
  | cons declaration rest ih =>
      cases declaration with
      | separator => simp [Naming.takeEach, ih, Declaration.ordinalIds]
      | label text => simp [Naming.takeEach, ih, Declaration.ordinalIds]
      | operation declared =>
          simp [Naming.takeEach, Naming.take_ordinal, ih, Declaration.ordinalIds]

/-- An entry on its own, under the ordinal policy. -/
def resolveAlone (declaration : Declaration) : Except Fault (Block × List Warning) :=
  declaration.resolveWith declaration.ordinalIds

/-- Under the ordinal policy each entry resolves to what it resolves to alone. -/
theorem resolveEach_ordinal_iff {declarations : List Declaration}
    {pieces : List (Block × List Warning)} :
    ResolveEach .ordinal declarations pieces ↔
      declarations.map resolveAlone = pieces.map .ok := by
  have hZip : List.zipWith Declaration.resolveWith (declarations.map Declaration.ordinalIds)
      declarations = declarations.map resolveAlone := by
    rw [List.zipWith_map_left, List.zipWith_self]
    rfl
  simp [ResolveEach, takeEach_ordinal, hZip]

end Resolution

end BlockExtension
