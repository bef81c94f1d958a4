import HashJoin.Key.Resolved
import HashJoin.RowWriter

/-!
# Matching rows

Two rows match if the cells of the columns that each condition names are equal under it. The
resolved keys compare just these cells, and rows that match by them have one hash, and a key that
can match at all. So looking a row up by its hash loses no match.

## Main definitions

* `Batch.keyCell` — the key cell of a row in the column of a name.
* `Condition.holds`, `rowsMatch` — whether two rows match under a condition, and under all.

## Main results

* `keysEqual_eq` — the resolved keys compare what the conditions name.
* `rowHash_of_rowsMatch`, `canMatch_of_rowsMatch` — rows that match can be found by their hash.
-/

namespace HashJoin

attribute [local instance] decideBytes

/-- The key cell of a row in the first column of a name. -/
def Batch.keyCell (b : Batch) (name : String) (row : Nat) : KeyCell :=
  match b.schema.indexOf? name with
  | none => .null
  | some index =>
    match b.column? index with
    | some column => column.keyAt row
    | none => .null

/-- Whether a probe row and a build row match under a condition. -/
def Condition.holds (c : Condition) (p b : BatchRow) : Bool :=
  (p.1.keyCell c.probe p.2).equalUnder c.comparator (b.1.keyCell c.build b.2)

/-- Whether a probe row and a build row match. -/
def rowsMatch (conditions : List Condition) (p b : BatchRow) : Bool :=
  conditions.all fun c => c.holds p b

theorem KeyCell.eq_of_equalUnder {comparator : Comparator} {a b : KeyCell}
    (h : a.equalUnder comparator b = true) : a = b := by
  unfold equalUnder at h
  split at h
  · rfl
  · cases h
  · cases h
  · exact eq_of_beq h

theorem KeyCell.nullsEqual_of_equalUnder {comparator : Comparator} {b : KeyCell}
    (h : KeyCell.null.equalUnder comparator b = true) : comparator.nullsEqual = true := by
  cases b <;> first | exact h | cases h

namespace JoinKeys

/-! ### Resolved columns -/

theorem mapM_cons_eq_ok {α β ε : Type} {f : α → Except ε β} {a : α} {as : List α} {bs : List β}
    (h : (a :: as).mapM f = .ok bs) :
    ∃ b rest, bs = b :: rest ∧ f a = .ok b ∧ as.mapM f = .ok rest := by
  rw [List.mapM_cons] at h
  cases hfirst : f a with
  | error e =>
    rw [hfirst] at h
    cases h
  | ok b =>
    cases hrest : as.mapM f with
    | error e =>
      rw [hfirst, hrest] at h
      cases h
    | ok rest =>
      rw [hfirst, hrest] at h
      cases h
      exact ⟨b, rest, rfl, rfl, rfl⟩

theorem indexOf?_of_resolveColumn {side : Side} {schema : Schema} {c : Condition} {key : KeyColumn}
    (h : resolveColumn side schema c = .ok key) :
    schema.indexOf? (c.columnOn side) = some key.index := by
  unfold resolveColumn at h
  simp only at h
  split at h
  · cases h
  · next index hindex =>
    split at h
    · cases h
    · split at h
      · cases h
      · cases h
        exact hindex

theorem cell_of_resolveColumn {side : Side} {batch : Batch} {c : Condition} {key : KeyColumn}
    (h : resolveColumn side batch.schema c = .ok key) (row : Nat) :
    key.cell batch row = batch.keyCell (c.columnOn side) row := by
  have hfound := indexOf?_of_resolveColumn h
  unfold Batch.keyCell
  split
  · next hnone =>
    rw [hfound] at hnone
    cases hnone
  · next index hindex =>
    rw [hfound] at hindex
    cases hindex
    rfl

/-- What keys are resolved to: the columns of each side, if its schema is known. -/
theorem resolve_eq_ok {conditions : List Condition} {build probe : Option Schema} {keys : JoinKeys}
    (h : resolve conditions build probe = .ok keys) :
    resolveSide .build build conditions = .ok keys.build ∧
      resolveSide .probe probe conditions = .ok keys.probe ∧
      keys.comparators = conditions.map Condition.comparator := by
  unfold resolve at h
  cases hbuild : resolveSide .build build conditions with
  | error e =>
    rw [hbuild] at h
    cases h
  | ok buildKeys =>
    cases hprobe : resolveSide .probe probe conditions with
    | error e =>
      rw [hbuild, hprobe] at h
      cases h
    | ok probeKeys =>
      rw [hbuild, hprobe] at h
      simp only [bind, Except.bind] at h
      split at h
      · cases h
      · cases h
        exact ⟨rfl, rfl, rfl⟩

/-! ### Matches -/

variable {conditions : List Condition} {keys : JoinKeys} {p b : BatchRow}

/-- The resolved keys compare what the conditions name. -/
theorem keysEqual_eq (h : resolve conditions (some b.1.schema) (some p.1.schema) = .ok keys) :
    keys.keysEqual p.1 p.2 b.1 b.2 = rowsMatch conditions p b := by
  obtain ⟨comparators, build, probe⟩ := keys
  obtain ⟨hbuild, hprobe, rfl⟩ := resolve_eq_ok h
  clear h
  unfold keysEqual rowsMatch
  simp only [resolveSide] at *
  induction conditions generalizing build probe with
  | nil => simp
  | cons c conditions ih =>
    obtain ⟨bk, build, rfl, hbk, hbuild⟩ := mapM_cons_eq_ok hbuild
    obtain ⟨pk, probe, rfl, hpk, hprobe⟩ := mapM_cons_eq_ok hprobe
    simp only [List.map_cons, List.zip_cons_cons, List.all_cons]
    rw [ih build probe hbuild hprobe, cell_of_resolveColumn hbk, cell_of_resolveColumn hpk]
    rfl

/-- Rows that match have one hash, whatever the digest. -/
theorem rowHash_of_rowsMatch (digest : DigestFn)
    (h : resolve conditions (some b.1.schema) (some p.1.schema) = .ok keys)
    (hmatch : rowsMatch conditions p b = true) :
    rowHash digest keys.probe p.1 p.2 = rowHash digest keys.build b.1 b.2 := by
  obtain ⟨comparators, build, probe⟩ := keys
  obtain ⟨hbuild, hprobe, rfl⟩ := resolve_eq_ok h
  clear h
  unfold rowHash
  apply congrArg foldWord
  simp only [resolveSide] at *
  -- on the conditions, from any seed: equal cells are absorbed alike
  generalize hashSeed = seed
  induction conditions generalizing build probe seed with
  | nil =>
    cases hbuild
    cases hprobe
    rfl
  | cons c conditions ih =>
    obtain ⟨bk, build, rfl, hbk, hbuild⟩ := mapM_cons_eq_ok hbuild
    obtain ⟨pk, probe, rfl, hpk, hprobe⟩ := mapM_cons_eq_ok hprobe
    obtain ⟨hcell, hrest⟩ := Bool.and_eq_true_iff.mp hmatch
    have hcell : p.1.keyCell c.probe p.2 = b.1.keyCell c.build b.2 :=
      KeyCell.eq_of_equalUnder hcell
    rw [List.foldl_cons, List.foldl_cons, cell_of_resolveColumn hbk, cell_of_resolveColumn hpk]
    show List.foldl _ ((p.1.keyCell c.probe p.2).absorb digest seed) _ = _
    rw [hcell]
    exact ih hrest build probe hbuild hprobe _

theorem isValid_of_cell {key : KeyColumn} {batch : Batch} {row : Nat}
    (h : key.cell batch row ≠ .null) :
    (batch.column? key.index).any (·.isValid row) = true := by
  unfold KeyColumn.cell at h
  split at h
  · next column hcolumn =>
    rw [hcolumn, Option.any_some]
    apply Decidable.byContradiction
    intro hnot
    apply h
    unfold Column.keyAt
    rw [if_neg hnot]
  · exact absurd rfl h

/-- A probe row that matches has a key that can match. -/
theorem canMatch_of_rowsMatch
    (h : resolve conditions (some b.1.schema) (some p.1.schema) = .ok keys)
    (hmatch : rowsMatch conditions p b = true) : keys.canMatch p.1 p.2 = true := by
  obtain ⟨comparators, build, probe⟩ := keys
  obtain ⟨hbuild, hprobe, rfl⟩ := resolve_eq_ok h
  clear h hbuild
  unfold canMatch
  simp only [resolveSide] at *
  induction conditions generalizing probe with
  | nil => simp
  | cons c conditions ih =>
    obtain ⟨pk, probe, rfl, hpk, hprobe⟩ := mapM_cons_eq_ok hprobe
    obtain ⟨hcell, hrest⟩ := Bool.and_eq_true_iff.mp hmatch
    simp only [List.map_cons, List.zip_cons_cons, List.all_cons]
    rw [ih hrest probe hprobe, Bool.and_true, Bool.or_eq_true]
    by_cases hnull : pk.cell p.1 p.2 = .null
    -- a NULL matches only where NULLs are equal
    · left
      rw [cell_of_resolveColumn hpk] at hnull
      have hnull : p.1.keyCell c.probe p.2 = .null := hnull
      have hcell : (p.1.keyCell c.probe p.2).equalUnder c.comparator
        (b.1.keyCell c.build b.2) = true := hcell
      rw [hnull] at hcell
      exact KeyCell.nullsEqual_of_equalUnder hcell
    · right
      exact isValid_of_cell hnull

end JoinKeys
end HashJoin
