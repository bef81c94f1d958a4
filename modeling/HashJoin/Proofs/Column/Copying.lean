import HashJoin.Proofs.Column.Building
import HashJoin.Proofs.Column.Stored

/-!
# Copying stored cells

A row of another column is copied as it is stored, so that floats keep all their bits and texts all
their bytes. The rows before it stay as they were stored, and so they do when an absent row is appended.

## Main definitions

* `Column.Builder.Stores` — a builder that has stored one more row.

## Main results

* `stores_pushFrom`, `stores_pushFromAll` — a copied row is stored as it was.
* `stores_pushBlank`, `stores_pushAbsentAll` — an absent row leaves the others alone.
* `payloadSize_le_of_pushFrom` — a copied row leaves every payload within its bounds.
-/

namespace HashJoin

/-! ### Growing the stored cells -/

namespace Cells

variable {cells others : Cells}

theorem storedAt_pushZero (cells : Cells) (row : Nat) (hrow : row ≠ cells.length) :
    cells.pushZero.storedAt row = cells.storedAt row := by
  cases cells <;> simp only [length] at hrow <;>
    simp only [pushZero, storedAt, getD_push, hrow, if_false]

theorem storedAt_pushCell (h : cells.alike others = true) (source row : Nat) :
    (cells.pushCell others source).storedAt row =
      if row = cells.length then others.storedAt source else cells.storedAt row := by
  match cells, others with
  | ints width values, ints _ _ | singles values, singles _ | doubles values, doubles _ =>
    simp only [pushCell, storedAt, length, getD_push]
    exact apply_ite _ _ _ _
  | ints .., singles _ | ints .., doubles _ | singles _, ints .. | singles _, doubles _
  | doubles _, ints .. | doubles _, singles _ => cases h

end Cells

namespace Slices

variable {s s' : Slices} {data : ByteArray} {spec : ColumnSpec}

/-- A sequence that was appended is the one behind the payload, which had room for it. -/
theorem push_eq_ok (h : s.push data spec = (.ok (), s')) :
    s' = s.added data ∧ s.payload.size + data.size ≤ maxOffset := by
  rcases Nat.lt_or_ge maxOffset (s.payload.size + data.size) with hfull | hfits
  · rw [push_of_full spec hfull] at h
    cases h
  · rw [push_of_fits hfits] at h
    cases h
    exact ⟨rfl, hfits⟩

theorem size_le_of_push (h : s.push data spec = (.ok (), s')) : s'.payload.size ≤ maxOffset := by
  obtain ⟨rfl, hroom⟩ := push_eq_ok h
  show (s.payload ++ data).size ≤ maxOffset
  rw [ByteArray.size_append]
  exact hroom

end Slices

namespace Column.Builder

/-! ### One more row -/

variable {n : Nat} {valid : Bool} {cell : StoredCell}

/-- The builder `b'` stores what `b` stores, and one more row behind `n` others. -/
def Stores (n : Nat) (b b' : Builder) (cell : StoredCell) : Prop :=
  ∀ row ≤ n, b'.toColumn.storedAt row = if row = n then cell else b.toColumn.storedAt row

/-- The builders `bs'` store what `bs` store, and one more row. -/
def StoresAll (n : Nat) (bs bs' : List Builder) (cells : List StoredCell) : Prop :=
  ∀ row ≤ n, storedIn row (toColumns bs') = if row = n then cells else storedIn row (toColumns bs)

theorem storesAll_nil : StoresAll n [] [] [] := by
  intro row _
  simp [toColumns, storedIn]

theorem storesAll_cons {b b' : Builder} {bs bs' : List Builder} {cells : List StoredCell}
    (hb : Stores n b b' cell) (hbs : StoresAll n bs bs' cells) :
    StoresAll n (b :: bs) (b' :: bs') (cell :: cells) := by
  intro row hrow
  simp only [toColumns, storedIn, hb row hrow, hbs row hrow]
  split <;> rfl

theorem stores_fixed {s : ColumnSpec} {v : Validity} {cells cells' : Cells}
    (h : (fixed s v cells).Sound n)
    (hcell : ∀ row, cells'.storedAt row = if row = cells.length then cell else cells.storedAt row) :
    Stores n (fixed s v cells) (fixed s (v.push valid) cells') (if valid then cell else .null) := by
  obtain ⟨hv, hclear, hcells, -⟩ := h
  intro row _
  simp only [toColumn, storedAt, Validity.isValid_push hclear, hv.length, hcell, hcells]
  split <;> rfl

theorem stores_bytes {s : ColumnSpec} {v : Validity} {kind : BytesKind} {slices : Slices}
    (h : (bytes s v kind slices).Sound n) (data : ByteArray) :
    Stores n (bytes s v kind slices) (bytes s (v.push valid) kind (slices.added data))
      (if valid then .bytes kind data else .null) := by
  obtain ⟨hv, hclear, hslices, -⟩ := h
  intro row hrow
  simp only [toColumn, storedAt, Validity.isValid_push hclear, hv.length,
    Slices.get_added hslices data hrow]
  split <;> rfl

theorem stores_record {s : ColumnSpec} {v : Validity} {children children' : List Builder}
    {cells : List StoredCell} (h : (record s v children).Sound n)
    (hchildren : StoresAll n children children' cells) :
    Stores n (record s v children) (record s (v.push valid) children')
      (if valid then .record cells else .null) := by
  obtain ⟨hv, hclear, -⟩ := h
  intro row hrow
  simp only [toColumn, storedAt, Validity.isValid_push hclear, hv.length, hchildren row hrow]
  split <;> rfl

/-! ### Absent rows -/

mutual

theorem stores_pushBlank : ∀ (b : Builder) (valid : Bool), b.Sound n →
    ∃ cell, Stores n b (b.pushBlank valid) cell
  | fixed s v cells, valid, h => by
    have hzero : ∀ row, cells.pushZero.storedAt row =
        if row = cells.length then cells.pushZero.storedAt cells.length else cells.storedAt row := by
      intro row
      split
      · next hlast => rw [hlast]
      · next hearlier => exact Cells.storedAt_pushZero cells row hearlier
    exact ⟨_, stores_fixed h hzero⟩
  | bytes s v kind slices, valid, h => by
    refine ⟨if valid then .bytes kind .empty else .null, ?_⟩
    show Stores n _ (bytes s (v.push valid) kind slices.pushEmpty) _
    rw [Slices.pushEmpty_eq h.2.2.1]
    exact stores_bytes h .empty
  | record s v children, valid, h => by
    obtain ⟨cells, hcells⟩ := stores_pushAbsentAll children h.2.2.2.2
    exact ⟨_, stores_record h hcells⟩

theorem stores_pushAbsentAll : ∀ bs : List Builder, SoundAll n bs →
    ∃ cells, StoresAll n bs (pushAbsentAll bs) cells
  | [], _ => ⟨[], storesAll_nil⟩
  | b :: bs, h => by
    obtain ⟨cell, hcell⟩ := stores_pushBlank b (!b.spec.nullable) h.1
    obtain ⟨cells, hcells⟩ := stores_pushAbsentAll bs h.2
    exact ⟨_, storesAll_cons hcell hcells⟩

end

/-! ### Rows of another column -/

mutual

/-- A row of another column that was appended is stored as it was there. -/
theorem stores_pushFrom {source : Nat} : ∀ (b b' : Builder) (c : Column), b.Sound n →
    pushFrom source b c = (.ok (), b') → Stores n b b' (c.storedAt source)
  | fixed s v cells, b', .fixed s' w buffer, h, hpush => by
    rw [pushFrom] at hpush
    split at hpush
    · cases hpush
    · split at hpush
      · next halike =>
        cases hpush
        exact stores_fixed h (Cells.storedAt_pushCell halike source)
      · cases hpush
  | bytes s v kind slices, b', .bytes s' w kind' others, h, hpush => by
    rw [pushFrom] at hpush
    split at hpush
    · cases hpush
    · split at hpush
      · next hkind =>
        split at hpush
        · next slices' happended =>
          cases hpush
          rw [(Slices.push_eq_ok happended).1, storedAt, ← hkind]
          exact stores_bytes h _
        · cases hpush
      · cases hpush
  | record s v children, b', .record s' w length columns, h, hpush => by
    rw [pushFrom] at hpush
    split at hpush
    · cases hpush
    · split at hpush
      · cases hpush
      · next hwidth =>
        split at hpush
        · next children' happended =>
          cases hpush
          exact stores_record h (stores_pushFromAll children children' columns h.2.2.2.2
            (Decidable.not_not.mp hwidth) happended)
        · cases hpush
  -- columns of another layout are refused
  | fixed _ _ _, _, .bytes .., _, hpush | fixed _ _ _, _, .record .., _, hpush
  | bytes _ _ _ _, _, .fixed .., _, hpush | bytes _ _ _ _, _, .record .., _, hpush
  | record _ _ _, _, .fixed .., _, hpush | record _ _ _, _, .bytes .., _, hpush => by
    simp only [pushFrom] at hpush
    split at hpush <;> cases hpush

theorem stores_pushFromAll {source : Nat} : ∀ (bs bs' : List Builder) (cs : List Column),
    SoundAll n bs → bs.length = cs.length → pushFromAll source bs cs = (.ok (), bs') →
    StoresAll n bs bs' (storedIn source cs)
  | [], bs', [], _, _, hpush => by
    cases hpush
    exact storesAll_nil
  | b :: bs, bs', c :: cs, h, hlength, hpush => by
    rw [pushFromAll] at hpush
    split at hpush
    · next b₁ hfirst =>
      rcases hrest : pushFromAll source bs cs with ⟨result, bs₁⟩
      rw [hrest] at hpush
      cases hpush
      exact storesAll_cons (stores_pushFrom b b₁ c h.1 hfirst)
        (stores_pushFromAll bs bs₁ cs h.2 (Nat.succ.inj hlength) hrest)
    · cases hpush

end

/-! ### Room in the payloads -/

mutual

/-- A copied row leaves every payload within its bounds. -/
theorem payloadSize_le_of_pushFrom {source : Nat} : ∀ (b b' : Builder) (c : Column),
    pushFrom source b c = (.ok (), b') →
    (∀ path, b.toColumn.payloadSize path ≤ Slices.maxOffset) →
    ∀ path, b'.toColumn.payloadSize path ≤ Slices.maxOffset
  | fixed s v cells, b', .fixed s' w buffer, hpush, _, path => by
    rw [pushFrom] at hpush
    split at hpush
    · cases hpush
    · split at hpush
      · cases hpush
        exact Nat.zero_le _
      · cases hpush
  | bytes s v kind slices, b', .bytes s' w kind' others, hpush, hroom, path => by
    rw [pushFrom] at hpush
    split at hpush
    · cases hpush
    · split at hpush
      · split at hpush
        · next slices' happended =>
          cases hpush
          cases path with
          | nil => exact Slices.size_le_of_push happended
          | cons i path => exact Nat.zero_le _
        · cases hpush
      · cases hpush
  | record s v children, b', .record s' w length columns, hpush, hroom, path => by
    rw [pushFrom] at hpush
    split at hpush
    · cases hpush
    · split at hpush
      · cases hpush
      · split at hpush
        · next children' happended =>
          cases hpush
          cases path with
          | nil => exact Nat.zero_le _
          | cons i path =>
            exact payloadSizeIn_le_of_pushFromAll children children' columns happended
              (fun i path => hroom (i :: path)) i path
        · cases hpush
  -- columns of another layout are refused
  | fixed _ _ _, _, .bytes .., hpush, _, _ | fixed _ _ _, _, .record .., hpush, _, _
  | bytes _ _ _ _, _, .fixed .., hpush, _, _ | bytes _ _ _ _, _, .record .., hpush, _, _
  | record _ _ _, _, .fixed .., hpush, _, _ | record _ _ _, _, .bytes .., hpush, _, _ => by
    simp only [pushFrom] at hpush
    split at hpush <;> cases hpush

theorem payloadSizeIn_le_of_pushFromAll {source : Nat} : ∀ (bs bs' : List Builder) (cs : List Column),
    pushFromAll source bs cs = (.ok (), bs') →
    (∀ i path, payloadSizeIn (toColumns bs) i path ≤ Slices.maxOffset) →
    ∀ i path, payloadSizeIn (toColumns bs') i path ≤ Slices.maxOffset
  | [], bs', cs, hpush, hroom => by
    cases hpush
    exact hroom
  | b :: bs, bs', [], hpush, hroom => by
    cases hpush
    exact hroom
  | b :: bs, bs', c :: cs, hpush, hroom => by
    rw [pushFromAll] at hpush
    split at hpush
    · next b₁ hfirst =>
      rcases hrest : pushFromAll source bs cs with ⟨result, bs₁⟩
      rw [hrest] at hpush
      cases hpush
      intro i path
      cases i with
      | zero => exact payloadSize_le_of_pushFrom b b₁ c hfirst (fun path => hroom 0 path) path
      | succ i =>
        exact payloadSizeIn_le_of_pushFromAll bs bs₁ cs hrest (fun i path => hroom (i + 1) path) i path
    · cases hpush

end

end Column.Builder
end HashJoin
