import HashJoin.Proofs.Column.Bitmap
import HashJoin.Proofs.Column.Shape

/-!
# Growing cells

The cells, byte sequences and bitmaps of a column that grows by one row: what was there stays, and
the new row holds what was appended.

## Main results

* `Cells.valueAt_pushCell`, `Cells.valueAt_pushZero` — fixed-width cells.
* `Slices.push_of_fits`, `Slices.get_push` — byte sequences.
* `Validity.suits_push` — bitmaps.
-/

namespace HashJoin

theorem getD_push {α : Type} (xs : Array α) (x default : α) (i : Nat) :
    (xs.push x).getD i default = if i = xs.size then x else xs.getD i default := by
  simp only [Array.getD_eq_getD_getElem?, Array.getElem?_push]
  split <;> rfl

/-- What a list with one more element holds. -/
theorem getElem?_concat {α : Type} {xs : List α} {x y : α} {i : Nat} (h : (xs ++ [x])[i]? = some y) :
    (i < xs.length ∧ xs[i]? = some y) ∨ (i = xs.length ∧ y = x) := by
  rcases Nat.lt_trichotomy i xs.length with hlt | rfl | hgt
  · rw [List.getElem?_append_left hlt] at h
    exact .inl ⟨hlt, h⟩
  · rw [List.getElem?_concat_length] at h
    exact .inr ⟨rfl, (Option.some.inj h).symm⟩
  · rw [List.getElem?_eq_none (by simp; omega)] at h
    cases h

/-! ### Fixed-width cells -/

namespace Cells

variable {cells others : Cells}

theorem alike_of_type_eq (h : cells.type = others.type) : cells.alike others = true := by
  cases cells <;> cases others <;> simp_all [type, alike]

theorem type_eq_of_alike (h : cells.alike others = true) : cells.type = others.type := by
  cases cells <;> cases others <;> simp_all [type, alike]

@[simp] theorem type_pushZero (cells : Cells) : cells.pushZero.type = cells.type := by
  cases cells <;> rfl

@[simp] theorem length_pushZero (cells : Cells) : cells.pushZero.length = cells.length + 1 := by
  cases cells <;> simp [pushZero, length]

@[simp] theorem type_pushCell (cells others : Cells) (row : Nat) :
    (cells.pushCell others row).type = cells.type := by
  cases cells <;> cases others <;> rfl

@[simp] theorem length_pushCell (cells others : Cells) (row : Nat) :
    (cells.pushCell others row).length = cells.length + 1 := by
  cases cells <;> cases others <;> simp [pushCell, pushZero, length]

/-- A zero of the shorter format is the zero of the longer one. -/
theorem convert_zero : (Binary.zero : Binary32).convert = (Binary.zero : Binary64) := by
  decide +kernel

theorem valueAt_pushZero (cells : Cells) (row : Nat) :
    cells.pushZero.valueAt row = if row = cells.length then cells.type.zero else cells.valueAt row := by
  cases cells with
  | ints width values =>
    by_cases hrow : row = values.size <;>
      simp only [pushZero, valueAt, length, type, ScalarType.zero, getD_push, hrow, if_true, if_false]
  | singles values =>
    by_cases hrow : row = values.size <;>
      simp only [pushZero, valueAt, length, type, ScalarType.zero, getD_push, hrow, if_true, if_false,
        convert_zero]
  | doubles values =>
    by_cases hrow : row = values.size <;>
      simp only [pushZero, valueAt, length, type, ScalarType.zero, getD_push, hrow, if_true, if_false]

theorem valueAt_pushCell (h : cells.type = others.type) (source row : Nat) :
    (cells.pushCell others source).valueAt row =
      if row = cells.length then others.valueAt source else cells.valueAt row := by
  by_cases hrow : row = cells.length
  · rw [if_pos hrow, hrow]
    cases cells <;> cases others <;> cases h <;>
      simp only [pushCell, valueAt, length, getD_push, if_true]
  · rw [if_neg hrow]
    cases cells <;> cases others <;> cases h <;> simp only [length] at hrow <;>
      simp only [pushCell, valueAt, getD_push, hrow, if_false]

end Cells

/-! ### Byte sequences -/

/-- The value that a byte sequence stands for. -/
def BytesKind.value : BytesKind → ByteArray → Value
  | binary, data => .blob data
  | text, data => .text (Text.decode data)

theorem decode_empty : Text.decode .empty = "" := by decide +kernel

/-- The zero of its type is the empty sequence. -/
theorem BytesKind.zero_type (kind : BytesKind) : kind.type.zero = kind.value .empty := by
  cases kind with
  | binary => rfl
  | text => rw [value, decode_empty]; rfl

namespace Slices

theorem valueAt_eq (s : Slices) (kind : BytesKind) (row : Nat) :
    s.valueAt kind row = kind.value (s.get row) := by
  cases kind <;> rfl

variable {s s' : Slices} {n : Nat} {data : ByteArray} {spec : ColumnSpec}

theorem wellFormed_empty : empty.WellFormed 0 := ⟨rfl, nofun, rfl⟩

/-- Ascending offsets are bounded by the last one. -/
theorem getD_le_last {offsets : Array Nat}
    (hascending : ∀ row < n, offsets.getD row 0 ≤ offsets.getD (row + 1) 0) {row : Nat}
    (hrow : row ≤ n) : offsets.getD row 0 ≤ offsets.getD n 0 := by
  -- on the distance to the last offset
  obtain ⟨d, rfl⟩ := Nat.exists_eq_add_of_le hrow
  clear hrow
  induction d generalizing row with
  | zero => exact Nat.le_refl _
  | succ d ih =>
    have hstep := hascending row (by omega)
    have hshift : row + (d + 1) = row + 1 + d := by omega
    rw [hshift] at hascending ⊢
    exact Nat.le_trans hstep (ih hascending)

/-- No offset is past the end of the payload. -/
theorem WellFormed.le_size (h : s.WellFormed n) {row : Nat} (hrow : row ≤ n) :
    s.offsets.getD row 0 ≤ s.payload.size := by
  rw [← h.last]
  exact getD_le_last h.ascending hrow

/-- Bytes behind the end of a sequence are not part of it. -/
theorem get_append {row : Nat} (data : ByteArray) (hstart : s.offsets.getD row 0 ≤ s.payload.size)
    (hend : s.offsets.getD (row + 1) 0 ≤ s.payload.size) :
    (⟨s.offsets, s.payload ++ data⟩ : Slices).get row = s.get row := by
  simp only [get, ByteArray.extract_append, Nat.sub_eq_zero_of_le hstart, Nat.sub_eq_zero_of_le hend]
  simp

/-- The slices with one more sequence at the end of the payload. -/
def added (s : Slices) (data : ByteArray) : Slices :=
  ⟨s.offsets.push (s.payload ++ data).size, s.payload ++ data⟩

/-- A sequence is appended if the payload has room for it. -/
theorem push_of_fits (h : s.payload.size + data.size ≤ maxOffset) :
    s.push data spec = (.ok (), s.added data) := by
  rw [← ByteArray.size_append] at h
  simp only [push, if_pos h]
  rfl

/-- The slices with bytes that belong to no sequence. -/
def outgrown (s : Slices) (data : ByteArray) : Slices := ⟨s.offsets, s.payload ++ data⟩

/-- A sequence that the payload has no room for is refused. Its bytes stay behind. -/
theorem push_of_full (spec : ColumnSpec) (h : maxOffset < s.payload.size + data.size) :
    s.push data spec = (.error (.payload spec), s.outgrown data) := by
  rw [← ByteArray.size_append] at h
  simp only [push, if_neg (Nat.not_le_of_lt h)]
  rfl

theorem wellFormed_added (h : s.WellFormed n) (data : ByteArray) :
    (s.added data).WellFormed (n + 1) := by
  refine ⟨?_, ?_, ?_⟩
  · show (s.offsets.push _).size = _
    rw [Array.size_push, h.size]
  · intro row hrow
    simp only [added, getD_push, h.size]
    rcases Nat.lt_or_ge row n with hlt | hge
    · rw [if_neg (by omega), if_neg (by omega)]
      exact h.ascending row hlt
    · obtain rfl : row = n := by omega
      rw [if_neg (by omega), if_pos rfl, h.last, ByteArray.size_append]
      omega
  · simp only [added, getD_push, h.size, if_true]

theorem get_added (h : s.WellFormed n) (data : ByteArray) {row : Nat} (hrow : row ≤ n) :
    (s.added data).get row = if row = n then data else s.get row := by
  have hstart : (s.offsets.push (s.payload ++ data).size).getD row 0 = s.offsets.getD row 0 := by
    rw [getD_push, if_neg (by rw [h.size]; omega)]
  simp only [get, added, hstart]
  rcases Nat.lt_or_eq_of_le hrow with hlt | rfl
  -- earlier sequences end within the old payload
  · rw [if_neg (Nat.ne_of_lt hlt), getD_push, if_neg (by rw [h.size]; omega)]
    exact get_append data (h.le_size hrow) (h.le_size hlt)
  · rw [if_pos rfl, h.last, getD_push, if_pos h.size.symm, ByteArray.size_append,
      ByteArray.extract_append_eq_right rfl rfl]

theorem pushEmpty_eq (h : s.WellFormed n) : s.pushEmpty = s.added .empty := by
  have hlast : s.offsets.back?.getD 0 = s.payload.size := by
    rw [← h.last, Array.back?_eq_getElem?, h.size, Array.getD_eq_getD_getElem?]
    rfl
  simp only [pushEmpty, added, hlast, ByteArray.append_empty]

end Slices

/-! ### Bitmaps -/

theorem Validity.suits_push {v : Validity} {spec : ColumnSpec} {n : Nat} {valid : Bool}
    (h : v.Suits spec n) (hclear : v.Clear) (hvalid : spec.nullable = false → valid = true) :
    (v.push valid).Suits spec (n + 1) := by
  refine ⟨by rw [length_push, h.length], ?_⟩
  intro hnull row hrow
  rw [isValid_push hclear]
  split
  · exact hvalid hnull
  · next hne =>
    rw [h.length] at hne
    exact h.present hnull row (by omega)

end HashJoin
