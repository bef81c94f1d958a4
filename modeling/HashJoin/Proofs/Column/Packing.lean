import HashJoin.Proofs.Column.Bitmap
import Mathlib.Data.List.GetD

/-!
# Packed flags

Flags that are appended to a bitmap one by one are packed without loss: every row reads as its flag, no
byte is there that the rows do not need, and the bits past the last row are clear. Of all bitmaps of these
flags it is the only such one, so that flags are packed in one way only.

## Main definitions

* `Validity.flags`, `Validity.padding` — the rows of a bitmap as a list, and the stored bits past the last.
* `Validity.Packs`, `Validity.Packed` — the invariant of a bitmap to which flags are appended, and all that
  can be seen of it.

## Main results

* `packs_push`, `packs_foldl` — one more flag, and any number of them.
* `eq_iff_padding` — bitmaps are equal iff they have the same rows and the same padding.
* `packed_of_pushes` — **flags are packed without loss, and in one way only.**
-/

namespace HashJoin
namespace Validity

/-! ### Stored bits -/

/-- All bits of some bytes, those of a byte from the lowest up. -/
def bitsOf (bytes : Array UInt8) : List Bool :=
  (List.range (8 * bytes.size)).map fun i => (bytes.getD (i / 8) 0).toNat.testBit (i % 8)

/-- Which rows have a value. -/
def flags (v : Validity) : List Bool := (List.range v.length).map v.isValid

/-- The stored bits past the last row, those of bytes that no row needs among them. -/
def padding (v : Validity) : List Bool := (bitsOf v.bytes).drop v.length

@[simp] theorem length_bitsOf (bytes : Array UInt8) : (bitsOf bytes).length = 8 * bytes.size := by
  simp [bitsOf]

@[simp] theorem length_flags (v : Validity) : v.flags.length = v.length := by simp [flags]

@[simp] theorem length_padding (v : Validity) : v.padding.length = 8 * v.bytes.size - v.length := by
  rw [padding, List.length_drop, length_bitsOf]

variable {v w : Validity} {fs before : List Bool}

/-- Every row has a bit. -/
theorem length_le (v : Validity) : v.length ≤ 8 * v.bytes.size := by
  have := v.covers
  omega

theorem getElem?_bitsOf (v : Validity) (i : Nat) :
    (bitsOf v.bytes)[i]? = if i < 8 * v.bytes.size then some (v.bit i) else none := by
  rw [bitsOf, List.getElem?_map]
  split
  · next h =>
    rw [List.getElem?_range h]
    rfl
  · next h =>
    rw [List.getElem?_eq_none (by simpa using h)]
    rfl

theorem getElem?_padding (v : Validity) (i : Nat) :
    v.padding[i]? = if v.length + i < 8 * v.bytes.size then some (v.bit (v.length + i)) else none := by
  rw [padding, List.getElem?_drop, getElem?_bitsOf]

theorem isValid_of_lt {row : Nat} (h : row < v.length) : v.isValid row = v.bit row := by
  simp [isValid_eq, h]

/-! ### Bitmaps are their bits -/

theorem byte_eq_of_testBit {a b : UInt8} (h : ∀ i < 8, a.toNat.testBit i = b.toNat.testBit i) : a = b := by
  apply UInt8.toNat_inj.mp
  apply Nat.eq_of_testBit_eq
  intro i
  rcases Nat.lt_or_ge i 8 with hi | hi
  · exact h i hi
  -- a byte has no further bits
  · have hpow : 2 ^ 8 ≤ 2 ^ i := Nat.pow_le_pow_right Nat.two_pos hi
    rw [Nat.testBit_lt_two_pow (Nat.lt_of_lt_of_le a.toNat_lt hpow),
      Nat.testBit_lt_two_pow (Nat.lt_of_lt_of_le b.toNat_lt hpow)]

/-- Bitmaps with as many rows, as many bytes and the same bits are equal. -/
theorem eq_of_bit (hlength : v.length = w.length) (hsize : v.bytes.size = w.bytes.size)
    (hbit : ∀ i < 8 * v.bytes.size, v.bit i = w.bit i) : v = w := by
  have hbytes : v.bytes = w.bytes := by
    apply Array.ext hsize
    intro k hk hk'
    apply byte_eq_of_testBit
    intro i hi
    have hlt : 8 * k + i < 8 * v.bytes.size := by omega
    have hdiv : (8 * k + i) / 8 = k := by omega
    have hmod : (8 * k + i) % 8 = i := by omega
    simpa [bit, hdiv, hmod, Array.getD, hk, hk'] using hbit (8 * k + i) hlt
  obtain ⟨bytes, length, covers⟩ := v
  obtain ⟨bytes', length', covers'⟩ := w
  obtain rfl : bytes = bytes' := hbytes
  obtain rfl : length = length' := hlength
  rfl

/-- Bitmaps are equal iff they have the same rows and the same padding. -/
theorem eq_iff_padding (v w : Validity) : v = w ↔ v.length = w.length ∧
    (∀ row < v.length, v.isValid row = w.isValid row) ∧ v.padding = w.padding := by
  constructor
  · rintro rfl
    exact ⟨rfl, fun _ _ => rfl, rfl⟩
  · rintro ⟨hlength, hrows, hpadding⟩
    have hsize : v.bytes.size = w.bytes.size := by
      have hpast := congrArg List.length hpadding
      have hv := v.length_le
      have hw := w.length_le
      simp only [length_padding] at hpast
      omega
    refine eq_of_bit hlength hsize ?_
    intro i hi
    rcases Nat.lt_or_ge i v.length with hlt | hge
    -- a bit of a row, or one past the last row
    · have hlt' : i < w.length := hlength ▸ hlt
      rw [← isValid_of_lt hlt, ← isValid_of_lt hlt', hrows i hlt]
    · have hpast := congrArg (·[i - v.length]?) hpadding
      have hi' : i < 8 * w.bytes.size := hsize ▸ hi
      have hplace : v.length + (i - v.length) = i := by omega
      have hplace' : w.length + (i - v.length) = i := by omega
      simpa [getElem?_padding, hplace, hplace', hi, hi'] using hpast

theorem flags_eq_iff (v w : Validity) : v.flags = w.flags ↔
    v.length = w.length ∧ ∀ row < v.length, v.isValid row = w.isValid row := by
  constructor
  · intro h
    have hlength : v.length = w.length := by rw [← length_flags v, ← length_flags w, h]
    refine ⟨hlength, ?_⟩
    intro row hrow
    have hplace := congrArg (·[row]?) h
    simpa [flags, hrow, ← hlength] using hplace
  · rintro ⟨hlength, hrows⟩
    rw [flags, flags, ← hlength]
    exact List.map_congr_left fun row hrow => hrows row (List.mem_range.mp hrow)

/-- The rows without a value are the flags that are not set. -/
theorem nullCount_eq (v : Validity) : v.nullCount = v.flags.count false := by
  rw [nullCount, flags, List.count, List.countP_map]
  apply List.countP_congr
  intro row _
  simp

/-! ### Appending flags -/

/-- The bitmap holds the given flags and nothing else: no byte that they do not need, and no bit past them. -/
structure Packs (v : Validity) (fs : List Bool) : Prop where
  /-- There is a row for each flag. -/
  length : v.length = fs.length
  /-- There are the bytes that these rows need. -/
  size : v.bytes.size = bytesFor fs.length
  /-- The bit of a row is its flag, and no other bit is set. -/
  bit : ∀ i, v.bit i = fs.getD i false

theorem packs_empty : empty.Packs [] := by
  refine ⟨rfl, rfl, ?_⟩
  intro i
  simp [Validity.bit, empty]

/-- A byte is added when the bits of the others are used up. -/
theorem size_bytes_push (v : Validity) (valid : Bool) :
    (v.push valid).bytes.size = if v.length / 8 = v.bytes.size then v.bytes.size + 1 else v.bytes.size := by
  obtain ⟨bytes, length, covers⟩ := v
  have hgrown : (if length / 8 = bytes.size then bytes.push 0 else bytes).size =
      if length / 8 = bytes.size then bytes.size + 1 else bytes.size := by
    split
    · exact Array.size_push 0
    · rfl
  cases valid with
  | false => exact hgrown
  | true => exact Array.size_modify.trans hgrown

/-- One more flag. -/
theorem packs_push (h : v.Packs fs) (valid : Bool) : (v.push valid).Packs (fs ++ [valid]) where
  length := by rw [length_push, h.length, List.length_append, List.length_singleton]
  size := by
    have hsize := h.size
    rw [size_bytes_push, h.length, List.length_append, List.length_singleton]
    simp only [bytesFor] at hsize ⊢
    split <;> omega
  bit := by
    intro i
    rw [bit_push, h.bit, h.length]
    rcases Nat.lt_trichotomy i fs.length with hlt | rfl | hgt
    · rw [List.getD_append _ _ _ _ hlt, decide_eq_false (Nat.ne_of_lt hlt), Bool.and_false, Bool.or_false]
    · rw [List.getD_append_right _ _ _ _ (Nat.le_refl _), List.getD_eq_default _ _ (Nat.le_refl _)]
      simp
    · rw [List.getD_append_right _ _ _ _ (Nat.le_of_lt hgt), List.getD_eq_default _ _ (Nat.le_of_lt hgt),
        decide_eq_false (Nat.ne_of_gt hgt), List.getD_eq_default _ _ (Nat.sub_pos_of_lt hgt)]
      simp

/-- Any number of flags. The induction is on those that are still to come. -/
theorem packs_foldl (h : v.Packs before) (fs : List Bool) : (fs.foldl push v).Packs (before ++ fs) := by
  induction fs generalizing v before with
  | nil =>
    rw [List.append_nil]
    exact h
  | cons valid fs ih =>
    rw [List.foldl_cons, List.append_cons]
    exact ih (packs_push h valid)

theorem packs_ofList (fs : List Bool) : (ofList fs).Packs fs := packs_foldl packs_empty fs

theorem Packs.isValid (h : v.Packs fs) (row : Nat) : v.isValid row = fs.getD row false := by
  rw [isValid_eq, h.bit, h.length]
  rcases Nat.lt_or_ge row fs.length with hlt | hge
  · simp [hlt]
  · rw [List.getD_eq_default _ _ hge, Bool.and_false]

theorem Packs.flags (h : v.Packs fs) : v.flags = fs := by
  apply List.ext_getElem?
  intro i
  rw [Validity.flags, h.length, List.getElem?_map]
  rcases Nat.lt_or_ge i fs.length with hlt | hge
  · simp [hlt, h.isValid]
  · simp [hge]

/-- The bits past the flags fill up the last byte, and they are clear. -/
theorem Packs.padding (h : v.Packs fs) :
    v.padding = List.replicate (8 * bytesFor fs.length - fs.length) false := by
  apply List.eq_replicate_iff.mpr
  refine ⟨by rw [length_padding, h.size, h.length], ?_⟩
  intro bit hbit
  obtain ⟨i, hi⟩ := List.mem_iff_getElem?.mp hbit
  rw [getElem?_padding, h.bit, h.length, List.getD_eq_default _ _ (Nat.le_add_right _ _)] at hi
  split at hi
  · exact (Option.some.inj hi).symm
  · cases hi

/-! ### All that can be seen -/

/-- All that can be seen of a bitmap to which the given flags were appended. -/
structure Packed (v : Validity) (fs : List Bool) : Prop where
  /-- There is a row for each flag. -/
  length : v.length = fs.length
  /-- There are as many bytes as eighths of the rows, rounded up. -/
  size : v.bytes.size = (fs.length + 7) / 8
  /-- Every row reads as its flag. -/
  row : ∀ row (h : row < fs.length), v.isValid row = fs[row]
  /-- There is no row behind them. -/
  behind : ∀ row, fs.length ≤ row → v.isValid row = false
  /-- As many rows are NULL as flags are not set. -/
  nullCount : v.nullCount = fs.count false
  /-- All bits past the last row are clear. -/
  padding : ∀ bit ∈ v.padding, bit = false
  /-- No other bitmap of these rows has fewer than eight bits past the last one, all of them clear. -/
  canonical : ∀ w : Validity, w.flags = fs → w.padding.length < 8 → (∀ bit ∈ w.padding, bit = false) → w = v

/-- A bitmap is determined by its rows, if its padding is clear and less than a byte. -/
theorem Packs.eq (h : v.Packs fs) (hflags : w.flags = fs) (hfew : w.padding.length < 8)
    (hclear : ∀ bit ∈ w.padding, bit = false) : w = v := by
  obtain ⟨hlength, hrows⟩ := (flags_eq_iff w v).mp (hflags.trans h.flags.symm)
  refine (eq_iff_padding w v).mpr ⟨hlength, hrows, ?_⟩
  -- fewer than eight bits past the last row leave no choice of how many bytes there are
  have hsize : w.padding.length = 8 * bytesFor fs.length - fs.length := by
    have hcovers := w.length_le
    rw [hlength, h.length] at hcovers
    rw [length_padding, hlength, h.length] at hfew ⊢
    simp only [bytesFor]
    omega
  rw [h.padding, ← hsize]
  exact List.eq_replicate_of_mem hclear

theorem packed_of_packs (h : v.Packs fs) : v.Packed fs where
  length := h.length
  size := h.size
  row := by
    intro row hrow
    rw [h.isValid, List.getD_eq_getElem _ _ hrow]
  behind := by
    intro row hrow
    rw [h.isValid, List.getD_eq_default _ _ hrow]
  nullCount := by rw [nullCount_eq, h.flags]
  padding := by
    intro bit hbit
    rw [h.padding] at hbit
    exact List.eq_of_mem_replicate hbit
  canonical := fun _ => h.eq

/-- **Flags are packed without loss, and in one way only.** Flags are appended one by one to a bitmap without
rows, whatever room it was given. -/
theorem packed_of_pushes (room : Nat) (fs : List Bool) : (fs.foldl push (reserving room)).Packed fs :=
  packed_of_packs (packs_foldl packs_empty fs)

end Validity
end HashJoin
