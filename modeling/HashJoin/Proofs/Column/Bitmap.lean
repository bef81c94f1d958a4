import HashJoin.Validity

/-!
# Bits of a bitmap

Appending a row to a bitmap sets the bit of the row, or leaves it clear, and changes no other bit.
This needs the bits past the last row to be clear, as they are in every bitmap that was built row by
row.

## Main definitions

* `Validity.bit`, `Validity.Clear` — the bits, and bitmaps without bits past the last row.

## Main results

* `isValid_push` — the rows of a bitmap with one more row.
* `clear_push` — the bits past the last row stay clear.
-/

namespace HashJoin

theorem getD_modify {α : Type} (xs : Array α) (i j : Nat) (f : α → α) (default : α) :
    (xs.modify i f).getD j default =
      if i = j ∧ j < xs.size then f (xs.getD j default) else xs.getD j default := by
  by_cases hlt : j < xs.size
  · simp only [Array.getD_eq_getD_getElem?, Array.getElem?_modify, hlt, and_true]
    split <;> simp [hlt]
  · simp [Array.getD_eq_getD_getElem?, hlt]

theorem getD_push_default {α : Type} (xs : Array α) (i : Nat) (default : α) :
    (xs.push default).getD i default = xs.getD i default := by
  simp only [Array.getD_eq_getD_getElem?, Array.getElem?_push]
  split
  · next h => simp [h]
  · rfl

namespace Validity

variable {v : Validity} {row : Nat} {valid : Bool}

/-- The bit of a row, whether there is such a row or not. -/
def bit (v : Validity) (row : Nat) : Bool := (v.bytes.getD (row / 8) 0).toNat.testBit (row % 8)

/-- The bits past the last row are clear. -/
def Clear (v : Validity) : Prop := ∀ row, v.length ≤ row → v.bit row = false

theorem isValid_eq (v : Validity) (row : Nat) :
    v.isValid row = (decide (row < v.length) && v.bit row) := by
  unfold isValid bit
  split
  · next h =>
    have hbyte : row / 8 < v.bytes.size := by
      have := v.covers
      omega
    simp [h, Array.getD, hbyte]
  · next h => simp [h]

theorem testBit_bitOf (row i : Nat) : (bitOf row).toNat.testBit i = decide (row % 8 = i) := by
  have hrow : row % 8 < 8 := Nat.mod_lt _ (by decide)
  have hpow : 2 ^ (row % 8) < 256 := Nat.pow_lt_pow_of_lt (by decide) hrow
  rw [bitOf, UInt8.toNat_ofNat_of_lt' (by simpa [Nat.shiftLeft_eq] using hpow),
    Nat.shiftLeft_eq, Nat.one_mul, Nat.testBit_two_pow]

/-- The bits of a bitmap with one more row. -/
theorem bit_push (v : Validity) (valid : Bool) (row : Nat) :
    (v.push valid).bit row = (v.bit row || (valid && decide (row = v.length))) := by
  obtain ⟨bytes, length, covers⟩ := v
  -- a new byte is clear, so that it reads like no byte
  have hgrown : (if length / 8 = bytes.size then bytes.push 0 else bytes).getD (row / 8) 0 =
      bytes.getD (row / 8) 0 := by
    split
    · exact getD_push_default bytes (row / 8) 0
    · rfl
  cases valid with
  | false =>
    simp only [push, bit, Bool.false_and, Bool.or_false, Bool.false_eq_true, if_false, hgrown]
  | true =>
    have hsize : length / 8 < (if length / 8 = bytes.size then bytes.push 0 else bytes).size := by
      split
      · rw [Array.size_push]
        omega
      · omega
    simp only [push, bit, Bool.true_and, if_true, getD_modify, hgrown]
    by_cases hbyte : length / 8 = row / 8
    · rw [if_pos ⟨hbyte, by rw [← hbyte]; exact hsize⟩, UInt8.toNat_or, Nat.testBit_or,
        testBit_bitOf]
      have : length % 8 = row % 8 ↔ row = length := by omega
      simp only [this]
    · have hne : row ≠ length := fun h => hbyte (by rw [h])
      rw [if_neg fun h => hbyte h.1, decide_eq_false hne, Bool.or_false]

theorem clear_empty : empty.Clear := by
  intro row _
  simp [bit, empty]

/-- The bits past the last row stay clear. -/
theorem clear_push (h : v.Clear) (valid : Bool) : (v.push valid).Clear := by
  intro row hrow
  rw [length_push] at hrow
  have hne : row ≠ v.length := Nat.ne_of_gt hrow
  rw [bit_push, h row (Nat.le_of_lt hrow), decide_eq_false hne, Bool.and_false, Bool.or_false]

/-- The rows of a bitmap with one more row. -/
theorem isValid_push (h : v.Clear) (valid : Bool) (row : Nat) :
    (v.push valid).isValid row = if row = v.length then valid else v.isValid row := by
  rw [isValid_eq, isValid_eq, length_push, bit_push]
  split
  · next heq =>
    rw [heq, h v.length (Nat.le_refl _)]
    simp
  · next hne =>
    have : row < v.length + 1 ↔ row < v.length := by omega
    simp [hne, this]

end Validity
end HashJoin
