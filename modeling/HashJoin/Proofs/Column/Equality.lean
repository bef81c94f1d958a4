import HashJoin.Batch
import HashJoin.Proofs.Column.Packing
import Mathlib.Tactic.Tauto

/-!
# Equality and padding

A bitmap is made in one of three ways, and each leaves other bits past the last row: set ones, those that
were given, or clear ones. Bitmaps are equal iff they have the same rows and the same bits there; that two
bitmaps say the same of every row is not enough. Columns and batches are compared with the bitmaps that they
have at every depth, so the same holds of them, and nothing else of how a bitmap was made can be seen.

## Main definitions

* `Validity.Origin` — the ways to make a bitmap, with the bits that each leaves past the last row.
* `Column.repacked`, `Column.paddings` — a column with its bitmaps packed anew, and what is lost by that.

## Main results

* `Column.same_iff_repacked` — columns are equal iff they are so packed anew, and have the same paddings.
* `beq_iff_of_made` — **equality of bitmaps, by the ways in which they were made.**
* `allValid_ne_ofList` — bitmaps of one row, which has a value, that differ in how they were made.
-/

namespace HashJoin

/-! ### Bitmaps -/

namespace Validity

/-- A way to make a bitmap. -/
inductive Origin
  /-- All rows have a value. -/
  | full (rows : Nat)
  /-- The bytes are given, as many as are needed or more. -/
  | given (bytes : Array UInt8) (rows : Nat)
  /-- Flags are appended one by one, to a bitmap with room for some rows. -/
  | pushed (room : Nat) (flags : List Bool)

namespace Origin

/-- The bitmap, if there are enough bytes. -/
def make : Origin → Except FormatError Validity
  | .full rows => .ok (allValid rows)
  | .given bytes rows => ofBytes bytes rows
  | .pushed room flags => .ok (flags.foldl push (reserving room))

/-- The bits past the last row: those that fill up the last byte, and those of further bytes that were
given. -/
def padding : Origin → List Bool
  | .full rows => List.replicate (8 * bytesFor rows - rows) true
  | .given bytes rows => (bitsOf bytes).drop rows
  | .pushed _ flags => List.replicate (8 * bytesFor flags.length - flags.length) false

/-- What the last byte is filled up with, unless it is given. -/
def filling? : Origin → Option Bool
  | .full _ => some true
  | .given _ _ => none
  | .pushed _ _ => some false

end Origin

variable {v w : Validity} {o o' : Origin}

/-- All stored bits are set. -/
theorem bit_allValid {rows i : Nat} (h : i < 8 * bytesFor rows) : (allValid rows).bit i = true := by
  have hbyte : i / 8 < bytesFor rows := by omega
  have hone : ∀ k < 8, (0xFF : UInt8).toNat.testBit k = true := by decide
  simpa [bit, allValid, Array.getD, hbyte] using hone (i % 8) (Nat.mod_lt i (by decide))

theorem padding_allValid (rows : Nat) :
    (allValid rows).padding = List.replicate (8 * bytesFor rows - rows) true := by
  have hsize : (allValid rows).bytes.size = bytesFor rows := Array.size_replicate
  apply List.eq_replicate_iff.mpr
  refine ⟨by rw [length_padding, hsize]; rfl, ?_⟩
  intro bit hbit
  obtain ⟨i, hi⟩ := List.mem_iff_getElem?.mp hbit
  rw [getElem?_padding, hsize] at hi
  split at hi
  · next hlt =>
    rw [bit_allValid hlt] at hi
    exact (Option.some.inj hi).symm
  · cases hi

/-- A bitmap has the padding of the way in which it was made. -/
theorem padding_of_made (h : o.make = .ok v) : v.padding = o.padding := by
  cases o with
  | full rows =>
    cases h
    exact padding_allValid rows
  | given bytes rows =>
    simp only [Origin.make, ofBytes] at h
    split at h
    · cases h
      rfl
    · cases h
  | pushed room flags =>
    cases h
    exact (packs_foldl packs_empty flags).padding

/-- The padding is made of what the last byte is filled up with. -/
theorem padding_of_filling {filling : Bool} (h : o.make = .ok v) (hfilling : o.filling? = some filling) :
    v.padding = List.replicate (8 * bytesFor v.length - v.length) filling := by
  rw [padding_of_made h]
  cases o with
  | full rows =>
    cases h
    cases hfilling
    rfl
  | given bytes rows => cases hfilling
  | pushed room flags =>
    cases h
    cases hfilling
    have hlength := (packs_foldl packs_empty flags).length
    rw [Origin.padding, reserving_eq_empty, hlength, List.nil_append]

/-- Equality is equality of the bitmaps that are packed anew, and of the paddings. -/
theorem beq_iff_repacked (v w : Validity) :
    (v == w) = true ↔ (ofList v.flags == ofList w.flags) = true ∧ v.padding = w.padding := by
  have hpacked : ofList v.flags = ofList w.flags ↔ v.flags = w.flags := by
    refine ⟨?_, congrArg ofList⟩
    intro h
    rw [← (packs_ofList v.flags).flags, h, (packs_ofList w.flags).flags]
  rw [beq_iff_eq, beq_iff_eq, hpacked, flags_eq_iff, eq_iff_padding, and_assoc]

end Validity

/-! ### Columns and batches -/

namespace Column

mutual

/-- The column in which every bitmap is packed anew from the flags of its rows. -/
def repacked : Column → Column
  | fixed s v buffer => fixed s (.ofList v.flags) buffer
  | bytes s v kind slices => bytes s (.ofList v.flags) kind slices
  | record s v n children => record s (.ofList v.flags) n (repackedAll children)

/-- The same of all columns of a sequence. -/
def repackedAll : List Column → List Column
  | [] => []
  | c :: cs => repacked c :: repackedAll cs

end

mutual

/-- The bits past the last row of every bitmap, that of the column first and then those of its fields. -/
def paddings : Column → List (List Bool)
  | fixed _ v _ => [v.padding]
  | bytes _ v _ _ => [v.padding]
  | record _ v _ children => v.padding :: paddingsIn children

/-- The same of all columns of a sequence. -/
def paddingsIn : List Column → List (List Bool)
  | [] => []
  | c :: cs => paddings c ++ paddingsIn cs

end

mutual

/-- Columns that are equal packed anew have as many bitmaps. -/
theorem length_paddings : ∀ {c d : Column}, same c.repacked d.repacked = true →
    c.paddings.length = d.paddings.length
  | .fixed .., .fixed .., _ => rfl
  | .bytes .., .bytes .., _ => rfl
  | .record _ _ _ children, .record _ _ _ children', h => by
    simp only [repacked, same, Bool.and_eq_true] at h
    simp only [paddings, List.length_cons, length_paddingsIn h.2]
  | .fixed .., .bytes .., h => by simp [repacked, same] at h
  | .fixed .., .record .., h => by simp [repacked, same] at h
  | .bytes .., .fixed .., h => by simp [repacked, same] at h
  | .bytes .., .record .., h => by simp [repacked, same] at h
  | .record .., .fixed .., h => by simp [repacked, same] at h
  | .record .., .bytes .., h => by simp [repacked, same] at h

theorem length_paddingsIn : ∀ {cs ds : List Column}, sameAll (repackedAll cs) (repackedAll ds) = true →
    (paddingsIn cs).length = (paddingsIn ds).length
  | [], [], _ => rfl
  | c :: cs, d :: ds, h => by
    simp only [repackedAll, sameAll, Bool.and_eq_true] at h
    simp only [paddingsIn, List.length_append, length_paddings h.1, length_paddingsIn h.2]
  | [], _ :: _, h => by simp [repackedAll, sameAll] at h
  | _ :: _, [], h => by simp [repackedAll, sameAll] at h

end

mutual

/-- Columns are equal iff they are so packed anew, and have the same paddings. -/
theorem same_iff_repacked : ∀ c d : Column,
    same c d = true ↔ same c.repacked d.repacked = true ∧ c.paddings = d.paddings
  | .fixed s v buffer, .fixed s' v' buffer' => by
    simp only [same, repacked, paddings, Bool.and_eq_true, Validity.beq_iff_repacked v v',
      List.cons.injEq, and_true]
    tauto
  | .bytes s v kind slices, .bytes s' v' kind' slices' => by
    simp only [same, repacked, paddings, Bool.and_eq_true, Validity.beq_iff_repacked v v',
      List.cons.injEq, and_true]
    tauto
  | .record s v n children, .record s' v' n' children' => by
    simp only [same, repacked, paddings, Bool.and_eq_true, Validity.beq_iff_repacked v v',
      sameAll_iff_repacked children children', List.cons.injEq]
    tauto
  | .fixed .., .bytes .. => by simp [same, repacked]
  | .fixed .., .record .. => by simp [same, repacked]
  | .bytes .., .fixed .. => by simp [same, repacked]
  | .bytes .., .record .. => by simp [same, repacked]
  | .record .., .fixed .. => by simp [same, repacked]
  | .record .., .bytes .. => by simp [same, repacked]

theorem sameAll_iff_repacked : ∀ cs ds : List Column,
    sameAll cs ds = true ↔ sameAll (repackedAll cs) (repackedAll ds) = true ∧ paddingsIn cs = paddingsIn ds
  | [], [] => by simp [sameAll, repackedAll, paddingsIn]
  | c :: cs, d :: ds => by
    simp only [sameAll, repackedAll, paddingsIn, Bool.and_eq_true, same_iff_repacked c d,
      sameAll_iff_repacked cs ds]
    constructor
    · rintro ⟨⟨hfirst, hpadding⟩, hrest, hpaddings⟩
      exact ⟨⟨hfirst, hrest⟩, by rw [hpadding, hpaddings]⟩
    · rintro ⟨⟨hfirst, hrest⟩, happend⟩
      obtain ⟨hpadding, hpaddings⟩ := List.append_inj happend (length_paddings hfirst)
      exact ⟨⟨hfirst, hpadding⟩, hrest, hpaddings⟩
  | [], _ :: _ => by simp [sameAll, repackedAll]
  | _ :: _, [] => by simp [sameAll, repackedAll]

end

end Column

namespace Batch

/-- The batch in which every bitmap is packed anew. -/
def repacked (b : Batch) : Batch := { b with columns := Column.repackedAll b.columns }

/-- The bits past the last row of every bitmap of all columns. -/
def paddings (b : Batch) : List (List Bool) := Column.paddingsIn b.columns

/-- Batches are equal iff they are so packed anew, and have the same paddings. -/
theorem same_iff_repacked (a b : Batch) :
    same a b = true ↔ same a.repacked b.repacked = true ∧ a.paddings = b.paddings := by
  simp only [same, repacked, paddings, Bool.and_eq_true, Column.sameAll_iff_repacked a.columns b.columns]
  tauto

end Batch

/-! ### Ways to make a bitmap -/

namespace Validity

variable {v w : Validity} {o o' : Origin}

/-- **Equality of bitmaps, by the ways in which they were made.** Two bitmaps are equal iff they have as many
rows, the same of them have a value, and the two ways leave the same bits past the last row; where both fill
the last byte up with the same, the rows decide alone. Columns and batches are equal iff they are so with
every bitmap packed anew from its rows, and the bits past the last row are the same in every bitmap. -/
theorem beq_iff_of_made (hv : o.make = .ok v) (hw : o'.make = .ok w) :
    ((v == w) = true ↔ v.length = w.length ∧ (∀ row < v.length, v.isValid row = w.isValid row) ∧
      o.padding = o'.padding) ∧
    (∀ filling, o.filling? = some filling → o'.filling? = some filling → ((v == w) = true ↔
      v.length = w.length ∧ ∀ row < v.length, v.isValid row = w.isValid row)) ∧
    (∀ c d : Column, (c == d) = true ↔ (c.repacked == d.repacked) = true ∧ c.paddings = d.paddings) ∧
    ∀ a b : Batch, (a == b) = true ↔ (a.repacked == b.repacked) = true ∧ a.paddings = b.paddings := by
  refine ⟨?_, ?_, Column.same_iff_repacked, Batch.same_iff_repacked⟩
  · rw [beq_iff_eq, eq_iff_padding, padding_of_made hv, padding_of_made hw]
  · intro filling ho ho'
    rw [beq_iff_eq, eq_iff_padding]
    refine ⟨fun h => ⟨h.1, h.2.1⟩, ?_⟩
    rintro ⟨hlength, hrows⟩
    refine ⟨hlength, hrows, ?_⟩
    rw [padding_of_filling hv ho, padding_of_filling hw ho', hlength]

/-- Three rows of which the second is NULL, from flags and from bytes with surplus bits: the padding differs
in the last bit of the first byte, and there is a byte more. -/
theorem beq_iff_of_made_surplus :
    let o : Origin := .pushed 1 [true, false, true]
    let o' : Origin := .given #[0x85, 0x00] 3
    let v : Validity := ofList [true, false, true]
    let w : Validity := ⟨#[0x85, 0x00], 3, by decide⟩
    o.make = .ok v ∧ o'.make = .ok w ∧ v.flags = w.flags ∧
      o'.padding = [false, false, false, false, true] ++ List.replicate 8 false ∧ (v == w) = false := by
  intro o o' v w
  have hv : o.make = .ok v := rfl
  have hw : o'.make = .ok w := rfl
  have hpadding : o.padding ≠ o'.padding := by decide
  refine ⟨hv, hw, by decide, by decide, ?_⟩
  rw [Bool.eq_false_iff]
  intro h
  exact hpadding ((beq_iff_of_made hv hw).1.mp h).2.2

/-- **Bitmaps that say the same need not be equal.** One row that has a value: where all rows were said to
have one, the last byte is filled up with set bits, and where the flag was appended, with clear ones. So
columns of the same cells differ, and so do batches of them. -/
theorem allValid_ne_ofList :
    let a : Validity := .allValid 1
    let b : Validity := .ofList [true]
    let column (v : Validity) : Column := .fixed (.scalar "k" (.int .bits64) true) v ⟨.ints .bits64 #[7], 32⟩
    let batch (v : Validity) : Batch := ⟨1, 1, [column v], none⟩
    (Origin.full 1).make = .ok a ∧ (Origin.pushed 1 [true]).make = .ok b ∧ a.length = b.length ∧
      (∀ row, a.isValid row = b.isValid row) ∧ (a == b) = false ∧ (column a == column b) = false ∧
      (batch a == batch b) = false := by
  intro a b column batch
  refine ⟨rfl, rfl, rfl, ?_, by decide, by decide, by decide⟩
  intro row
  cases row with
  | zero => decide
  | succ row =>
    have hpast : ¬ row + 1 < 1 := by omega
    have ha : a.isValid (row + 1) = false := dif_neg hpast
    have hb : b.isValid (row + 1) = false := dif_neg hpast
    rw [ha, hb]

end Validity
end HashJoin
