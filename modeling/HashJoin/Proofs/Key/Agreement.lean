import HashJoin.Proofs.Column.Stored
import HashJoin.Proofs.Key.Faults

/-!
# What equal keys say

The resolved keys compare normalised cells. Said of the cells as they are stored, two rows have equal
keys if for every condition their cells hold the same integer, the same number or the same bytes,
whatever the widths, or are both NULL where the condition matches NULLs. Rows with equal keys are found
by the index: the probe row has a key that can match, and both rows have one hash.

## Main definitions

* `Binary.SameNumber` — equality of numbers in which all NaNs are one.
* `StoredCell.SameValue`, `StoredCell.AgreeUnder` — when stored cells match.
* `Condition.Agrees` — when two rows match under a condition.

## Main results

* `canonical_eq_iff` — numbers have one canonical form just if they are the same.
* `keysEqual_iff_agrees` — **what equal keys say, and that the index finds them.**
-/

namespace HashJoin

attribute [local instance] decideBytes

/-! ### Numbers -/

namespace Binary

variable {w : FloatWidth} {x y : Binary w}

/-- Both are NaNs, or they are equal as numbers: then zeros of either sign are the same. -/
def SameNumber (x y : Binary w) : Prop := x.isNaN = true ∧ y.isNaN = true ∨ x.eq y = true

theorem isNaN_nan : (nan : Binary w).isNaN = true := by
  cases w <;> decide +kernel

theorem isNaN_zero : (zero : Binary w).isNaN = false := by
  cases w <;> decide +kernel

theorem magnitude_zero : (zero : Binary w).magnitude = 0 := by
  cases w <;> decide +kernel

/-- A pattern is its sign and its magnitude. -/
theorem eq_of_parts (hsign : x.isNegative = y.isNegative) (hmagnitude : x.magnitude = y.magnitude) :
    x = y := by
  obtain ⟨a⟩ := x
  obtain ⟨b⟩ := y
  congr 1
  apply BitVec.eq_of_toNat_eq
  simp only [isNegative, BitVec.msb_eq_decide, decide_eq_decide] at hsign
  simp only [magnitude, Nat.shiftLeft_eq, Nat.one_mul] at hmagnitude
  have ha := a.isLt
  have hb := b.isLt
  have htwice : 2 ^ w.size = 2 * 2 ^ (w.size - 1) := by cases w <;> rfl
  generalize 2 ^ (w.size - 1) = half at *
  rw [htwice] at ha hb
  by_cases hle : half ≤ a.toNat
  · have hle' := hsign.mp hle
    rw [Nat.mod_eq_sub_mod hle, Nat.mod_eq_sub_mod hle', Nat.mod_eq_of_lt (by omega),
      Nat.mod_eq_of_lt (by omega)] at hmagnitude
    omega
  · have hlt' : ¬half ≤ b.toNat := fun h => hle (hsign.mpr h)
    rwa [Nat.mod_eq_of_lt (by omega), Nat.mod_eq_of_lt (by omega)] at hmagnitude

theorem rank_eq_zero_iff : x.rank = 0 ↔ x.magnitude = 0 := by
  unfold rank
  split <;> omega

/-- Two numbers at one place of the line, but for zero, are one. -/
theorem eq_of_rank_eq (h : x.rank = y.rank) (hx : x.magnitude ≠ 0) : x = y := by
  unfold rank at h
  cases hsign : x.isNegative <;> cases hsign' : y.isNegative <;>
    simp only [hsign, hsign', if_true, if_false, Bool.false_eq_true] at h
  · exact eq_of_parts (hsign.trans hsign'.symm) (by omega)
  · omega
  · omega
  · exact eq_of_parts (hsign.trans hsign'.symm) (by omega)

/-- The canonical form of a NaN is a NaN, and that of a number is a number. -/
theorem isNaN_canonical (x : Binary w) : x.canonical.isNaN = x.isNaN := by
  cases hx : x.isNaN with
  | true => rw [canonical, if_pos hx, isNaN_nan]
  | false =>
    rw [canonical, hx, if_neg Bool.false_ne_true]
    split
    · exact isNaN_zero
    · exact hx

/-- The canonical form of a number is at its place of the line. -/
theorem rank_canonical (hx : x.isNaN = false) : x.canonical.rank = x.rank := by
  rw [canonical, hx, if_neg Bool.false_ne_true]
  split
  · next hzero => rw [rank_eq_zero_iff.mpr hzero, rank_eq_zero_iff.mpr magnitude_zero]
  · rfl

/-- Numbers have one canonical form just if they are the same. -/
theorem canonical_eq_iff : x.canonical = y.canonical ↔ x.SameNumber y := by
  constructor
  · intro h
    have hnan : x.isNaN = y.isNaN := by rw [← isNaN_canonical x, h, isNaN_canonical]
    cases hy : y.isNaN with
    | true => exact .inl ⟨hnan.trans hy, hy⟩
    | false =>
      have hrank : x.rank = y.rank := by
        rw [← rank_canonical (hnan.trans hy), h, rank_canonical hy]
      exact .inr (by simp [eq, hnan, hy, hrank])
  · rintro (⟨hx, hy⟩ | h)
    · rw [canonical, if_pos hx, canonical, if_pos hy]
    · simp only [eq, Bool.and_eq_true, Bool.not_eq_true', beq_iff_eq] at h
      obtain ⟨⟨hx, hy⟩, hrank⟩ := h
      by_cases hzero : x.magnitude = 0
      -- zeros of either sign come to the same zero
      · have hzero' : y.magnitude = 0 := by
          rw [← rank_eq_zero_iff, ← hrank, rank_eq_zero_iff, hzero]
        rw [canonical, canonical, hx, hy, if_pos hzero, if_pos hzero']
      · rw [eq_of_rank_eq hrank hzero]

end Binary

/-! ### Stored cells -/

/-- Key cells match if they are equal and present, or both NULL where NULLs match. -/
theorem KeyCell.equalUnder_iff {comparator : Comparator} {a b : KeyCell} :
    a.equalUnder comparator b = true ↔
      a = b ∧ a ≠ .null ∨ a = .null ∧ b = .null ∧ comparator = .notDistinct := by
  have hkind : comparator.nullsEqual = true ↔ comparator = .notDistinct := by
    cases comparator <;> decide
  cases a <;> cases b <;> simp [equalUnder, hkind]

namespace StoredCell

/-- The number of a stored float, as one of the 64-bit format. -/
def number? : StoredCell → Option Binary64
  | single x => some x.convert
  | double x => some x
  | null | integer _ | bytes .. | record _ => none

/-- Two stored cells hold the same value, whatever the widths: the same integer, the same number in the
64-bit format, or the same bytes. -/
inductive SameValue : StoredCell → StoredCell → Prop
  /-- Integers are compared as such. -/
  | integers (i : Int) : SameValue (integer i) (integer i)
  /-- Floats are compared in the longer format. -/
  | floats {a b : StoredCell} {x y : Binary64} (ha : a.number? = some x) (hb : b.number? = some y)
      (h : x.SameNumber y) : SameValue a b
  /-- Texts and byte sequences are compared byte by byte. -/
  | bytes (kind kind' : BytesKind) (data : ByteArray) : SameValue (bytes kind data) (bytes kind' data)

/-- Two stored cells match: they are present with the same value, or both NULL where NULLs match. -/
def AgreeUnder (comparator : Comparator) (a b : StoredCell) : Prop :=
  a.SameValue b ∨ a = null ∧ b = null ∧ comparator = .notDistinct

/-- The key cell of a stored cell. -/
def keyCell : StoredCell → KeyCell
  | null | record _ => .null
  | integer i => .integer i
  | single x => .float x.convert.canonical
  | double x => .float x.canonical
  | bytes _ data => .bytes data

/-- Whether a record is stored. -/
def isRecord : StoredCell → Bool
  | record _ => true
  | null | integer _ | single _ | double _ | bytes .. => false

theorem keyCell_of_number? {a : StoredCell} {x : Binary64} (h : a.number? = some x) :
    a.keyCell = .float x.canonical := by
  cases a <;> cases h <;> rfl

theorem keyCell_eq_of_sameValue {a b : StoredCell} (h : a.SameValue b) :
    a.keyCell = b.keyCell ∧ a.keyCell ≠ .null := by
  cases h with
  | integers i => exact ⟨rfl, nofun⟩
  | floats ha hb h =>
    rw [keyCell_of_number? ha, keyCell_of_number? hb, Binary.canonical_eq_iff.mpr h]
    exact ⟨rfl, nofun⟩
  | bytes kind kind' data => exact ⟨rfl, nofun⟩

theorem number?_of_keyCell {a : StoredCell} {z : Binary64} (h : a.keyCell = .float z) :
    ∃ x, a.number? = some x ∧ x.canonical = z := by
  cases a with
  | single x => exact ⟨_, rfl, KeyCell.float.inj h⟩
  | double x => exact ⟨_, rfl, KeyCell.float.inj h⟩
  | null | integer _ | bytes _ _ | record _ => cases h

theorem eq_bytes_of_keyCell {a : StoredCell} {data : ByteArray} (h : a.keyCell = .bytes data) :
    ∃ kind, a = .bytes kind data := by
  cases a with
  | bytes kind data' =>
    cases h
    exact ⟨kind, rfl⟩
  | null | integer _ | single _ | double _ | record _ => cases h

theorem eq_integer_of_keyCell {a : StoredCell} {i : Int} (h : a.keyCell = .integer i) :
    a = .integer i := by
  cases a with
  | integer j => rw [KeyCell.integer.inj h]
  | null | single _ | double _ | bytes _ _ | record _ => cases h

theorem eq_null_of_keyCell {a : StoredCell} (h : a.keyCell = .null) (hrecord : a.isRecord = false) :
    a = .null := by
  cases a with
  | null => rfl
  | record fields => cases hrecord
  | integer _ | single _ | double _ | bytes _ _ => cases h

/-- Cells hold the same value just if they have one key cell, which is not NULL. -/
theorem sameValue_iff {a b : StoredCell} :
    a.SameValue b ↔ a.keyCell = b.keyCell ∧ a.keyCell ≠ .null := by
  refine ⟨keyCell_eq_of_sameValue, ?_⟩
  rintro ⟨h, hnull⟩
  cases ha : a.keyCell with
  | null => exact absurd ha hnull
  | integer i =>
    rw [eq_integer_of_keyCell ha, eq_integer_of_keyCell (h.symm.trans ha)]
    exact .integers i
  | float z =>
    obtain ⟨x, hx, hcanonical⟩ := number?_of_keyCell ha
    obtain ⟨y, hy, hcanonical'⟩ := number?_of_keyCell (h.symm.trans ha)
    exact .floats hx hy (Binary.canonical_eq_iff.mp (hcanonical.trans hcanonical'.symm))
  | bytes data =>
    obtain ⟨kind, rfl⟩ := eq_bytes_of_keyCell ha
    obtain ⟨kind', rfl⟩ := eq_bytes_of_keyCell (h.symm.trans ha)
    exact .bytes kind kind' data

/-- Cells other than records match just if their key cells do. -/
theorem agreeUnder_iff {comparator : Comparator} {a b : StoredCell} (ha : a.isRecord = false)
    (hb : b.isRecord = false) :
    a.AgreeUnder comparator b ↔ a.keyCell.equalUnder comparator b.keyCell = true := by
  rw [AgreeUnder, sameValue_iff, KeyCell.equalUnder_iff]
  refine or_congr Iff.rfl ?_
  constructor
  · rintro ⟨rfl, rfl, hkind⟩
    exact ⟨rfl, rfl, hkind⟩
  · rintro ⟨hnull, hnull', hkind⟩
    exact ⟨eq_null_of_keyCell hnull ha, eq_null_of_keyCell hnull' hb, hkind⟩

end StoredCell

/-! ### Columns -/

namespace Cells

theorem keyAt_eq (cells : Cells) (row : Nat) : cells.keyAt row = (cells.storedAt row).keyCell := by
  cases cells <;> rfl

theorem isRecord_storedAt (cells : Cells) (row : Nat) : (cells.storedAt row).isRecord = false := by
  cases cells <;> rfl

end Cells

namespace Column

/-- The key cell of a row is that of the cell that is stored. -/
theorem keyAt_eq (c : Column) (row : Nat) : c.keyAt row = (c.storedAt row).keyCell := by
  cases c with
  | fixed spec v buffer =>
    rw [storedAt, apply_ite StoredCell.keyCell, ← Cells.keyAt_eq]
    rfl
  | bytes spec v kind slices =>
    rw [storedAt, apply_ite StoredCell.keyCell]
    rfl
  | record spec v length children =>
    rw [storedAt, apply_ite StoredCell.keyCell]
    rfl

theorem isRecord_storedAt {c : Column} (h : c.holdsRecords = false) (row : Nat) :
    (c.storedAt row).isRecord = false := by
  cases c with
  | fixed spec v buffer =>
    rw [storedAt, apply_ite StoredCell.isRecord, Cells.isRecord_storedAt]
    exact ite_self false
  | bytes spec v kind slices =>
    rw [storedAt, apply_ite StoredCell.isRecord]
    exact ite_self false
  | record spec v length children => cases h

end Column

/-- The key cell in the column of a name is that of the cell that is stored there. -/
theorem Batch.keyCell_eq (b : Batch) (name : String) (row : Nat) :
    b.keyCell name row = ((b.storedCell? name row).map StoredCell.keyCell).getD .null := by
  have hindex : b.columns.findIdx? (fun c => c.spec.name == name) = b.schema.indexOf? name := by
    rw [Schema.indexOf?, Batch.schema, List.findIdx?_map]
    rfl
  rw [storedCell?, List.find?_eq_bind_findIdx?_getElem?, hindex, keyCell]
  cases b.schema.indexOf? name with
  | none => rfl
  | some index =>
    simp only [column?, Option.bind_some]
    cases b.columns[index]? with
    | none => rfl
    | some column => exact column.keyAt_eq row

/-! ### Rows -/

/-- The cells of two rows match in the columns that a condition names. -/
def Condition.Agrees (c : Condition) (p b : BatchRow) : Prop :=
  ∃ x y, p.1.storedCell? c.probe p.2 = some x ∧ b.1.storedCell? c.build b.2 = some y ∧
    x.AgreeUnder c.comparator y

namespace JoinKeys

variable {conditions : List Condition} {keys : JoinKeys} {p b : BatchRow}

theorem exists_of_mapM_eq_ok {α β ε : Type} {f : α → Except ε β} {as : List α} {bs : List β}
    (h : as.mapM f = .ok bs) : ∀ a ∈ as, ∃ b, f a = .ok b := by
  induction as generalizing bs with
  | nil => nofun
  | cons a as ih =>
    obtain ⟨b, rest, rfl, hb, hrest⟩ := mapM_cons_eq_ok h
    intro a' ha'
    rcases List.mem_cons.mp ha' with rfl | ha'
    · exact ⟨b, hb⟩
    · exact ih hrest a' ha'

/-- A column that keys can be resolved to holds no records. -/
theorem exists_storedCell {side : Side} {batch : Batch} {c : Condition} {key : KeyColumn}
    (htyped : batch.Typed) (h : resolveColumn side batch.schema c = .ok key) (row : Nat) :
    ∃ x, batch.storedCell? (c.columnOn side) row = some x ∧ x.isRecord = false := by
  have hfault : columnFault? side batch.schema c = none :=
    none_of_ok (fun _ => resolveColumn_eq_error_iff) h
  have hnamed : batch.schema.named? (c.columnOn side) =
      (batch.columns.find? fun column => column.spec.name == c.columnOn side).map Column.spec := by
    rw [Schema.named?, Batch.schema, List.find?_map]
    rfl
  rw [columnFault?, hnamed] at hfault
  rw [Batch.storedCell?]
  cases hfind : batch.columns.find? fun column => column.spec.name == c.columnOn side with
  | none =>
    rw [hfind] at hfault
    cases hfault
  | some column =>
    rw [hfind] at hfault
    refine ⟨_, rfl, Column.isRecord_storedAt ?_ row⟩
    rw [htyped column (List.mem_of_find?_eq_some hfind)]
    cases hrecord : column.spec.isRecord with
    | false => rfl
    | true => simp [hrecord] at hfault

/-- Rows match under a condition just if their cells do. -/
theorem holds_iff_agrees {c : Condition} {probeKey buildKey : KeyColumn} (hp : p.1.Typed)
    (hb : b.1.Typed) (hprobe : resolveColumn .probe p.1.schema c = .ok probeKey)
    (hbuild : resolveColumn .build b.1.schema c = .ok buildKey) :
    c.holds p b = true ↔ c.Agrees p b := by
  obtain ⟨x, hx, hscalar⟩ := exists_storedCell hp hprobe p.2
  obtain ⟨y, hy, hscalar'⟩ := exists_storedCell hb hbuild b.2
  change p.1.storedCell? c.probe p.2 = some x at hx
  change b.1.storedCell? c.build b.2 = some y at hy
  rw [Condition.holds, Batch.keyCell_eq, Batch.keyCell_eq, hx, hy]
  refine (StoredCell.agreeUnder_iff hscalar hscalar').symm.trans ?_
  constructor
  · intro hagree
    exact ⟨x, y, hx, hy, hagree⟩
  · rintro ⟨x', y', hx', hy', hagree⟩
    rw [hx] at hx'
    rw [hy] at hy'
    cases hx'
    cases hy'
    exact hagree

/-- **What equal keys say, and that the index finds them.** Take keys that conditions were resolved to
by two schemas, a probe row and a build row of batches of these schemas. They have equal keys just if
under every condition their cells hold the same value, or are both NULL where the condition matches NULLs.
If they have, the probe row has a key that can match, and both rows have one hash, whatever the digest:
passing over probe rows without such a key, and comparing rows of one hash only, loses no match. -/
theorem keysEqual_iff_agrees {buildSchema probeSchema : Schema}
    (hkeys : resolve conditions (some buildSchema) (some probeSchema) = .ok keys)
    (hprobe : p.1.schema = probeSchema) (hbuild : b.1.schema = buildSchema) (hp : p.1.Typed)
    (hb : b.1.Typed) :
    (keys.keysEqual p.1 p.2 b.1 b.2 = true ↔ ∀ c ∈ conditions, c.Agrees p b) ∧
      (keys.keysEqual p.1 p.2 b.1 b.2 = true → keys.canMatch p.1 p.2 = true ∧
        ∀ digest : DigestFn,
          rowHash digest keys.probe p.1 p.2 = rowHash digest keys.build b.1 b.2) := by
  rw [← hprobe, ← hbuild] at hkeys
  rw [keysEqual_eq hkeys]
  obtain ⟨hbuildKeys, hprobeKeys, -⟩ := resolve_eq_ok hkeys
  refine ⟨?_, ?_⟩
  · rw [rowsMatch, List.all_eq_true]
    refine forall₂_congr fun c hc => ?_
    obtain ⟨buildKey, hbuildKey⟩ := exists_of_mapM_eq_ok hbuildKeys c hc
    obtain ⟨probeKey, hprobeKey⟩ := exists_of_mapM_eq_ok hprobeKeys c hc
    exact holds_iff_agrees hp hb hprobeKey hbuildKey
  · intro hmatch
    exact ⟨canMatch_of_rowsMatch hkeys hmatch, fun digest => rowHash_of_rowsMatch digest hkeys hmatch⟩

/-- A byte and a 64-bit integer, zeros of either sign in either format, and two NULLs under a condition
that matches them. -/
theorem keysEqual_iff_agrees_mixed :
    let integer (name : String) (width : IntWidth) : Column :=
      .fixed (.scalar name (.int width) true) (.ofList [true]) ⟨.ints width #[5], 32⟩
    let missing (name : String) : Column :=
      .bytes (.scalar name .text true) (.ofList [false]) .text ⟨#[0, 0], .empty⟩
    let negative : Column := .fixed (.scalar "x" (.float .single) true) (.ofList [true])
      ⟨.singles #[.ofMagnitude true 0], 32⟩
    let positive : Column := .fixed (.scalar "y" (.float .double) true) (.ofList [true])
      ⟨.doubles #[.zero], 32⟩
    let p : BatchRow := (⟨1, 1, [integer "i" .bits8, negative, missing "n"], none⟩, 0)
    let b : BatchRow := (⟨1, 1, [missing "m", positive, integer "j" .bits64], none⟩, 0)
    let conditions : List Condition :=
      [⟨"i", "j", .equals⟩, ⟨"x", "y", .equals⟩, ⟨"n", "m", .notDistinct⟩]
    ∃ keys, resolve conditions (some b.1.schema) (some p.1.schema) = .ok keys ∧
      (∀ c ∈ conditions, c.Agrees p b) ∧ keys.canMatch p.1 p.2 = true ∧
      ∀ digest : DigestFn, rowHash digest keys.probe p.1 p.2 = rowHash digest keys.build b.1 b.2 := by
  intro integer missing negative positive p b conditions
  have hkeys : resolve conditions (some b.1.schema) (some p.1.schema) =
      .ok ⟨[.equals, .equals, .notDistinct], [⟨2, .integer⟩, ⟨1, .float⟩, ⟨0, .text⟩],
        [⟨0, .integer⟩, ⟨1, .float⟩, ⟨2, .text⟩]⟩ := rfl
  have hp : p.1.Typed := by
    intro c hc
    simp only [p, List.mem_cons, List.not_mem_nil, or_false] at hc
    rcases hc with rfl | rfl | rfl <;> rfl
  have hb : b.1.Typed := by
    intro c hc
    simp only [b, List.mem_cons, List.not_mem_nil, or_false] at hc
    rcases hc with rfl | rfl | rfl <;> rfl
  obtain ⟨hsay, hfound⟩ := keysEqual_iff_agrees hkeys rfl rfl hp hb
  have hequal : keysEqual ⟨[.equals, .equals, .notDistinct], [⟨2, .integer⟩, ⟨1, .float⟩, ⟨0, .text⟩],
      [⟨0, .integer⟩, ⟨1, .float⟩, ⟨2, .text⟩]⟩ p.1 p.2 b.1 b.2 = true := by decide +kernel
  exact ⟨_, hkeys, hsay.mp hequal, hfound hequal⟩

end JoinKeys
end HashJoin
