import HashJoin.Proofs.Column.Bitmap
import HashJoin.Proofs.MatchLedger.Linking

/-!
# Marks

A mark sets the bit of one slot, and the search for a slot without one finds the first. Probing
changes a ledger by marks alone: it adds no slots, and it reserves and gives back nothing.

## Main definitions

* `MatchLedger.bit` — the bit of a slot, also of one that is not linked yet.
* `MatchLedger.Covered`, `MatchLedger.Fresh` — every slot has a bit, and no bit is set.
* `MatchLedger.Marked` — one ledger is another with some slots marked.

## Main results

* `bit_mark`, `isMatched_mark` — the bits and the marks after one more.
* `nextUnmatched?_eq_some`, `nextUnmatched?_eq_none` — what the search finds.
* `Marked.reservedBytes_eq`, `Marked.links_eq`, `Marked.covered` — marks leave the bytes and the rows
  alone, and every slot keeps its bit.
-/

namespace HashJoin
namespace MatchLedger

/-! ### Bits -/

variable {l : MatchLedger}

/-- The bit of a slot. Bits past the last word are clear. -/
def bit (l : MatchLedger) (slot : Nat) : Bool :=
  (l.words.getD (slot / wordBits) 0).toNat.testBit (slot % wordBits)

theorem isMatched_eq (l : MatchLedger) (slot : Nat) :
    l.isMatched slot = (decide (slot < l.length) && l.bit slot) := rfl

/-- Every slot has a bit. -/
def Covered (l : MatchLedger) : Prop := l.length ≤ l.words.size * wordBits

/-- Every slot has a bit, and none is set. -/
structure Fresh (l : MatchLedger) : Prop where
  /-- Every slot has a bit. -/
  covered : l.Covered
  /-- No bit is set. -/
  clear : ∀ i, l.words.getD i 0 = 0

theorem fresh_empty : empty.Fresh := ⟨Nat.le_refl 0, fun i => by simp [empty]⟩

theorem words_append (l : MatchLedger) (ref : RowRef) : (l.append ref).words =
    if l.words.size * wordBits < l.length + 1 then l.words.push 0 else l.words := rfl

theorem covered_append (h : l.Covered) (ref : RowRef) : (l.append ref).Covered := by
  unfold Covered at h
  rw [Covered, length_append, words_append]
  split
  · rw [Array.size_push, Nat.add_mul]
    simp only [wordBits] at *
    omega
  · omega

theorem getD_words_append (l : MatchLedger) (ref : RowRef) (i : Nat) :
    (l.append ref).words.getD i 0 = l.words.getD i 0 := by
  rw [words_append]
  split
  · exact getD_push_default ..
  · rfl

theorem fresh_append (h : l.Fresh) (ref : RowRef) : (l.append ref).Fresh := by
  refine ⟨covered_append h.covered ref, fun i => ?_⟩
  rw [getD_words_append]
  exact h.clear i

theorem isMatched_of_fresh (h : l.Fresh) (slot : Nat) : l.isMatched slot = false := by
  rw [isMatched, h.clear]
  simp

theorem testBit_bitOf (slot i : Nat) : (bitOf slot).toNat.testBit i = decide (slot % 64 = i) := by
  have hslot : slot % 64 < 64 := Nat.mod_lt _ (by decide)
  have hpow : 2 ^ (slot % 64) < 2 ^ 64 := Nat.pow_lt_pow_of_lt (by decide) hslot
  rw [bitOf, wordBits, UInt64.toNat_ofNat_of_lt' (by simpa [Nat.shiftLeft_eq] using hpow),
    Nat.shiftLeft_eq, Nat.one_mul, Nat.testBit_two_pow]

/-- A slot that can be marked and is not. -/
theorem words_mark {slot : Nat} (hslot : slot < l.length) (hfree : l.isMatched slot = false) :
    (l.mark slot).2.words = l.words.modify (slot / wordBits) (· ||| bitOf slot) := by
  unfold mark
  rw [hfree, decide_eq_true hslot, Bool.not_false, Bool.and_true, if_pos rfl]

theorem mark_of_isMatched {slot : Nat} (h : l.isMatched slot = true) : (l.mark slot).2 = l := by
  unfold mark
  rw [h, Bool.not_true, Bool.and_false, if_neg Bool.false_ne_true]

@[simp] theorem size_words_mark (l : MatchLedger) (slot : Nat) :
    (l.mark slot).2.words.size = l.words.size := by
  unfold mark
  split
  · exact Array.size_modify ..
  · rfl

theorem covered_mark (h : l.Covered) (slot : Nat) : (l.mark slot).2.Covered := by
  rw [Covered, length, links_mark, size_words_mark]
  exact h

/-- A mark sets the bit of its slot and no other. -/
theorem bit_mark (h : l.Covered) {slot : Nat} (hslot : slot < l.length) (other : Nat) :
    (l.mark slot).2.bit other = (l.bit other || decide (other = slot)) := by
  cases hdone : l.isMatched slot with
  | true =>
    rw [mark_of_isMatched hdone]
    by_cases heq : other = slot
    · rw [isMatched_eq, decide_eq_true hslot, Bool.true_and] at hdone
      rw [heq, hdone, Bool.true_or]
    · rw [decide_eq_false heq, Bool.or_false]
  | false =>
    -- the word of the slot is there, and takes one bit more
    have hword : slot / wordBits < l.words.size := by
      unfold Covered at h
      simp only [wordBits] at *
      omega
    rw [bit, bit, words_mark hslot hdone, getD_modify]
    by_cases heq : other = slot
    · rw [heq, if_pos ⟨rfl, hword⟩, UInt64.toNat_or, Nat.testBit_or, testBit_bitOf]
      simp [wordBits]
    · rw [decide_eq_false heq, Bool.or_false]
      split
      -- another slot of the same word has another bit
      · next hsame =>
        have hbit : slot % 64 ≠ other % 64 := by
          have := hsame.1
          simp only [wordBits] at this
          omega
        rw [UInt64.toNat_or, Nat.testBit_or, testBit_bitOf, wordBits, decide_eq_false hbit,
          Bool.or_false]
      · rfl

/-- The marks after one more. -/
theorem isMatched_mark (h : l.Covered) {slot : Nat} (hslot : slot < l.length) (other : Nat) :
    (l.mark slot).2.isMatched other = (l.isMatched other || decide (other = slot)) := by
  rw [isMatched_eq, isMatched_eq, bit_mark h hslot, length, length, links_mark]
  by_cases heq : other = slot
  · have hslot : slot < l.links.size := hslot
    simp [heq, hslot]
  · simp [heq]

/-! ### The search -/

/-- A bit of the rest of a word is the other way round than the mark of its slot. -/
theorem isMatched_add {slot i : Nat} (hi : slot % wordBits + i < wordBits)
    (hlt : slot + i < l.length) : l.isMatched (slot + i) = !(l.freeBits slot).getLsbD i := by
  have hword : (slot + i) / wordBits = slot / wordBits := by
    simp only [wordBits] at *
    omega
  have hbit : (slot + i) % wordBits = slot % wordBits + i := by
    simp only [wordBits] at *
    omega
  have hin : slot % wordBits + i < 64 := hi
  rw [isMatched, decide_eq_true hlt, Bool.true_and, hword, hbit, freeBits,
    BitVec.getLsbD_ushiftRight, BitVec.getLsbD_not, decide_eq_true hin, Bool.true_and, Bool.not_not]
  rfl

/-- A bit of the rest of a word that is set lies within the word. -/
theorem lt_wordBits_of_freeBits {slot i : Nat} (h : (l.freeBits slot).getLsbD i = true) :
    slot % wordBits + i < wordBits := by
  rw [freeBits, BitVec.getLsbD_ushiftRight, BitVec.getLsbD_not, Bool.and_eq_true] at h
  exact of_decide_eq_true h.1

/-- If the rest of a word is zero, its slots are marked. -/
theorem isMatched_of_freeBits_eq_zero {slot other : Nat} (h : l.freeBits slot = 0)
    (hle : slot ≤ other) (hlt : other < (slot / wordBits + 1) * wordBits)
    (hother : other < l.length) : l.isMatched other = true := by
  obtain ⟨i, rfl⟩ := Nat.exists_eq_add_of_le hle
  have hi : slot % wordBits + i < wordBits := by
    simp only [wordBits] at *
    omega
  rw [isMatched_add hi hother, h]
  exact congrArg not BitVec.getLsbD_zero

/-- The slots before the first that the rest of a word leaves free are marked. -/
theorem isMatched_of_lt_ctz {slot other : Nat} (h : l.freeBits slot ≠ 0) (hle : slot ≤ other)
    (hlt : other < slot + (l.freeBits slot).ctz.toNat) (hother : other < l.length) :
    l.isMatched other = true := by
  obtain ⟨i, rfl⟩ := Nat.exists_eq_add_of_le hle
  have hctz := Nat.lt_of_add_lt_add_left hlt
  have hin := lt_wordBits_of_freeBits (BitVec.getLsbD_true_ctz_of_ne_zero h)
  rw [isMatched_add (Nat.lt_trans (Nat.add_lt_add_left hctz _) hin) hother,
    BitVec.getLsbD_false_of_lt_ctz hctz, Bool.not_false]

/-- The search finds the first slot that is not marked. -/
theorem nextUnmatched?_eq_some {slot free : Nat} (h : l.nextUnmatched? slot = some free) :
    l.isMatched free = false ∧ ∀ other, slot ≤ other → other < free → l.isMatched other = true := by
  have hbounds := bounds_of_nextUnmatched? h
  fun_induction l.nextUnmatched? slot with
  | case1 slot _ hzero ih =>
    -- a word without a free slot is passed over, with all its slots from `slot` on
    obtain ⟨hfree, hbetween⟩ := ih h (bounds_of_nextUnmatched? h)
    refine ⟨hfree, ?_⟩
    intro other hle hother
    rcases Nat.lt_or_ge other ((slot / wordBits + 1) * wordBits) with hin | hout
    · exact isMatched_of_freeBits_eq_zero hzero hle hin (Nat.lt_trans hother hbounds.2)
    · exact hbetween other hout hother
  | case2 slot _ hzero candidate hin =>
    rw [← Option.some.inj h]
    have hbit := BitVec.getLsbD_true_ctz_of_ne_zero hzero
    refine ⟨?_, ?_⟩
    · rw [isMatched_add (lt_wordBits_of_freeBits hbit) hin, hbit, Bool.not_true]
    · intro other hle hother
      exact isMatched_of_lt_ctz hzero hle hother (Nat.lt_trans hother hin)
  | case3 => cases h
  | case4 => cases h

/-- The search finds nothing if all slots are marked. -/
theorem nextUnmatched?_eq_none {slot : Nat} (h : l.nextUnmatched? slot = none) :
    ∀ other, slot ≤ other → other < l.length → l.isMatched other = true := by
  fun_induction l.nextUnmatched? slot with
  | case1 slot _ hzero ih =>
    intro other hle hother
    rcases Nat.lt_or_ge other ((slot / wordBits + 1) * wordBits) with hin | hout
    · exact isMatched_of_freeBits_eq_zero hzero hle hin hother
    · exact ih h other hout hother
  | case2 => cases h
  | case3 slot _ hzero candidate hout =>
    -- the free slot of the last word lies past the end
    intro other hle hother
    exact isMatched_of_lt_ctz hzero hle (Nat.lt_of_lt_of_le hother (Nat.le_of_not_lt hout)) hother
  | case4 slot hge =>
    intro other hle hother
    omega

/-! ### Marked ledgers -/

/-- The ledger `m` is `l` after some marks. -/
inductive Marked (l : MatchLedger) : MatchLedger → Prop
  /-- After no marks. -/
  | refl : Marked l l
  /-- After one more mark. -/
  | mark {m : MatchLedger} (h : Marked l m) (slot : Nat) : Marked l (m.mark slot).2

namespace Marked

variable {m n : MatchLedger}

theorem trans (hlm : l.Marked m) (hmn : m.Marked n) : l.Marked n := by
  induction hmn with
  | refl => exact hlm
  | mark _ slot ih => exact ih.mark slot

theorem reservedBytes_eq (h : l.Marked m) : m.reservedBytes = l.reservedBytes := by
  induction h with
  | refl => rfl
  | mark _ slot ih => rw [reservedBytes_mark, ih]

theorem links_eq (h : l.Marked m) : m.links = l.links := by
  induction h with
  | refl => rfl
  | mark _ slot ih => rw [links_mark, ih]

theorem length_eq (h : l.Marked m) : m.length = l.length := congrArg Array.size h.links_eq

theorem covered (h : l.Marked m) (hcovered : l.Covered) : m.Covered := by
  induction h with
  | refl => exact hcovered
  | mark _ slot ih => exact covered_mark ih slot

end Marked

end MatchLedger
end HashJoin
