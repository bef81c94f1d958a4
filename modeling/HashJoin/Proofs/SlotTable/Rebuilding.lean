import HashJoin.Proofs.SlotTable.Words
import Mathlib.Order.Bounds.Basic

/-!
# Tables by their hashes

The chains of a table are kept in two ways: an insertion links its slot behind the last one of a bucket, and
a doubling of the buckets links all slots anew. Both come to the same. A bucket starts at its least slot and
ends at its greatest, and every slot leads to the least later one of its bucket; this leaves no choice, so
that of the history of a table only the hashes and the number of buckets can be seen in its chains.

## Main definitions

* `Chains.bucket`, `Chains.Threads` — the slots of a bucket, and the chains that some hashes have.
* `SlotTable.Rebuilt` — a table with the chains that its hashes have in its number of buckets.

## Main results

* `threads_of_linked` — chains that are linked as the hashes say.
* `Threads.eq` — the hashes and the number of buckets determine the chains.
* `insertEach_of_ample` — a table that never has to grow takes all hashes.
* `rebuilt_of_insertEach` — **after any history, and behind any doublings, a table is rebuilt.**
-/

namespace HashJoin
namespace Chains

variable {c d : Chains} {hs : List UInt32}

/-! ### What the hashes say -/

/-- The slots whose hashes fall into a bucket. -/
def bucket (hs : List UInt32) (buckets b : Nat) : Set Nat :=
  {slot | ∃ hash, hs[slot]? = some hash ∧ bucketOf hash buckets = b}

/-- The chains are those of the given hashes. -/
structure Threads (c : Chains) (hs : List UInt32) : Prop where
  /-- The hashes of all slots. -/
  hashes : c.hashes = hs
  /-- Every bucket has a head and a tail. -/
  sizes : c.tails.size = c.heads.size
  /-- The head of a bucket is its least slot, and it has none if it has no slot. -/
  head : ∀ b < c.heads.size, ∀ slot,
    c.heads.getD b none = some slot ↔ IsLeast (bucket hs c.heads.size b) slot
  /-- The tail of a bucket is its greatest slot. -/
  tail : ∀ b < c.heads.size, ∀ slot,
    c.tails.getD b none = some slot ↔ IsGreatest (bucket hs c.heads.size b) slot
  /-- A slot leads to the least later one of its bucket. -/
  next : ∀ slot hash, hs[slot]? = some hash → ∀ later, c.link? slot = some later ↔
    IsLeast {other ∈ bucket hs c.heads.size (bucketOf hash c.heads.size) | slot < other} later

theorem find?_range_eq_some_iff_isLeast (p : Nat → Bool) (k i : Nat) :
    (List.range k).find? p = some i ↔ IsLeast {j | j < k ∧ p j = true} i := by
  rw [List.find?_range_eq_some, List.mem_range]
  constructor
  · rintro ⟨hp, hi, hmin⟩
    refine ⟨⟨hi, hp⟩, ?_⟩
    rintro j ⟨-, hj⟩
    apply Nat.le_of_not_lt
    intro hlt
    simpa [hj] using hmin j hlt
  · rintro ⟨⟨hi, hp⟩, hmin⟩
    refine ⟨hp, hi, ?_⟩
    intro j hlt
    cases hj : p j with
    | false => rfl
    | true => exact absurd (hmin ⟨Nat.lt_trans hlt hi, hj⟩) (Nat.not_le_of_lt hlt)

theorem getLast?_filter_range_eq_some_iff_isGreatest (p : Nat → Bool) (k i : Nat) :
    ((List.range k).filter p).getLast? = some i ↔ IsGreatest {j | j < k ∧ p j = true} i := by
  constructor
  · intro h
    obtain ⟨hi, hp, hmax⟩ := getLast?_filter_range h
    refine ⟨⟨hi, hp⟩, ?_⟩
    rintro j ⟨hj, hpj⟩
    exact hmax j hj hpj
  · intro h
    cases hlast : ((List.range k).filter p).getLast? with
    | none =>
      have hfree := not_of_getLast?_filter_range hlast i h.1.1
      rw [h.1.2] at hfree
      cases hfree
    | some last =>
      obtain ⟨hlt, hp, hmax⟩ := getLast?_filter_range hlast
      have hle : last ≤ i := h.2 ⟨hlt, hp⟩
      rw [Nat.le_antisymm hle (hmax i h.1.1 h.1.2)]

theorem mem_bucket_iff {buckets b slot : Nat} :
    slot ∈ bucket hs buckets b ↔ slot < hs.length ∧ fallsInto hs buckets b slot = true := by
  rw [fallsInto_iff]
  constructor
  · rintro ⟨hash, hget, hb⟩
    exact ⟨(List.getElem?_eq_some_iff.mp hget).1, hash, hget, hb⟩
  · rintro ⟨-, hmem⟩
    exact hmem

theorem bucket_eq (hs : List UInt32) (buckets b : Nat) :
    bucket hs buckets b = {slot | slot < hs.length ∧ fallsInto hs buckets b slot = true} :=
  Set.ext fun _ => mem_bucket_iff

/-- Chains that are linked as the hashes say are those of the hashes. -/
theorem threads_of_linked (h : Linked c hs hs.length) : c.Threads hs where
  hashes := h.hashes
  sizes := h.sizes
  head := by
    intro b hb slot
    rw [h.head b hb, find?_range_eq_some_iff_isLeast, bucket_eq]
  tail := by
    intro b hb slot
    rw [h.tail b hb, getLast?_filter_range_eq_some_iff_isGreatest, bucket_eq]
  next := by
    intro slot hash hget later
    have hslot : slot < hs.length := (List.getElem?_eq_some_iff.mp hget).1
    have hlater : {other ∈ bucket hs c.heads.size (bucketOf hash c.heads.size) | slot < other} =
        {j | j < hs.length ∧ (slot < j && fallsInto hs c.heads.size (bucketOf hash c.heads.size) j) = true} := by
      ext other
      simp only [Set.mem_ofPred_eq, mem_bucket_iff, Bool.and_eq_true, decide_eq_true_eq]
      tauto
    rw [h.next slot hslot _ (fallsInto_of_hash hget), find?_range_eq_some_iff_isLeast, hlater]

/-! ### Chains are their hashes and buckets -/

/-- Arrays of one size are equal if they read alike. -/
theorem eq_of_getD {α : Type} {xs ys : Array α} (default : α) (hsize : xs.size = ys.size)
    (h : ∀ i < xs.size, xs.getD i default = ys.getD i default) : xs = ys := by
  apply Array.ext hsize
  intro i hi hi'
  simpa [Array.getD, hi, hi'] using h i hi

/-- Entries are equal if their hashes and their links are. -/
theorem entries_eq (hhashes : c.hashes = d.hashes) (hlinks : ∀ i < c.entries.size, c.link? i = d.link? i) :
    c.entries = d.entries := by
  have hsize : c.entries.size = d.entries.size := by rw [← length_hashes, hhashes, length_hashes]
  apply Array.ext hsize
  intro i hi hi'
  have hhash := congrArg (·[i]?) hhashes
  have hlink := hlinks i hi
  simp only [getElem?_hashes, link?, Array.getElem?_eq_getElem hi, Array.getElem?_eq_getElem hi',
    Option.map_some, Option.bind_some, Option.some.injEq] at hhash hlink
  cases hentry : c.entries[i] with
  | mk hash next =>
    cases hother : d.entries[i] with
    | mk hash' next' =>
      rw [hentry, hother] at hhash hlink
      exact congrArg₂ Entry.mk hhash hlink

/-- The hashes and the number of buckets determine the chains. -/
theorem Threads.eq (hc : c.Threads hs) (hd : d.Threads hs) (hsize : c.heads.size = d.heads.size) : c = d := by
  have hheads : c.heads = d.heads := by
    refine eq_of_getD none hsize fun b hb => Option.ext fun slot => ?_
    rw [hc.head b hb, hd.head b (hsize ▸ hb), hsize]
  have htails : c.tails = d.tails := by
    refine eq_of_getD none (by rw [hc.sizes, hd.sizes, hsize]) fun b hb => Option.ext fun slot => ?_
    rw [hc.sizes] at hb
    rw [hc.tail b hb, hd.tail b (hsize ▸ hb), hsize]
  have hentries : c.entries = d.entries := by
    refine entries_eq (hc.hashes.trans hd.hashes.symm) fun i hi => Option.ext fun later => ?_
    rw [size_entries hc.hashes] at hi
    have hget : hs[i]? = some hs[i] := List.getElem?_eq_getElem hi
    rw [hc.next i _ hget, hd.next i _ hget, hsize]
  obtain ⟨heads, tails, entries⟩ := c
  obtain ⟨heads', tails', entries'⟩ := d
  obtain rfl : heads = heads' := hheads
  obtain rfl : tails = tails' := htails
  obtain rfl : entries = entries' := hentries
  rfl

end Chains

namespace SlotTable

open Chains

variable {t t' : SlotTable} {hs : List UInt32} {hash : UInt32} {budget left : Budget} {j : Nat}

/-! ### The size of a table after any history -/

/-- Doublings keep the size of a table, also those that go through before one is refused. -/
theorem sized_makeRoom (h : t.Sized j hs) (budget : Budget) :
    ∃ k, (t.makeRoom budget).2.1 = doubled^[k] t ∧ (doubled^[k] t).Sized (j + k) hs := by
  -- on the doublings that are granted
  fun_induction t.makeRoom budget generalizing j with
  | case1 => exact ⟨0, rfl, h⟩
  | case2 => exact ⟨0, rfl, h⟩
  | case3 t budget _ _ granted hres _ ih =>
    obtain ⟨k, hroom, hsized⟩ := ih (sized_doubled h hres)
    refine ⟨k + 1, hroom, ?_⟩
    rw [Function.iterate_succ_apply, ← Nat.add_assoc, Nat.add_right_comm]
    exact hsized
  | case4 => exact ⟨0, rfl, h⟩

/-- An insertion keeps the size of a table, whatever comes of it. -/
theorem sized_insert (h : t.Sized j hs) {result : Except TableError Nat}
    (hins : t.insert hash budget = (result, t', left)) :
    ∃ j', (∃ e, result = .error e ∧ t'.Sized j' hs) ∨ result = .ok hs.length ∧ t'.Sized j' (hs ++ [hash]) := by
  obtain ⟨k, hroom, hsized⟩ := sized_makeRoom h budget
  have hlength : (doubled^[k] t).length = t.length := by
    rw [length_of_holds hsized.holds, length_of_holds h.holds]
  rcases insert_cases hins with ⟨-, rfl, rfl, -⟩ | ⟨-, e, hmade, rfl⟩ |
    ⟨hslots, roomy, granted, hmade, e, hext, rfl⟩ | ⟨hslots, roomy, granted, hmade, ready, hext, rfl, rfl⟩
  · exact ⟨j, .inl ⟨_, rfl, h⟩⟩
  · rw [hmade] at hroom
    obtain rfl : t' = doubled^[k] t := hroom
    exact ⟨j + k, .inl ⟨e, rfl, hsized⟩⟩
  · rw [hmade] at hroom
    obtain rfl : roomy = doubled^[k] t := hroom
    exact ⟨j + k, .inl ⟨e, rfl, (sized_extendArena hsized (by rw [hlength]; exact hslots) hext).1⟩⟩
  · rw [hmade] at hroom
    obtain rfl : roomy = doubled^[k] t := hroom
    obtain ⟨hready, hsame⟩ := sized_extendArena hsized (by rw [hlength]; exact hslots) hext
    refine ⟨j + k, .inr ⟨by rw [length_of_holds h.holds], sized_append hready ?_ hash⟩⟩
    rw [hsame, hlength]
    exact hslots

/-- Any insertions keep it, and they add the hashes that were granted. -/
theorem sized_insertEach (h : t.Sized j hs) (calls : List (UInt32 × Budget)) :
    ∃ j', (t.insertEach calls).2.Sized j' (hs ++ (grants (t.insertEach calls).1).map Prod.fst) := by
  -- on the calls, for every table and the hashes that it holds
  induction calls generalizing t j hs with
  | nil => exact ⟨j, by rw [insertEach, grants, List.filterMap_nil, List.map_nil, List.append_nil]; exact h⟩
  | cons call calls ih =>
    obtain ⟨hash, budget⟩ := call
    rw [insertEach]
    rcases hins : t.insert hash budget with ⟨result, t', left⟩
    obtain ⟨j', ⟨e, rfl, hkept⟩ | ⟨rfl, hadded⟩⟩ := sized_insert h hins
    · exact ih hkept
    · obtain ⟨last, hsized⟩ := ih hadded
      rw [List.append_assoc] at hsized
      exact ⟨last, hsized⟩

/-! ### A fresh table -/

/-- What is no more than a word is granted, if nothing else is reserved. -/
theorem reserve_of_ample {bytes : Nat} (h : bytes ≤ wordMax) :
    ∃ granted, (Budget.ofLimit wordMax).reserve bytes = .ok granted := ⟨_, if_pos h⟩

/-- With a load factor that is no number there are never too many entries. -/
theorem exceeds_of_nan (h : t.loadFactor = .nan) (entries : Nat) : t.exceeds entries = false := by
  have hnan : (Binary.nan : Binary64).isNaN = true := by decide
  simp [exceeds, h, Binary.mul, Binary.lt, hnan]

/-- Such a table takes a hash as long as a slot and the memory for its entry are left. -/
theorem insert_of_ample (h : t.loadFactor = .nan) (hpos : 0 < t.buckets) (hslots : t.length < maxSlots)
    (hash : UInt32) : ∃ t' left, t.insert hash (.ofLimit wordMax) = (.ok t.length, t', left) ∧
      t'.loadFactor = .nan ∧ t'.buckets = t.buckets ∧ t'.resizes = t.resizes := by
  have hroom : t.makeRoom (.ofLimit wordMax) = (.ok (), t, .ofLimit wordMax) := by
    rw [makeRoom, dif_neg (Nat.ne_of_gt hpos), exceeds_of_nan h]
    rfl
  rcases hext : t.extendArena (.ofLimit wordMax) with ⟨extended, ready, left⟩
  obtain ⟨hchains, hload, hcount⟩ := frame_extendArena hext
  have hok : extended = .ok () := by
    rcases extendArena_cases hext with ⟨-, hok, -⟩ | ⟨hfull, -, -, refusal, hres, -⟩ | ⟨-, hok, -⟩
    · exact hok
    -- room for twice as many entries as there are slots takes less memory than there is
    · have hfits : entryBytes * max t.arenaCapacity minArenaStep ≤ wordMax := by
        simp only [entryBytes, minArenaStep, maxSlots, wordMax, UInt32.size, UInt64.size] at *
        omega
      obtain ⟨granted, hok⟩ := reserve_of_ample hfits
      rw [hok] at hres
      cases hres
    · exact hok
  subst hok
  refine ⟨ready.append hash, left, ?_, hload.trans h, ?_, hcount⟩
  · simp only [insert, if_neg (Nat.not_le_of_lt hslots), hroom, hext]
  · rw [buckets_append, buckets, hchains, buckets]

/-- A table that never has to grow takes all hashes, as long as there are slots. -/
theorem insertEach_of_ample (h : t.loadFactor = .nan) (hsized : t.Sized j hs) {more : List UInt32}
    (hfits : hs.length + more.length ≤ maxSlots) :
    let run := t.insertEach (more.map fun hash => (hash, .ofLimit wordMax))
    grants run.1 = more.zipIdx hs.length ∧ run.2.buckets = t.buckets ∧ run.2.resizes = t.resizes := by
  -- on the hashes that are still to come
  induction more generalizing t j hs with
  | nil => exact ⟨rfl, rfl, rfl⟩
  | cons hash more ih =>
    rw [List.length_cons] at hfits
    have hlength := length_of_holds hsized.holds
    obtain ⟨t', left, hins, hload, hbuckets, hcount⟩ :=
      insert_of_ample h hsized.holds.pos (by rw [hlength]; omega) hash
    obtain ⟨j', ⟨e, herr, -⟩ | ⟨-, hadded⟩⟩ := sized_insert hsized hins
    · cases herr
    · have hrest : (hs ++ [hash]).length + more.length ≤ maxSlots := by
        rw [List.length_append, List.length_singleton]
        omega
      obtain ⟨hslots, hsame, hresizes⟩ := ih hload hadded hrest
      rw [List.map_cons, insertEach, hins]
      refine ⟨?_, hsame.trans hbuckets, hresizes.trans hcount⟩
      rw [List.zipIdx_cons, ← List.length_singleton (a := hash), ← List.length_append, ← hslots, hlength]
      rfl

/-- Buckets whose bytes are a word are granted, if nothing else is reserved. -/
theorem reserveBuckets_of_ample {n : Nat} (h : bucketBytes * n ≤ wordMax) :
    ∃ granted, reserveBuckets n (.ofLimit wordMax) = .ok granted := by
  obtain ⟨granted, hres⟩ := reserve_of_ample h
  exact ⟨granted, by rw [reserveBuckets, if_pos h, hres]⟩

/-- A power of two is not rounded up. -/
theorem nextPowerOfTwo_of_le (h : j ≤ maxDoublings) : (max (1 <<< j) 1).nextPowerOfTwo = 1 <<< j := by
  have hall : ∀ j < 61, (max (1 <<< j) 1).nextPowerOfTwo = 1 <<< j := by decide +kernel
  exact hall j (Nat.lt_succ_of_le h)

/-- The table that is made with as many buckets as another one has. -/
theorem create_of_ample (h : t.Sized j hs) : ∃ left, create t.buckets .nan (.ofLimit wordMax) =
    .ok (⟨.empty t.buckets, .nan, 0, 0, bucketBytes * t.buckets⟩, left) := by
  have hpower : (max t.buckets 1).nextPowerOfTwo = t.buckets := by
    rw [h.buckets, nextPowerOfTwo_of_le h.le_max]
  have hbytes : bucketBytes * t.buckets ≤ wordMax := by
    have hbuckets := h.buckets_le
    simp only [bucketBytes, maxDoublings, wordMax, UInt64.size] at *
    omega
  obtain ⟨left, hres⟩ := reserveBuckets_of_ample hbytes
  refine ⟨left, ?_⟩
  rw [create, hpower, hres]
  rfl

/-! ### Rebuilt tables -/

/-- The table has the chains that the given hashes have in its number of buckets. -/
structure Rebuilt (t : SlotTable) (hs : List UInt32) : Prop where
  /-- The hashes say what the chains are. -/
  threads : t.chains.Threads hs
  /-- Every other table with these hashes and as many buckets has the same chains, whatever its history. -/
  history : ∀ {minBuckets : Nat} {loadFactor : Binary64} {budget left : Budget} {other : SlotTable},
    create minBuckets loadFactor budget = .ok (other, left) → ∀ calls : List (UInt32 × Budget),
      (grants (other.insertEach calls).1).map Prod.fst = hs → (other.insertEach calls).2.buckets = t.buckets →
        (other.insertEach calls).2.chains = t.chains
  /-- There is such a table that was made with so many buckets, and took the hashes without a doubling. -/
  fresh : ∃ loadFactor other left, create t.buckets loadFactor (.ofLimit wordMax) = .ok (other, left) ∧
    other.buckets = t.buckets ∧ ∃ outcomes filled,
      other.insertEach (hs.map fun hash => (hash, .ofLimit wordMax)) = (outcomes, filled) ∧
        grants outcomes = hs.zipIdx ∧ filled.resizes = 0 ∧ filled.buckets = t.buckets ∧ filled.chains = t.chains

/-- Two tables with the same hashes and as many buckets have the same chains. -/
theorem chains_eq_of_holds (h : t.Holds hs) (h' : t'.Holds hs) (hbuckets : t.buckets = t'.buckets) :
    t.chains = t'.chains :=
  Threads.eq (threads_of_linked h.linked) (threads_of_linked h'.linked) hbuckets

theorem rebuilt_of_sized (h : t.Sized j hs) : t.Rebuilt hs where
  threads := threads_of_linked h.holds.linked
  history := by
    intro minBuckets loadFactor budget left other hnew calls hgrants hbuckets
    obtain ⟨i, hsized⟩ := sized_create hnew
    obtain ⟨i', hfilled⟩ := sized_insertEach hsized calls
    rw [hgrants, List.nil_append] at hfilled
    exact chains_eq_of_holds hfilled.holds h.holds hbuckets
  fresh := by
    obtain ⟨left, hnew⟩ := create_of_ample h
    obtain ⟨i, hsized⟩ := sized_create hnew
    have hcount : (Chains.empty t.buckets).heads.size = t.buckets := Array.size_replicate
    have hfits : ([] : List UInt32).length + hs.length ≤ maxSlots := by
      rw [List.length_nil, Nat.zero_add, ← length_of_holds h.holds]
      exact h.fits
    obtain ⟨hgrants, hbuckets, hresizes⟩ := insertEach_of_ample rfl hsized hfits
    obtain ⟨i', hfilled⟩ := sized_insertEach hsized (hs.map fun hash => (hash, .ofLimit wordMax))
    rw [hgrants, List.zipIdx_map_fst, List.nil_append] at hfilled
    exact ⟨.nan, _, left, hnew, hcount, _, _, rfl, hgrants, hresizes, hbuckets.trans hcount,
      chains_eq_of_holds hfilled.holds h.holds (hbuckets.trans hcount)⟩

/-- Doublings keep the size of a table, as long as the bytes of the buckets are a word. -/
theorem sized_iterate (h : t.Sized j hs) {k : Nat} (hbytes : bucketBytes * t.buckets <<< k ≤ wordMax) :
    (doubled^[k] t).Sized (j + k) hs := by
  induction k with
  | zero => exact h
  | succ k ih =>
    rw [Nat.shiftLeft_succ] at hbytes
    have hsized := ih (by simp only [bucketBytes] at *; omega)
    rw [← buckets_iterate h.holds] at hbytes
    obtain ⟨granted, hres⟩ := reserveBuckets_of_ample hbytes
    rw [Function.iterate_succ_apply', ← Nat.add_assoc]
    exact sized_doubled hsized hres

/-- **After any history, and behind any doublings, a table is rebuilt.** Hashes are inserted into a new table,
each against a budget of its own, so that some are refused, and the buckets are doubled any number of times
in between. Then a bucket starts at its least slot and ends at its greatest, every slot leads to the least
later one of its bucket, and each other table with these hashes and as many buckets has the same chains. The
buckets are doubled some times before another insertion, and behind each doubling that can be granted the
chains are those that inserting the same hashes into a fresh table with so many buckets makes. -/
theorem rebuilt_of_insertEach {minBuckets : Nat} {loadFactor : Binary64}
    (h : create minBuckets loadFactor budget = .ok (t, left)) (calls : List (UInt32 × Budget)) :
    let filled := (t.insertEach calls).2
    let hs := (grants (t.insertEach calls).1).map Prod.fst
    filled.Rebuilt hs ∧
      (∀ k, bucketBytes * filled.buckets <<< k ≤ wordMax →
        (doubled^[k] filled).buckets = filled.buckets <<< k ∧ (doubled^[k] filled).Rebuilt hs) ∧
      ∀ scope, ∃ k, (filled.makeRoom scope).2.1 = doubled^[k] filled ∧
        bucketBytes * filled.buckets <<< k ≤ wordMax := by
  intro filled hs
  obtain ⟨i, hsized⟩ := sized_create h
  obtain ⟨j, hfilled⟩ : ∃ j, filled.Sized j hs := sized_insertEach hsized calls
  refine ⟨rebuilt_of_sized hfilled, ?_, ?_⟩
  · intro k hbytes
    exact ⟨buckets_iterate hfilled.holds k, rebuilt_of_sized (sized_iterate hfilled hbytes)⟩
  · intro scope
    obtain ⟨k, hroom, hgrown⟩ := sized_makeRoom hfilled scope
    refine ⟨k, hroom, ?_⟩
    have hbuckets := hgrown.buckets_le
    rw [buckets_iterate hfilled.holds] at hbuckets
    simp only [bucketBytes, maxDoublings, wordMax, UInt64.size] at *
    omega

/-- Four insertions at a load factor of a quarter, the first of them refused after a doubling. There are
sixteen buckets behind them, of which two have slots, and thirty-two behind one more doubling. -/
theorem rebuilt_of_insertEach_refused :
    let loadFactor : Binary64 := .ofQuotient false 1 4
    let t : SlotTable := ⟨.empty 1, loadFactor, 0, 0, 8⟩
    let calls : List (UInt32 × Budget) :=
      [(7, .ofLimit 20), (7, .ofLimit 10000), (21, .ofLimit 10000), (23, .ofLimit 10000)]
    let filled := (t.insertEach calls).2
    create 1 loadFactor (.ofLimit 10) = .ok (t, ⟨10, 8, 8, 0, 0⟩) ∧
      (grants (t.insertEach calls).1).map Prod.fst = [7, 21, 23] ∧ filled.buckets = 16 ∧
      filled.chains.heads[7]? = some (some 0) ∧ filled.chains.tails[7]? = some (some 2) ∧
      filled.chains.link? 0 = some 2 ∧ filled.Rebuilt [7, 21, 23] ∧
      filled.doubled.buckets = 32 ∧ filled.doubled.chains.tails[7]? = some (some 0) ∧
      filled.doubled.Rebuilt [7, 21, 23] := by
  intro loadFactor t calls filled
  have hsize : (max 1 1).nextPowerOfTwo = 1 := by decide +kernel
  have hcreate : create 1 loadFactor (.ofLimit 10) = .ok (t, ⟨10, 8, 8, 0, 0⟩) := by
    rw [create, hsize]
    rfl
  have hgrants : (grants (t.insertEach calls).1).map Prod.fst = [7, 21, 23] := by decide +kernel
  have hbuckets : filled.buckets = 16 := by decide +kernel
  obtain ⟨hrebuilt, hdoubled, -⟩ := rebuilt_of_insertEach hcreate calls
  obtain ⟨hmore, hagain⟩ := hdoubled 1 (by rw [hbuckets]; decide)
  rw [hgrants] at hrebuilt hagain
  rw [hbuckets] at hmore
  exact ⟨hcreate, hgrants, hbuckets, by decide +kernel, by decide +kernel, by decide +kernel, hrebuilt, hmore,
    by decide +kernel, hagain⟩

end SlotTable
end HashJoin
