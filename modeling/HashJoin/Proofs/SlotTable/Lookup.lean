import HashJoin.Proofs.SlotTable.Chains

/-!
# Looking up in linked chains

In linked chains a walk meets the slots of one hash in order of insertion, and none of them is
missed: slots of one hash share a bucket, and every link leads to a later slot.

## Main definitions

* `SlotTable.Holds` — a table whose chains are linked as a list of hashes says.
* `SlotTable.Indexes` — what can be seen of such a table: its length, its lookups and its links.

## Main results

* `find?_of_linked` — a walk along a chain finds the first slot of the hash.
* `lookup_of_holds`, `next?_of_holds` — lookups list the slots of a hash, and so do successive steps.
* `indexes_of_holds` — a table that holds a list of hashes indexes it.
-/

namespace HashJoin

namespace Chains

variable {c : Chains} {hs : List UInt32} {hash : UInt32} {p : Nat → Bool} {k : Nat}

theorem fallsInto_of_hash {buckets i : Nat} (h : hs[i]? = some hash) :
    fallsInto hs buckets (bucketOf hash buckets) i = true :=
  fallsInto_iff.mpr ⟨hash, h, rfl⟩

theorem getElem?_hashes (c : Chains) (i : Nat) : c.hashes[i]? = c.entries[i]?.map Entry.hash := by
  rw [hashes, List.getElem?_map, Array.getElem?_toList]

/-- Links lead to later slots. -/
theorem bounds_of_link? (h : Linked c hs hs.length) {i j : Nat} (hij : c.link? i = some j) :
    i < j ∧ j < hs.length := by
  have hi : i < hs.length := by
    rw [← size_entries h.hashes]
    rcases Nat.lt_or_ge i c.entries.size with hi | hi
    · exact hi
    · simp [link?, Array.getElem?_eq_none hi] at hij
  have := h.next i hi _ (fallsInto_of_hash (List.getElem?_eq_getElem hi))
  rw [hij] at this
  obtain ⟨hp, hmem, -⟩ := List.find?_range_eq_some.mp this.symm
  simp only [Bool.and_eq_true, decide_eq_true_eq] at hp
  exact ⟨hp.1, List.mem_range.mp hmem⟩

/-- Where the bucket has no slot, no slot has the hash. -/
theorem find?_hash_eq_none {s buckets b : Nat}
    (hfall : ∀ j, hs[j]? = some hash → fallsInto hs buckets b j = true)
    (hnone : (List.range k).find? (fun j => s ≤ j && fallsInto hs buckets b j) = none) :
    (List.range k).find? (fun j => s ≤ j && decide (hs[j]? = some hash)) = none := by
  rw [List.find?_range_eq_none] at hnone ⊢
  intro j hj
  have := hnone j hj
  by_cases e : hs[j]? = some hash
  · simpa [e, hfall j e] using this
  · simp [e]

/-- A slot of another hash that is the first of its bucket can be passed over. -/
theorem find?_range_skip {s slot buckets b : Nat}
    (hfall : ∀ j, hs[j]? = some hash → fallsInto hs buckets b j = true)
    (hfirst : (List.range k).find? (fun j => s ≤ j && fallsInto hs buckets b j) = some slot)
    (hne : hs[slot]? ≠ some hash) :
    (List.range k).find? (fun j => s ≤ j && decide (hs[j]? = some hash)) =
      (List.range k).find? fun j => slot + 1 ≤ j && decide (hs[j]? = some hash) := by
  obtain ⟨hp, -, hmin⟩ := List.find?_range_eq_some.mp hfirst
  simp only [Bool.and_eq_true, decide_eq_true_eq] at hp
  apply find?_range_congr
  intro j _
  by_cases e : hs[j]? = some hash
  · rcases Nat.lt_trichotomy j slot with hj | rfl | hj
    -- before `slot` there is none from `s` on, since it would share the bucket
    · have := hmin j hj
      simp only [hfall j e, Bool.and_true, Bool.not_eq_true', decide_eq_false_iff_not] at this
      simp [e]
      omega
    · exact absurd e hne
    · simp [e]
      omega
  · simp [e]

/-- A walk that starts at the first slot of the bucket from `s` on finds the first slot of the hash
from `s` on. The induction follows the walk: every slot that it passes has another hash. -/
theorem find?_of_linked (h : Linked c hs hs.length) (hash : UInt32) (start : Option Nat) (s : Nat)
    (hstart : start = (List.range hs.length).find? fun j =>
      s ≤ j && fallsInto hs c.heads.size (bucketOf hash c.heads.size) j) :
    find? c.entries hash start =
      (List.range hs.length).find? fun j => s ≤ j && decide (hs[j]? = some hash) := by
  have hfall : ∀ j, hs[j]? = some hash →
      fallsInto hs c.heads.size (bucketOf hash c.heads.size) j = true := fun j => fallsInto_of_hash
  generalize bucketOf hash c.heads.size = b at hstart hfall
  have hsize := size_entries h.hashes
  have hhash : ∀ i (hi : i < c.entries.size), hs[i]? = some c.entries[i].hash := by
    intro i hi
    rw [← h.hashes, getElem?_hashes, Array.getElem?_eq_getElem hi, Option.map_some]
  have hlink : ∀ i (hi : i < c.entries.size), fallsInto hs c.heads.size b i = true →
      c.entries[i].next =
        (List.range hs.length).find? fun j => i + 1 ≤ j && fallsInto hs c.heads.size b j := by
    intro i hi hib
    have := h.next i (by omega) b hib
    rw [link?, Array.getElem?_eq_getElem hi, Option.bind_some] at this
    exact this
  fun_induction find? c.entries hash start generalizing s with
  | case1 => exact (find?_hash_eq_none hfall hstart.symm).symm
  | case2 slot lt e =>
    -- the first slot of the bucket has the hash, and is all the more the first of the hash
    obtain ⟨hp, hmem, hmin⟩ := List.find?_range_eq_some.mp hstart.symm
    symm
    rw [List.find?_range_eq_some]
    refine ⟨?_, hmem, ?_⟩
    · simp only [Bool.and_eq_true, decide_eq_true_eq] at hp ⊢
      exact ⟨hp.1, by rw [hhash slot lt, e]⟩
    · intro j hj
      by_cases ej : hs[j]? = some hash
      · simpa [ej, hfall j ej] using hmin j hj
      · simp [ej]
  | case3 slot lt ne hnext =>
    obtain ⟨hp, -, -⟩ := List.find?_range_eq_some.mp hstart.symm
    rw [find?_range_skip hfall hstart.symm (by rw [hhash slot lt]; simpa using ne)]
    have hfree := hlink slot lt (by simpa using (Bool.and_eq_true_iff.mp hp).2)
    rw [hnext] at hfree
    exact (find?_hash_eq_none hfall hfree.symm).symm
  | case4 slot lt ne later hnext le ih =>
    obtain ⟨hp, -, -⟩ := List.find?_range_eq_some.mp hstart.symm
    rw [find?_range_skip hfall hstart.symm (by rw [hhash slot lt]; simpa using ne)]
    apply ih
    rw [← hlink slot lt (by simpa using (Bool.and_eq_true_iff.mp hp).2), hnext]
  | case5 slot lt ne later hnext nle =>
    -- the check of the walk never fails, since links lead to later slots
    have hstep : c.link? slot = some later := by
      rw [link?, Array.getElem?_eq_getElem lt, Option.bind_some, hnext]
    exact absurd (bounds_of_link? h hstep).1 nle
  | case6 slot nlt =>
    obtain ⟨-, hmem, -⟩ := List.find?_range_eq_some.mp hstart.symm
    exact absurd (List.mem_range.mp hmem) (by omega)

end Chains

namespace SlotTable

open Chains

variable {t : SlotTable} {hs : List UInt32} {hash : UInt32}

/-- The table holds slots of the given hashes, in this order. -/
structure Holds (t : SlotTable) (hs : List UInt32) : Prop where
  /-- The slots are linked as their hashes say. -/
  linked : Linked t.chains hs hs.length
  /-- There is a bucket. -/
  pos : 0 < t.buckets

/-- All that can be seen of a table which holds slots of the given hashes. -/
structure Indexes (t : SlotTable) (hs : List UInt32) : Prop where
  /-- Every hash has a slot. -/
  length : t.length = hs.length
  /-- Looking a hash up gives its slots in ascending order. -/
  lookup : ∀ hash, t.lookup hash = (List.range hs.length).filter fun i => hs[i]? = some hash
  /-- The step from a slot leads to the least later slot of its hash. -/
  next : ∀ i hash, hs[i]? = some hash →
    t.next? i hash = (List.range hs.length).find? fun j => i < j && decide (hs[j]? = some hash)
  /-- Links lead to later slots, so that every walk ends. -/
  ascending : ∀ i j, t.chains.link? i = some j → i < j ∧ j < t.length

theorem length_of_holds (h : t.Holds hs) : t.length = hs.length := size_entries h.linked.hashes

theorem first?_of_holds (h : t.Holds hs) (hash : UInt32) :
    t.first? hash = (List.range hs.length).find? fun j => decide (hs[j]? = some hash) := by
  have hhead := h.linked.head (bucketOf hash t.buckets) (Nat.mod_lt _ h.pos)
  rw [first?, find?_of_linked h.linked hash _ 0 (by rw [hhead]; simp [buckets])]
  simp

theorem next?_of_holds (h : t.Holds hs) {i : Nat} (hi : hs[i]? = some hash) :
    t.next? i hash = (List.range hs.length).find? fun j => i < j && decide (hs[j]? = some hash) := by
  have hlt : i < t.length := by
    rw [length_of_holds h]
    exact (List.getElem?_eq_some_iff.mp hi).1
  have hlink : t.chains.link? i = t.chains.entries[i].next := by
    rw [link?, Array.getElem?_eq_getElem hlt, Option.bind_some]
  have hnext := h.linked.next i (by rw [← length_of_holds h]; exact hlt) _ (fallsInto_of_hash hi)
  have hwalk := find?_of_linked h.linked hash (t.chains.link? i) (i + 1) hnext
  rw [next?, dif_pos hlt, ← hlink]
  cases hcase : t.chains.link? i with
  | none =>
    rw [hcase, find?] at hwalk
    exact hwalk
  | some later =>
    rw [hcase] at hwalk
    show (if i < later then _ else _) = _
    rw [if_pos (bounds_of_link? h.linked hcase).1]
    exact hwalk

/-- The slots below a bound that satisfy a condition, from the first of them on. -/
theorem filter_range_eq (p : Nat → Bool) (k : Nat) :
    (List.range k).filter p = match (List.range k).find? p with
      | none => []
      | some i => i :: (List.range k).filter fun j => i < j && p j := by
  induction k with
  | zero => rfl
  | succ k ih =>
    rw [List.range_succ, List.filter_append, List.find?_append, ih]
    cases hfind : (List.range k).find? p with
    | none =>
      cases hp : p k with
      | true =>
        have hfree : (List.range k).filter (fun j => k < j && p j) = [] := by
          rw [List.filter_eq_nil_iff]
          intro j hj
          have := List.mem_range.mp hj
          simp
          omega
        simp [hp, hfree]
      | false => simp [hp]
    | some i =>
      have hi := List.mem_range.mp (List.find?_range_eq_some.mp hfind).2.1
      cases hp : p k <;> simp [hp, hi]

theorem lookupFrom_of_holds (h : t.Holds hs) (hash : UInt32) (start : Option Nat) (s : Nat)
    (hstart : start = (List.range hs.length).find? fun j => s ≤ j && decide (hs[j]? = some hash)) :
    t.lookupFrom hash start =
      (List.range hs.length).filter fun j => s ≤ j && decide (hs[j]? = some hash) := by
  fun_induction t.lookupFrom hash start generalizing s with
  | case1 => rw [filter_range_eq, ← hstart]
  | case2 slot ih =>
    obtain ⟨hp, -, -⟩ := List.find?_range_eq_some.mp hstart.symm
    simp only [Bool.and_eq_true, decide_eq_true_eq] at hp
    have hnext := next?_of_holds h hp.2
    -- behind `slot` the bound `s` is met anyway
    have hrest : (List.range hs.length).filter
          (fun j => slot < j && (s ≤ j && decide (hs[j]? = some hash))) =
        (List.range hs.length).filter fun j => slot + 1 ≤ j && decide (hs[j]? = some hash) := by
      apply List.filter_congr
      intro j _
      by_cases hj : slot < j
      · simp [hj, show s ≤ j by omega, show slot + 1 ≤ j by omega]
      · simp [hj, show ¬ slot + 1 ≤ j by omega]
    rw [filter_range_eq, ← hstart]
    show _ = slot :: _
    rw [hrest]
    congr 1
    split
    · next found =>
      rw [found] at hnext
      rw [filter_range_eq]
      exact hnext ▸ rfl
    · next later found => exact ih later found (slot + 1) (found.symm.trans hnext)

theorem lookup_of_holds (h : t.Holds hs) (hash : UInt32) :
    t.lookup hash = (List.range hs.length).filter fun i => hs[i]? = some hash := by
  rw [lookup, lookupFrom_of_holds h hash _ 0 (by simpa using first?_of_holds h hash)]
  simp

theorem indexes_of_holds (h : t.Holds hs) : t.Indexes hs where
  length := length_of_holds h
  lookup := lookup_of_holds h
  next := fun _ _ hi => next?_of_holds h hi
  ascending := by
    intro i j hij
    rw [length_of_holds h]
    exact bounds_of_link? h.linked hij

end SlotTable

end HashJoin
