import HashJoin.SlotTable

/-!
# What chains hold

Chains are determined by the hashes of their slots and the number of buckets: a bucket starts at
its first slot and ends at its last, and every slot leads to the next one of its bucket. Attaching
one slot keeps this true for one slot more, whether the slot is new or is being linked anew.

## Main definitions

* `Chains.hashes`, `Chains.link?` — the hashes by slot, and where a slot leads.
* `Chains.Linked` — the first slots of the chains are linked as their hashes say.
* `Chains.relinked` — chains of which some slots have been linked anew.

## Main results

* `linked_attach` — attaching the next slot links one slot more.
* `linked_append`, `linked_rebucket` — appending and rebucketing link all slots.
-/

namespace HashJoin
namespace Chains

/-- The hashes, by slot. -/
def hashes (c : Chains) : List UInt32 := c.entries.toList.map Entry.hash

/-- The slot that a slot leads to. -/
def link? (c : Chains) (slot : Nat) : Option Nat := c.entries[slot]?.bind Entry.next

/-- Whether a slot falls into a bucket. -/
def fallsInto (hs : List UInt32) (buckets bucket slot : Nat) : Bool :=
  hs[slot]?.any fun hash => decide (bucketOf hash buckets = bucket)

/-- The first `k` slots are linked as the hashes `hs` say. Later slots have their hashes, but nothing
leads to them. -/
structure Linked (c : Chains) (hs : List UInt32) (k : Nat) : Prop where
  /-- The hashes of all slots. -/
  hashes : c.hashes = hs
  /-- Every bucket has a head and a tail. -/
  sizes : c.tails.size = c.heads.size
  /-- A bucket starts at its first slot. -/
  head : ∀ b < c.heads.size,
    c.heads.getD b none = (List.range k).find? (fallsInto hs c.heads.size b)
  /-- A bucket ends at its last slot. -/
  tail : ∀ b < c.heads.size,
    c.tails.getD b none = ((List.range k).filter (fallsInto hs c.heads.size b)).getLast?
  /-- A slot leads to the next slot of its bucket. -/
  next : ∀ i < k, ∀ b, fallsInto hs c.heads.size b i = true →
    c.link? i = (List.range k).find? fun j => i < j && fallsInto hs c.heads.size b j

/-! ### Slots below a bound -/

section Bound

variable {p : Nat → Bool} {k last : Nat}

theorem find?_range_succ (p : Nat → Bool) (k : Nat) :
    (List.range (k + 1)).find? p = ((List.range k).find? p).or (if p k then some k else none) := by
  rw [List.range_succ, List.find?_append]
  cases h : p k <;> simp [h]

theorem getLast?_filter_range_succ (p : Nat → Bool) (k : Nat) :
    ((List.range (k + 1)).filter p).getLast? =
      if p k then some k else ((List.range k).filter p).getLast? := by
  rw [List.range_succ, List.filter_append]
  cases h : p k <;> simp [h]

theorem find?_range_congr {q : Nat → Bool} (h : ∀ i < k, p i = q i) :
    (List.range k).find? p = (List.range k).find? q := by
  induction k with
  | zero => rfl
  | succ k ih =>
    rw [find?_range_succ, find?_range_succ, ih fun i hi => h i (by omega), h k (by omega)]

/-- No slot below a bound is behind it. -/
theorem find?_lt_range (p : Nat → Bool) (k : Nat) :
    (List.range k).find? (fun j => k < j && p j) = none := by
  simp only [List.find?_range_eq_none, Bool.not_and, Bool.or_eq_true]
  intro j hj
  exact Or.inl (by simpa using Nat.le_of_lt hj)

/-- The last slot below a bound satisfies the condition, and no other one is behind it. -/
theorem getLast?_filter_range (h : ((List.range k).filter p).getLast? = some last) :
    last < k ∧ p last = true ∧ ∀ i < k, p i = true → i ≤ last := by
  induction k with
  | zero => simp at h
  | succ k ih =>
    rw [getLast?_filter_range_succ] at h
    split at h
    · next hk =>
      cases h
      exact ⟨by omega, hk, fun i hi _ => by omega⟩
    · next hk =>
      obtain ⟨hlt, hp, hmax⟩ := ih h
      refine ⟨by omega, hp, ?_⟩
      intro i hi hpi
      rcases Nat.lt_succ_iff_lt_or_eq.mp hi with hi | rfl
      · exact hmax i hi hpi
      · exact absurd hpi hk

/-- A search that succeeds below a bound goes no further. -/
theorem find?_range_or (hlt : last < k) (hp : p last = true) (beyond : Option Nat) :
    ((List.range k).find? p).or beyond = (List.range k).find? p := by
  cases hfind : (List.range k).find? p with
  | some first => rfl
  | none =>
    rw [List.find?_range_eq_none] at hfind
    exact absurd hp (by simpa using hfind last hlt)

/-- Nothing is behind the last slot. -/
theorem find?_behind_last (hmax : ∀ i < k, p i = true → i ≤ last) :
    (List.range k).find? (fun j => last < j && p j) = none := by
  rw [List.find?_range_eq_none]
  intro j hj
  cases hp : p j with
  | false => simp
  | true => simpa using hmax j hj hp

theorem not_of_getLast?_filter_range (h : ((List.range k).filter p).getLast? = none) :
    ∀ i < k, p i = false := by
  intro i hi
  have := List.filter_eq_nil_iff.mp (List.getLast?_eq_none_iff.mp h) i (List.mem_range.mpr hi)
  simpa using this

end Bound

/-! ### One slot more -/

variable {c : Chains} {hs : List UInt32} {hash : UInt32} {k b last : Nat}

theorem attach_of_none (h : c.tails.getD b none = none) (slot : Nat) :
    c.attach b slot = ⟨c.heads.setIfInBounds b (some slot), c.tails.setIfInBounds b (some slot),
      c.entries⟩ := by
  unfold attach
  split
  next heads tails entries =>
    split
    · rfl
    · next h' => exact absurd (h.symm.trans h') (by simp)

theorem attach_of_some (h : c.tails.getD b none = some last) (slot : Nat) :
    c.attach b slot = ⟨c.heads, c.tails.setIfInBounds b (some slot),
      c.entries.modify last fun e => ⟨e.hash, some slot⟩⟩ := by
  unfold attach
  split
  next heads tails entries =>
    split
    · next h' => exact absurd (h.symm.trans h') (by simp)
    · next h' =>
      cases h.symm.trans h'
      rfl

theorem length_hashes (c : Chains) : c.hashes.length = c.entries.size := by simp [hashes]

theorem hashes_modify (entries : Array Entry) (slot : Nat) (next : Option Nat) :
    (entries.modify slot fun e => ⟨e.hash, next⟩).toList.map Entry.hash =
      entries.toList.map Entry.hash := by
  apply List.ext_getElem?
  intro i
  rw [List.getElem?_map, List.getElem?_map, Array.getElem?_toList, Array.getElem?_toList,
    Array.getElem?_modify]
  split
  · next h =>
    subst h
    cases entries[slot]? <;> rfl
  · rfl

@[simp] theorem size_heads_attach (c : Chains) (b slot : Nat) :
    (c.attach b slot).heads.size = c.heads.size := by
  cases h : c.tails.getD b none with
  | none => rw [attach_of_none h, Array.size_setIfInBounds]
  | some last => rw [attach_of_some h]

theorem fallsInto_iff {buckets i : Nat} :
    fallsInto hs buckets b i = true ↔ ∃ hash, hs[i]? = some hash ∧ bucketOf hash buckets = b := by
  simp [fallsInto, Option.any_eq_true]

theorem getD_setIfInBounds {α : Type} {xs : Array α} {i : Nat} (h : i < xs.size) (j : Nat) (x d : α) :
    (xs.setIfInBounds i x).getD j d = if i = j then x else xs.getD j d := by
  rw [Array.getD_eq_getD_getElem?, Array.getD_eq_getD_getElem?, Array.getElem?_setIfInBounds]
  by_cases e : i = j
  · rw [if_pos e, if_pos e, if_pos h]
    rfl
  · rw [if_neg e, if_neg e]

/-- The slot that is next to be linked falls into the bucket of its hash. -/
theorem fallsInto_eq_decide (hk : hs[k]? = some hash) (buckets b : Nat) :
    fallsInto hs buckets b k = decide (bucketOf hash buckets = b) := by
  simp [fallsInto, hk]

/-- Attaching the next slot to an empty bucket. -/
theorem Linked.attach_first (h : Linked c hs k) (hk : hs[k]? = some hash)
    (hend : c.link? k = none) (hb : bucketOf hash c.heads.size < c.heads.size)
    (hcase : c.tails.getD (bucketOf hash c.heads.size) none = none) :
    Linked (c.attach (bucketOf hash c.heads.size) k) hs (k + 1) := by
  have hfall := fallsInto_eq_decide hk c.heads.size
  generalize bucketOf hash c.heads.size = bucket at hb hfall hcase ⊢
  have hbt : bucket < c.tails.size := by rw [h.sizes]; exact hb
  -- the bucket has no tail, so none of the slots before falls into it
  have hfree := not_of_getLast?_filter_range ((h.tail bucket hb).symm.trans hcase)
  rw [attach_of_none hcase]
  refine ⟨h.hashes, by simp [h.sizes], ?_, ?_, ?_⟩
  · intro b hlt
    rw [Array.size_setIfInBounds] at hlt ⊢
    rw [getD_setIfInBounds hb, find?_range_succ, hfall]
    by_cases e : bucket = b
    · subst e
      have : (List.range k).find? (fallsInto hs c.heads.size bucket) = none := by simpa using hfree
      simp [this]
    · rw [if_neg e, h.head b hlt]
      simp [e]
  · intro b hlt
    rw [Array.size_setIfInBounds] at hlt ⊢
    rw [getD_setIfInBounds hbt, getLast?_filter_range_succ, hfall, h.tail b hlt]
    simp
  · intro i hi b hib
    rw [Array.size_setIfInBounds] at hib ⊢
    show c.link? i = _
    rw [find?_range_succ, hfall]
    rcases Nat.lt_succ_iff_lt_or_eq.mp hi with hi | rfl
    -- an earlier slot is in another bucket, where the new one changes nothing
    · have hne : bucket ≠ b := by
        rintro rfl
        exact absurd hib (by simp [hfree i hi])
      rw [h.next i hi b hib]
      simp [hne]
    · rw [hend, find?_lt_range]
      simp

/-- Attaching the next slot behind the last one of its bucket, which then leads to it. -/
theorem Linked.attach_behind (h : Linked c hs k) (hk : hs[k]? = some hash)
    (hend : c.link? k = none) (hb : bucketOf hash c.heads.size < c.heads.size)
    (hcase : c.tails.getD (bucketOf hash c.heads.size) none = some last) :
    Linked (c.attach (bucketOf hash c.heads.size) k) hs (k + 1) := by
  have hfall := fallsInto_eq_decide hk c.heads.size
  have hself : fallsInto hs c.heads.size (bucketOf hash c.heads.size) k = true := by simp [hfall]
  generalize bucketOf hash c.heads.size = bucket at hb hfall hcase hself ⊢
  have hbt : bucket < c.tails.size := by rw [h.sizes]; exact hb
  -- the tail is in the bucket, and no slot of the bucket is behind it
  obtain ⟨hlast, hin, hmax⟩ := getLast?_filter_range ((h.tail bucket hb).symm.trans hcase)
  rw [attach_of_some hcase]
  refine ⟨?_, by simp [h.sizes], ?_, ?_, ?_⟩
  · rw [← h.hashes]
    exact hashes_modify _ _ _
  · intro b hlt
    show c.heads.getD b none = _
    rw [h.head b hlt, find?_range_succ, hfall]
    by_cases e : bucket = b
    -- the bucket already has a first slot, since it has a last one
    · subst e
      rw [find?_range_or hlast hin]
    · simp [e]
  · intro b hlt
    show (c.tails.setIfInBounds bucket (some k)).getD b none = _
    rw [getD_setIfInBounds hbt, getLast?_filter_range_succ, hfall, h.tail b hlt]
    simp
  · intro i hi b hib
    rw [find?_range_succ]
    show (c.entries.modify last fun e => ⟨e.hash, some k⟩)[i]?.bind Entry.next = _
    rw [Array.getElem?_modify]
    rcases Nat.lt_succ_iff_lt_or_eq.mp hi with hi | rfl
    · by_cases e : last = i
      -- the last slot of the bucket had no successor, and now leads to the new one
      · subst e
        obtain ⟨hash', hget, rfl⟩ := fallsInto_iff.mp hib
        have hbb : bucketOf hash' c.heads.size = bucket := by
          obtain ⟨_, hget', hb'⟩ := fallsInto_iff.mp hin
          cases hget.symm.trans hget'
          exact hb'
        have hsize : last < c.entries.size := by
          rw [← length_hashes, h.hashes]
          exact (List.getElem?_eq_some_iff.mp hget).1
        rw [if_pos rfl, hbb, find?_behind_last hmax, hself, Array.getElem?_eq_getElem hsize]
        simp [hlast]
      -- another slot keeps its successor; in this bucket there is one, the last slot
      · rw [if_neg e]
        show c.link? i = _
        rw [h.next i hi b hib, hfall]
        by_cases hbb : bucket = b
        · subst hbb
          have hlt : i < last := Nat.lt_of_le_of_ne (hmax i hi hib) (Ne.symm e)
          rw [find?_range_or hlast (by simp [hlt, hin])]
        · simp [hbb]
    · rw [if_neg (by omega)]
      show c.link? i = _
      rw [hend, find?_lt_range]
      simp

/-- Attaching the next slot links one slot more. -/
theorem linked_attach (h : Linked c hs k) (hk : hs[k]? = some hash) (pos : 0 < c.heads.size)
    (hend : c.link? k = none) : Linked (c.attach (bucketOf hash c.heads.size) k) hs (k + 1) := by
  have hb : bucketOf hash c.heads.size < c.heads.size := Nat.mod_lt _ pos
  cases hcase : c.tails.getD (bucketOf hash c.heads.size) none with
  | none => exact h.attach_first hk hend hb hcase
  | some last => exact h.attach_behind hk hend hb hcase

/-! ### All slots -/

/-- With all buckets empty, no slot is linked yet. -/
theorem linked_unlinked (h : hashes c = hs) (buckets : Nat) :
    Linked ⟨Array.replicate buckets none, Array.replicate buckets none, c.entries⟩ hs 0 := by
  have free : ∀ b < buckets, (Array.replicate buckets (none : Option Nat)).getD b none = none := by
    intro b hb
    simp [hb]
  refine ⟨h, rfl, ?_, ?_, ?_⟩
  · intro b hb
    exact free b (by simpa using hb)
  · intro b hb
    exact free b (by simpa using hb)
  · intro i hi
    exact absurd hi (Nat.not_lt_zero i)

theorem linked_empty (buckets : Nat) : Linked (empty buckets) [] 0 :=
  linked_unlinked (c := ⟨#[], #[], #[]⟩) rfl buckets

theorem fallsInto_append {more : List UInt32} {buckets i : Nat} (hi : i < hs.length) :
    fallsInto (hs ++ more) buckets b i = fallsInto hs buckets b i := by
  rw [fallsInto, fallsInto, List.getElem?_append_left hi]

theorem size_entries (h : c.hashes = hs) : c.entries.size = hs.length := by
  rw [← h, length_hashes]

/-- A new slot that nothing leads to leaves the other ones linked. -/
theorem Linked.push (h : Linked c hs hs.length) (hash : UInt32) :
    Linked ⟨c.heads, c.tails, c.entries.push ⟨hash, none⟩⟩ (hs ++ [hash]) hs.length := by
  have hsize := size_entries h.hashes
  refine ⟨?_, h.sizes, ?_, ?_, ?_⟩
  · show (c.entries.push ⟨hash, none⟩).toList.map Entry.hash = _
    rw [Array.toList_push, List.map_append]
    exact congrArg (· ++ [hash]) h.hashes
  · intro b hb
    rw [h.head b hb]
    exact find?_range_congr fun i hi => (fallsInto_append hi).symm
  · intro b hb
    rw [h.tail b hb]
    congr 1
    exact List.filter_congr fun i hi => (fallsInto_append (List.mem_range.mp hi)).symm
  · intro i hi b hib
    rw [fallsInto_append hi] at hib
    show (c.entries.push ⟨hash, none⟩)[i]?.bind Entry.next = _
    rw [Array.getElem?_push, if_neg (by omega)]
    show c.link? i = _
    rw [h.next i hi b hib]
    exact find?_range_congr fun j hj => by rw [fallsInto_append hj]

theorem linked_append (h : Linked c hs hs.length) (pos : 0 < c.heads.size) (hash : UInt32) :
    Linked (c.append hash) (hs ++ [hash]) (hs ++ [hash]).length := by
  -- the entry is pushed first, and attached as the one slot that is not linked yet
  have hsize := size_entries h.hashes
  have hk : (hs ++ [hash])[hs.length]? = some hash := by simp
  have hend : link? ⟨c.heads, c.tails, c.entries.push ⟨hash, none⟩⟩ hs.length = none := by
    simp [link?, ← hsize]
  have := linked_attach (h.push hash) hk pos hend
  rw [← hsize] at this
  rw [List.length_append, List.length_singleton, ← hsize]
  exact this

/-- A slot that leads nowhere leaves the other ones linked. -/
theorem Linked.cut (h : Linked c hs k) (hk : hs[k]? = some hash) :
    Linked ⟨c.heads, c.tails, c.entries.setIfInBounds k ⟨hash, none⟩⟩ hs k := by
  have hsize := size_entries h.hashes
  refine ⟨?_, h.sizes, h.head, h.tail, ?_⟩
  · show (c.entries.setIfInBounds k ⟨hash, none⟩).toList.map Entry.hash = _
    have hset : c.hashes.set k hash = hs := by
      rw [h.hashes]
      obtain ⟨hlt, rfl⟩ := List.getElem?_eq_some_iff.mp hk
      exact List.set_getElem_self hlt
    rw [Array.toList_setIfInBounds, List.map_set]
    exact hset
  · intro i hi b hib
    show (c.entries.setIfInBounds k ⟨hash, none⟩)[i]?.bind Entry.next = _
    rw [Array.getElem?_setIfInBounds, if_neg (by omega)]
    exact h.next i hi b hib

theorem relink_eq_attach (hk : c.hashes[k]? = some hash) :
    c.relink k = attach ⟨c.heads, c.tails, c.entries.setIfInBounds k ⟨hash, none⟩⟩
      (bucketOf hash c.heads.size) k := by
  have : (c.entries.getD k default).hash = hash := by
    rw [hashes, List.getElem?_map, Array.getElem?_toList] at hk
    obtain ⟨entry, hget, rfl⟩ := Option.map_eq_some_iff.mp hk
    rw [Array.getD_eq_getD_getElem?, hget]
    rfl
  rw [← this]
  rfl

theorem linked_relink (h : Linked c hs k) (hk : k < hs.length) (pos : 0 < c.heads.size) :
    Linked (c.relink k) hs (k + 1) := by
  have hget : hs[k]? = some hs[k] := List.getElem?_eq_getElem hk
  rw [relink_eq_attach (by rw [h.hashes]; exact hget)]
  refine linked_attach (h.cut hget) hget pos ?_
  simp [link?, size_entries h.hashes, hk]

@[simp] theorem size_heads_relink (c : Chains) (slot : Nat) :
    (c.relink slot).heads.size = c.heads.size := by
  cases c
  exact size_heads_attach _ _ _

/-- The same slots in a number of buckets, the first `n` of them linked anew. -/
def relinked (c : Chains) (buckets n : Nat) : Chains :=
  n.fold (fun slot _ chains => chains.relink slot)
    ⟨Array.replicate buckets none, Array.replicate buckets none, c.entries⟩

theorem rebucket_eq_relinked (c : Chains) (buckets : Nat) :
    c.rebucket buckets = c.relinked buckets c.entries.size := rfl

theorem relinked_succ (c : Chains) (buckets n : Nat) :
    c.relinked buckets (n + 1) = (c.relinked buckets n).relink n := Nat.fold_succ ..

/-- The induction is on the slots that the loop has been through. -/
theorem linked_relinked (h : c.hashes = hs) (pos : 0 < k) {n : Nat} (hn : n ≤ hs.length) :
    (c.relinked k n).heads.size = k ∧ Linked (c.relinked k n) hs n := by
  induction n with
  | zero => exact ⟨Array.size_replicate, linked_unlinked h k⟩
  | succ n ih =>
    obtain ⟨hheads, hlinked⟩ := ih (Nat.le_of_succ_le hn)
    rw [relinked_succ]
    refine ⟨?_, linked_relink hlinked hn ?_⟩
    · rw [size_heads_relink]
      exact hheads
    · rw [hheads]
      exact pos

/-- Rebucketing links all slots anew, whatever they were linked to. -/
theorem linked_rebucket (h : c.hashes = hs) (pos : 0 < k) :
    (c.rebucket k).heads.size = k ∧ Linked (c.rebucket k) hs hs.length := by
  rw [rebucket_eq_relinked, size_entries h]
  exact linked_relinked h pos (Nat.le_refl _)

end Chains
end HashJoin
