import HashJoin.Proofs.Memory.Parts
import Mathlib.Logic.Function.Iterate

/-!
# The shape of a table

A table grows in two ways, each paid for from a budget that others use as well: its buckets are
doubled while the load factor does not admit one more entry, and its room for entries is doubled when
it is full. Either may be refused after the other went through. What the table has and what it holds
of the budget stay in step all the same.

## Main definitions

* `SlotTable.Event`, `SlotTable.Shared`, `Shared.run` — a table and others with one budget.
* `SlotTable.Shaped` — the shape of a table that began with some number of buckets.
* `SlotTable.Inserts` — what an insertion does to a table and to the budget.

## Main results

* `makeRoom_doubles` — the buckets are doubled while that is needed, and not once more.
* `inserts_of_shaped` — an insertion, whatever comes of it.
* `shaped_of_run` — the shape of a table and its part of the budget after any history.
-/

namespace HashJoin
namespace SlotTable

variable {t t' : SlotTable} {hs : List UInt32} {hash : UInt32} {budget budget' : Budget}
  {limit others minBuckets : Nat}

/-! ### Doublings -/

theorem holds_iterate (h : t.Holds hs) (k : Nat) : (doubled^[k] t).Holds hs := by
  induction k with
  | zero => exact h
  | succ k ih =>
    rw [Function.iterate_succ_apply']
    exact holds_doubled ih

theorem buckets_iterate (h : t.Holds hs) (k : Nat) : (doubled^[k] t).buckets = t.buckets <<< k := by
  induction k with
  | zero => rfl
  | succ k ih =>
    rw [Function.iterate_succ_apply', buckets_doubled (holds_iterate h k).pos, ih, Nat.shiftLeft_succ]

theorem resizes_iterate (t : SlotTable) (k : Nat) : (doubled^[k] t).resizes = t.resizes + k := by
  induction k with
  | zero => rfl
  | succ k ih =>
    rw [Function.iterate_succ_apply']
    show (doubled^[k] t).resizes + 1 = _
    rw [ih, Nat.add_assoc]

theorem arenaCapacity_iterate (t : SlotTable) (k : Nat) :
    (doubled^[k] t).arenaCapacity = t.arenaCapacity := by
  induction k with
  | zero => rfl
  | succ k ih =>
    rw [Function.iterate_succ_apply']
    exact ih

/-- The buckets are doubled while the load factor does not admit one more entry. -/
theorem makeRoom_doubles (h : t.Holds hs) (budget : Budget) :
    ∃ k, (t.makeRoom budget).2.1 = doubled^[k] t ∧
      (∀ j < k, (doubled^[j] t).exceeds (hs.length + 1) = true) ∧
      ((t.makeRoom budget).1 = .ok () → (doubled^[k] t).exceeds (hs.length + 1) = false) := by
  -- on the doublings that are granted
  fun_induction t.makeRoom budget with
  | case1 t _ hempty => exact absurd hempty (Nat.ne_of_gt h.pos)
  | case2 => exact ⟨0, rfl, by simp, by simp⟩
  | case3 t budget _ hfull granted _ _ ih =>
    rw [length_of_holds h] at hfull
    obtain ⟨k, hroom, hforced, hfree⟩ := ih (holds_doubled h)
    refine ⟨k + 1, hroom, ?_, hfree⟩
    intro j hj
    cases j with
    | zero => exact hfull
    | succ j => exact hforced j (Nat.lt_of_succ_lt_succ hj)
  | case4 t _ _ hfree =>
    rw [length_of_holds h] at hfree
    exact ⟨0, rfl, by simp, fun _ => by simpa using hfree⟩

/-! ### Shapes -/

/-- The shape of a table that was made for `minBuckets` buckets at least. -/
structure Shaped (t : SlotTable) (minBuckets : Nat) : Prop where
  /-- The buckets are those at the start, doubled as often as is counted. -/
  buckets : t.buckets = (max minBuckets 1).nextPowerOfTwo <<< t.resizes
  /-- The bytes are eight for each bucket and eight for each entry that there is room for. -/
  bytes : t.reservedBytes = 8 * t.buckets + 8 * t.arenaCapacity
  /-- There is no room for entries, or for a thousand of them, doubled some times. -/
  room : t.arenaCapacity = 0 ∨ ∃ k, t.arenaCapacity = 1024 <<< k
  /-- There is room for all entries. -/
  fits : t.length ≤ t.arenaCapacity

/-- What an insertion with the given outcome does to a table and to the budget. -/
structure Inserts (t : SlotTable) (budget : Budget) (result : Except TableError Nat)
    (t' : SlotTable) (budget' : Budget) : Prop where
  /-- The budget and the table change by the same bytes. -/
  change : budget'.reserved + t.reservedBytes = budget.reserved + t'.reservedBytes
  /-- A granted insertion adds a slot, and the load factor admits all slots. -/
  granted : ∀ slot, result = .ok slot →
    slot = t.length ∧ t'.length = t.length + 1 ∧ t'.exceeds t'.length = false
  /-- A refused insertion adds none. -/
  refused : ∀ e, result = .error e → t'.length = t.length
  /-- The buckets are doubled while the load factor does not admit one more slot, and only then. -/
  forced : ∃ k, t'.buckets = t.buckets <<< k ∧ t'.resizes = t.resizes + k ∧
    ∀ j < k, (doubled^[j] t).exceeds (t.length + 1) = true

theorem shaped_create {loadFactor : Binary64}
    (h : create minBuckets loadFactor budget = .ok (t, budget')) : t.Shaped minBuckets := by
  obtain ⟨-, rfl⟩ := create_eq_ok h
  refine ⟨?_, ?_, .inl rfl, Nat.le_refl 0⟩
  · simp [SlotTable.buckets, Chains.empty]
  · simp [SlotTable.buckets, Chains.empty, bucketBytes]

theorem Shaped.accounted (h : t.Shaped minBuckets) : t.Accounted := h.bytes

theorem exceeds_congr (hbuckets : t'.buckets = t.buckets) (hload : t'.loadFactor = t.loadFactor)
    (entries : Nat) : t'.exceeds entries = t.exceeds entries := by
  rw [exceeds, exceeds, hbuckets, hload]

/-- Some doublings keep the shape, if they keep the account. -/
theorem shaped_iterate (hshape : t.Shaped minBuckets) (h : t.Holds hs) {k : Nat}
    (hacc : (doubled^[k] t).Accounted) : (doubled^[k] t).Shaped minBuckets where
  buckets := by
    rw [buckets_iterate h, hshape.buckets, resizes_iterate, Nat.shiftLeft_add]
  bytes := hacc
  room := by
    rw [arenaCapacity_iterate]
    exact hshape.room
  fits := by
    rw [arenaCapacity_iterate, length_of_holds (holds_iterate h k), ← length_of_holds h]
    exact hshape.fits

/-- Room for entries leaves the buckets alone. -/
theorem frame_extendArena {result : Except TableError Unit}
    (h : t.extendArena budget = (result, t', budget')) :
    t'.chains = t.chains ∧ t'.loadFactor = t.loadFactor ∧ t'.resizes = t.resizes := by
  rcases extendArena_cases h with ⟨-, -, rfl, -⟩ | ⟨-, rfl, -⟩ | ⟨-, -, -, rfl⟩
  · exact ⟨rfl, rfl, rfl⟩
  · exact ⟨rfl, rfl, rfl⟩
  · exact ⟨rfl, rfl, rfl⟩

/-- Room for entries keeps the shape, if it keeps the account. -/
theorem shaped_extendArena (hshape : t.Shaped minBuckets) {result : Except TableError Unit}
    (h : t.extendArena budget = (result, t', budget')) (hacc : t'.Accounted) :
    t'.Shaped minBuckets ∧ (result = .ok () → t'.length < t'.arenaCapacity) := by
  rcases extendArena_cases h with ⟨hlt, -, rfl, -⟩ | ⟨-, rfl, -, _, -, hno⟩ | ⟨hfull, -, -, rfl⟩
  · exact ⟨hshape, fun _ => hlt⟩
  · refine ⟨hshape, ?_⟩
    intro hok
    rw [hno] at hok
    cases hok
  · have hfits := hshape.fits
    have hmax := Nat.le_max_right t.arenaCapacity minArenaStep
    have hlt : t.length < t.arenaCapacity + max t.arenaCapacity minArenaStep := by
      simp only [minArenaStep] at *
      omega
    refine ⟨⟨hshape.buckets, hacc, .inr ?_, Nat.le_of_lt hlt⟩, fun _ => hlt⟩
    rcases hshape.room with hnone | ⟨k, hroom⟩
    · exact ⟨0, by simp [hnone, minArenaStep]⟩
    · refine ⟨k + 1, ?_⟩
      have hleast : 1024 ≤ 1024 <<< k := by
        rw [Nat.shiftLeft_eq]
        exact Nat.le_mul_of_pos_right 1024 (Nat.two_pow_pos k)
      show t.arenaCapacity + max t.arenaCapacity minArenaStep = _
      rw [hroom, minArenaStep, Nat.max_eq_left hleast, Nat.shiftLeft_succ]
      omega

theorem shaped_append (hshape : t.Shaped minBuckets) (h : t.Holds hs)
    (hroom : t.length < t.arenaCapacity) (hash : UInt32) : (t.append hash).Shaped minBuckets where
  buckets := by
    rw [buckets_append]
    exact hshape.buckets
  bytes := accounted_append hshape.accounted hash
  room := hshape.room
  fits := by
    rw [length_of_holds (holds_append h hash), List.length_append, ← length_of_holds h]
    exact hroom

/-- What an insertion does to the shape: some doublings that were needed, and room for the entries,
if it comes to that. -/
theorem shaped_insert (hshape : t.Shaped minBuckets) (h : t.Holds hs)
    (hexact : budget.Exact limit (others + t.reservedBytes)) {result : Except TableError Nat}
    (hins : t.insert hash budget = (result, t', budget')) :
    t'.Shaped minBuckets ∧
      ∃ k, t'.buckets = t.buckets <<< k ∧ t'.resizes = t.resizes + k ∧
        (∀ j < k, (doubled^[j] t).exceeds (hs.length + 1) = true) ∧
        ∀ slot, result = .ok slot → t'.exceeds (hs.length + 1) = false := by
  obtain ⟨k, hroom, hforced, hfree⟩ := makeRoom_doubles h budget
  obtain ⟨hacc, hheld⟩ := exact_makeRoom hshape.accounted hexact
  have hbuckets := buckets_iterate h k
  have hresizes := resizes_iterate t k
  rw [hroom] at hacc
  have hshape' := shaped_iterate hshape h hacc
  rcases insert_cases hins with ⟨-, rfl, rfl, -⟩ | ⟨-, e, hmade, rfl⟩ |
    ⟨-, roomy, granted, hmade, e, hext, rfl⟩ | ⟨-, roomy, granted, hmade, ready, hext, rfl, rfl⟩
  · exact ⟨hshape, 0, by simp, by simp, by simp, by simp⟩
  · rw [hmade] at hroom
    obtain rfl : t' = doubled^[k] t := hroom
    exact ⟨hshape', k, hbuckets, hresizes, hforced, by simp⟩
  · -- the doublings stay, though the entries are refused
    rw [hmade] at hroom hheld
    obtain rfl : roomy = doubled^[k] t := hroom
    obtain ⟨hacc', -⟩ := exact_extendArena hacc hheld hext
    obtain ⟨hchains, -, hcount⟩ := frame_extendArena hext
    refine ⟨(shaped_extendArena hshape' hext hacc').1, k, ?_, ?_, hforced, by simp⟩
    · rw [buckets, hchains]
      exact hbuckets
    · rw [hcount, hresizes]
  · rw [hmade] at hroom hheld hfree
    obtain rfl : roomy = doubled^[k] t := hroom
    obtain ⟨hacc', -⟩ := exact_extendArena hacc hheld hext
    obtain ⟨hchains, hload, hcount⟩ := frame_extendArena hext
    obtain ⟨hready, hspace⟩ := shaped_extendArena hshape' hext hacc'
    have hsame : ready.buckets = (doubled^[k] t).buckets := by rw [buckets, hchains, buckets]
    refine ⟨shaped_append hready (holds_extendArena (holds_iterate h k) hext) (hspace rfl) hash, k,
      ?_, ?_, hforced, ?_⟩
    · rw [buckets_append, hsame, hbuckets]
    · show ready.resizes = _
      rw [hcount, hresizes]
    · intro _ _
      rw [exceeds_congr (buckets_append ready hash) rfl, exceeds_congr hsame hload]
      exact hfree rfl

/-- An insertion keeps the shape of a table and its part of the budget, whatever comes of it. -/
theorem inserts_of_shaped (hshape : t.Shaped minBuckets) (h : t.Holds hs)
    (hexact : budget.Exact limit (others + t.reservedBytes)) {result : Except TableError Nat}
    (hins : t.insert hash budget = (result, t', budget')) :
    t.Inserts budget result t' budget' := by
  obtain ⟨-, k, hbuckets, hresizes, hforced, hadmits⟩ := shaped_insert hshape h hexact hins
  obtain ⟨-, hexact'⟩ := exact_insert hshape.accounted hexact hins
  have hlength := length_of_holds h
  refine ⟨?_, ?_, ?_, k, hbuckets, hresizes, ?_⟩
  · rw [hexact.reserved, hexact'.reserved]
    omega
  · intro slot hok
    rcases insert_of_holds h hins with ⟨e, herr, -⟩ | ⟨hslot, hadded⟩
    · rw [hok] at herr
      cases herr
    · have hlength' : t'.length = hs.length + 1 := by
        rw [length_of_holds hadded, List.length_append, List.length_singleton]
      rw [hok] at hslot
      cases hslot
      refine ⟨hlength.symm, by rw [hlength', hlength], ?_⟩
      rw [hlength']
      exact hadmits _ hok
  · intro e herr
    rcases insert_of_holds h hins with ⟨_, -, hkept⟩ | ⟨hok, -⟩
    · rw [length_of_holds hkept, hlength]
    · rw [hok] at herr
      cases herr
  · rw [hlength]
    exact hforced

/-! ### Histories -/

/-- What happens to a table and to the budget that it shares. -/
inductive Event
  /-- A hash is inserted. -/
  | insert (hash : UInt32)
  /-- Somebody else asks for bytes. -/
  | reserve (bytes : Nat)
  /-- Somebody else gives bytes back. -/
  | release (bytes : Nat)

/-- A table, the budget that it shares, and what the others hold of it. -/
structure Shared where
  /-- The table. -/
  table : SlotTable
  /-- The budget. -/
  budget : Budget
  /-- The bytes of the others. -/
  others : Nat

namespace Shared

/-- What is behind an event. Others give back no more than they hold. -/
def step (s : Shared) : Event → Shared
  | .insert hash =>
    let (_, table, budget) := s.table.insert hash s.budget
    ⟨table, budget, s.others⟩
  | .reserve bytes =>
    match s.budget.reserve bytes with
    | .ok budget => ⟨s.table, budget, s.others + bytes⟩
    | .error _ => s
  | .release bytes =>
    let given := min bytes s.others
    ⟨s.table, s.budget.release given, s.others - given⟩

/-- What is behind some events. -/
def run (s : Shared) (events : List Event) : Shared := events.foldl step s

/-- A table of its shape, whose bytes and those of the others are what is reserved. -/
structure Sound (s : Shared) (limit minBuckets : Nat) : Prop where
  /-- The slots of the table are linked. -/
  holds : ∃ hs, s.table.Holds hs
  /-- The table has its shape. -/
  shaped : s.table.Shaped minBuckets
  /-- The bytes of the others and of the table are reserved, and nothing else. -/
  exact : s.budget.Exact limit (s.others + s.table.reservedBytes)

variable {s : Shared}

theorem sound_step (h : s.Sound limit minBuckets) (event : Event) :
    (s.step event).Sound limit minBuckets := by
  obtain ⟨⟨hs, hholds⟩, hshape, hexact⟩ := h
  cases event with
  | insert hash =>
    rcases hins : s.table.insert hash s.budget with ⟨result, t', budget'⟩
    rw [step, hins]
    refine ⟨?_, (shaped_insert hshape hholds hexact hins).1,
      (exact_insert hshape.accounted hexact hins).2⟩
    rcases insert_of_holds hholds hins with ⟨e, -, hkept⟩ | ⟨-, hadded⟩
    · exact ⟨hs, hkept⟩
    · exact ⟨hs ++ [hash], hadded⟩
  | reserve bytes =>
    rw [step]
    split
    · next granted hres =>
      refine ⟨⟨hs, hholds⟩, hshape, ?_⟩
      have hmore := hexact.reserve hres
      rw [Nat.add_right_comm] at hmore
      exact hmore
    · exact ⟨⟨hs, hholds⟩, hshape, hexact⟩
  | release bytes =>
    refine ⟨⟨hs, hholds⟩, hshape, Budget.Exact.release ?_⟩
    have hle := Nat.min_le_right bytes s.others
    show s.budget.Exact limit (s.others - min bytes s.others + s.table.reservedBytes + min bytes s.others)
    rw [Nat.add_right_comm, Nat.sub_add_cancel hle]
    exact hexact

theorem sound_run (h : s.Sound limit minBuckets) (events : List Event) :
    (s.run events).Sound limit minBuckets := by
  induction events generalizing s with
  | nil => exact h
  | cons event events ih => exact ih (sound_step h event)

end Shared

/-- **The shape of a table and its part of the budget.** A new table takes from the budget the bytes
that it has. After any insertions, granted or refused, and whatever others reserve and give back
between them, the table has its shape; another insertion changes the budget by what it changes of the
table, doubles the buckets only while that is needed, and if it is granted, the load factor admits
all slots; and when the table is cleared, the budget has its bytes back. -/
theorem shaped_of_run {loadFactor : Binary64} (hexact : budget.Exact limit others)
    (h : create minBuckets loadFactor budget = .ok (t, budget')) (events : List Event) :
    budget'.reserved = budget.reserved + t.reservedBytes ∧
      let s := Shared.run ⟨t, budget', others⟩ events
      s.table.Shaped minBuckets ∧ s.budget.reserved = s.others + s.table.reservedBytes ∧
        (∀ hash result t' left, s.table.insert hash s.budget = (result, t', left) →
          s.table.Inserts s.budget result t' left) ∧
        (s.table.clear s.budget).2.reserved + s.table.reservedBytes =
          s.budget.reserved + (s.table.clear s.budget).1.reservedBytes := by
  obtain ⟨-, hnew⟩ := exact_create hexact h
  have hstart : Shared.Sound ⟨t, budget', others⟩ limit minBuckets :=
    ⟨⟨[], holds_create h⟩, shaped_create h, hnew⟩
  refine ⟨by rw [hnew.reserved, hexact.reserved], ?_⟩
  intro s
  obtain ⟨⟨hs, hholds⟩, hshape, hend⟩ := Shared.sound_run hstart events
  refine ⟨hshape, hend.reserved, ?_, ?_⟩
  · intro hash result t' left hins
    exact inserts_of_shaped hshape hholds hend hins
  · have hreserved : s.budget.reserved = s.others + s.table.reservedBytes := hend.reserved
    show s.budget.reserved - s.table.reservedBytes + s.table.reservedBytes = s.budget.reserved + 0
    omega

/-- A load factor of a quarter, and a budget of which the others hold nearly all. The first insertion
doubles the buckets once and is refused the second doubling; when the others have given their bytes
back, the next one doubles the buckets again and goes through. -/
theorem shaped_of_run_refused :
    let loadFactor : Binary64 := .ofQuotient false 1 4
    let t : SlotTable := ⟨.empty 1, loadFactor, 0, 0, 8⟩
    let s := Shared.run ⟨t, ⟨10000, 8, 8, 0, 0⟩, 0⟩
      [.reserve 9970, .insert 7, .release 10000, .insert 5]
    create 1 loadFactor (.ofLimit 10000) = .ok (t, ⟨10000, 8, 8, 0, 0⟩) ∧
      s.table.length = 1 ∧ s.table.resizes = 2 ∧ s.table.arenaCapacity = 1024 ∧
      s.table.Shaped 1 ∧ s.budget.reserved = 8 * 4 + 8 * 1024 := by
  intro loadFactor t s
  have hsize : (max 1 1).nextPowerOfTwo = 1 := by decide +kernel
  have hcreate : create 1 loadFactor (.ofLimit 10000) = .ok (t, ⟨10000, 8, 8, 0, 0⟩) := by
    rw [create, hsize]
    rfl
  obtain ⟨-, hshape, -⟩ := shaped_of_run (Budget.Exact.ofLimit 10000) hcreate
    [.reserve 9970, .insert 7, .release 10000, .insert 5]
  exact ⟨hcreate, by decide +kernel, by decide +kernel, by decide +kernel, hshape, by decide +kernel⟩

end SlotTable
end HashJoin
