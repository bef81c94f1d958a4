import HashJoin.Binary
import HashJoin.Budget

/-!
# The slot table

The table numbers the build rows by slots `0, 1, 2, …` in order of insertion and finds the slots of
a hash again. Slots whose hashes fall into one bucket form a chain, in which every slot links to the
next one; a chain ends where no link follows. Chains therefore run through ascending slots.

Before a slot is added, the number of buckets is doubled until the load factor admits one more, and
the room for entries is doubled if it is full. Both are paid for from the budget, and either may be
refused; doublings that went through before that stay.

## Main definitions

* `Chains`, `Chains.append`, `Chains.rebucket`, `Chains.find?` — the chains, their growth and their
  search.
* `SlotTable`, `SlotTable.create`, `SlotTable.insert`, `SlotTable.clear`.
* `SlotTable.first?`, `SlotTable.next?`, `SlotTable.lookup` — the slots of a hash.
* `TableError` — why a row could not be inserted.
-/

namespace HashJoin

/-! ### Chains -/

/-- What is stored for one slot. -/
structure Entry where
  /-- The hash of the slot's row. -/
  hash : UInt32
  /-- The next slot of the chain. -/
  next : Option Nat

instance : Inhabited Entry := ⟨⟨0, none⟩⟩

/-- Slots by bucket, each bucket a chain of linked entries. -/
structure Chains where
  /-- The first slot of each bucket. -/
  heads : Array (Option Nat)
  /-- The last slot of each bucket. -/
  tails : Array (Option Nat)
  /-- The entries, by slot. -/
  entries : Array Entry

namespace Chains

/-- The given number of empty buckets. -/
def empty (buckets : Nat) : Chains :=
  ⟨Array.replicate buckets none, Array.replicate buckets none, #[]⟩

/-- The bucket that a hash falls into. -/
def bucketOf (hash : UInt32) (buckets : Nat) : Nat := hash.toNat % buckets

/-- The chains with a slot, which leads nowhere, behind the last slot of a bucket. -/
def attach : Chains → Nat → Nat → Chains
  | ⟨heads, tails, entries⟩, bucket, slot =>
    match tails.getD bucket none with
    | none =>
      ⟨heads.setIfInBounds bucket (some slot), tails.setIfInBounds bucket (some slot), entries⟩
    | some last =>
      ⟨heads, tails.setIfInBounds bucket (some slot),
        entries.modify last fun e => ⟨e.hash, some slot⟩⟩

/-- The chains with a new slot at the end of the chain of its hash. -/
def append : Chains → UInt32 → Chains
  | ⟨heads, tails, entries⟩, hash =>
    let slot := entries.size
    attach ⟨heads, tails, entries.push ⟨hash, none⟩⟩ (bucketOf hash heads.size) slot

/-- The chains with a slot that they have already, cut off from where it leads, at the end of the
chain of its hash. -/
def relink : Chains → Nat → Chains
  | ⟨heads, tails, entries⟩, slot =>
    let hash := (entries.getD slot default).hash
    attach ⟨heads, tails, entries.setIfInBounds slot ⟨hash, none⟩⟩ (bucketOf hash heads.size) slot

/-- The same slots in another number of buckets: all links are set anew, slot by slot. -/
def rebucket : Chains → Nat → Chains
  | ⟨_, _, entries⟩, buckets =>
    let slots := entries.size
    slots.fold (fun slot _ chains => chains.relink slot)
      ⟨Array.replicate buckets none, Array.replicate buckets none, entries⟩

/-- The first slot with the given hash, from a slot on along its chain. Links lead to later slots,
which bounds the walk. -/
def find? (entries : Array Entry) (hash : UInt32) : Option Nat → Option Nat
  | none => none
  | some slot =>
    if h : slot < entries.size then
      if entries[slot].hash = hash then some slot
      else match entries[slot].next with
        | none => none
        | some later => if slot < later then find? entries hash (some later) else none
    else none
  termination_by start => start.elim 0 (entries.size + 1 - ·)

theorem bounds_of_find? {entries : Array Entry} {hash : UInt32} {start : Option Nat} {found : Nat}
    (h : find? entries hash start = some found) :
    start.getD found ≤ found ∧ found < entries.size := by
  fun_induction find? entries hash start with
  | case1 => simp at h
  | case2 slot lt _ =>
    cases h
    exact ⟨Nat.le_refl _, lt⟩
  | case3 => simp at h
  | case4 slot lt _ later link le ih =>
    have := ih h
    simp only [Option.getD_some] at this ⊢
    omega
  | case5 => simp at h
  | case6 => simp at h

end Chains

/-! ### The table -/

/-- Why a row could not be inserted. -/
inductive TableError
  /-- Memory was refused; it could be had by moving rows out of memory first. -/
  | retryAfterSpill (refusal : Refusal)
  /-- No slot number is left. -/
  | slotsExhausted (entries : Nat)
  deriving DecidableEq

/-- The wording of a failed insertion. -/
def TableError.message : TableError → String
  | retryAfterSpill ⟨requested, available⟩ =>
    s!"retry after spill: requested {requested} bytes, {available} available"
  | slotsExhausted entries => s!"hash table slot space exhausted at {entries} entries"

/-- The table of build rows. -/
structure SlotTable where
  /-- The slots. -/
  chains : Chains
  /-- The entries for each bucket beyond which the buckets are doubled. -/
  loadFactor : Binary64
  /-- The entries that there is room for. -/
  arenaCapacity : Nat
  /-- How often the buckets were doubled. -/
  resizes : Nat
  /-- Bytes reserved for buckets and entries. -/
  reservedBytes : Nat

namespace SlotTable

/-- Bytes of one bucket, a head and a tail of four bytes each. -/
def bucketBytes : Nat := 8

/-- Bytes of one entry, a hash and a link of four bytes each. -/
def entryBytes : Nat := 8

/-- The least number of entries to make room for. -/
def minArenaStep : Nat := 1024

/-- Slots are numbered below this; the last number of 32 bits is kept to mean no slot. -/
def maxSlots : Nat := UInt32.size - 1

/-- Number of slots. -/
def length (t : SlotTable) : Nat := t.chains.entries.size

/-- Number of buckets. -/
def buckets (t : SlotTable) : Nat := t.chains.heads.size

/-- Reserves the bytes of buckets; a number of bytes past a 64-bit word is never granted. -/
def reserveBuckets (buckets : Nat) (budget : Budget) : Except TableError Budget :=
  if bucketBytes * buckets ≤ wordMax then
    match budget.reserve (bucketBytes * buckets) with
    | .ok granted => .ok granted
    | .error refusal => .error (.retryAfterSpill refusal)
  else .error (.retryAfterSpill ⟨wordMax, budget.available⟩)

/-- An empty table with at least one bucket and at least the given number of them, rounded up to a
power of two. -/
def create (minBuckets : Nat) (loadFactor : Binary64) (budget : Budget) :
    Except TableError (SlotTable × Budget) := do
  let buckets := (max minBuckets 1).nextPowerOfTwo
  let budget ← reserveBuckets buckets budget
  return (⟨.empty buckets, loadFactor, 0, 0, bucketBytes * buckets⟩, budget)

/-- Whether a number of entries is too many for the buckets. Both sides are rounded to
floating-point numbers. -/
def exceeds (t : SlotTable) (entries : Nat) : Bool :=
  ((Binary.ofNat t.buckets).mul t.loadFactor).lt (.ofNat entries)

/-- The table with twice the buckets. -/
def doubled (t : SlotTable) : SlotTable where
  chains := t.chains.rebucket (2 * t.buckets)
  loadFactor := t.loadFactor
  arenaCapacity := t.arenaCapacity
  resizes := t.resizes + 1
  reservedBytes := t.reservedBytes - bucketBytes * t.buckets + bucketBytes * (2 * t.buckets)

variable {budget granted : Budget}

theorem reserve_of_reserveBuckets {n : Nat} (h : reserveBuckets n budget = .ok granted) :
    budget.reserve (bucketBytes * n) = .ok granted := by
  unfold reserveBuckets at h
  split at h
  · split at h
    · next reserved =>
      cases h
      exact reserved
    · simp at h
  · simp at h

/-- Doubles the buckets until one more entry is admitted. The new buckets are reserved before the
old ones are given back. Every doubling leaves less in the budget, so there are few. -/
def makeRoom (t : SlotTable) (budget : Budget) : Except TableError Unit × SlotTable × Budget :=
  if empty : t.buckets = 0 then (.ok (), t, budget)
  else if t.exceeds (t.length + 1) then
    match reservation : reserveBuckets (2 * t.buckets) budget with
    | .error refused => (.error refused, t, budget)
    | .ok granted =>
      have : (granted.release (bucketBytes * t.buckets)).limit -
          (granted.release (bucketBytes * t.buckets)).reserved < budget.limit - budget.reserved := by
        have grant := reserve_of_reserveBuckets reservation
        have fits := Budget.le_limit_reserve grant
        simp only [Budget.limit_release, Budget.reserved_release, Budget.limit_reserve grant,
          Budget.reserved_reserve grant, bucketBytes] at *
        omega
      t.doubled.makeRoom (granted.release (bucketBytes * t.buckets))
  else (.ok (), t, budget)
  termination_by budget.limit - budget.reserved

/-- Makes room for one more entry. -/
def extendArena (t : SlotTable) (budget : Budget) : Except TableError Unit × SlotTable × Budget :=
  if t.length < t.arenaCapacity then (.ok (), t, budget)
  else
    let step := max t.arenaCapacity minArenaStep
    match budget.reserve (entryBytes * step) with
    | .error refusal => (.error (.retryAfterSpill refusal), t, budget)
    | .ok budget =>
      (.ok (), { t with
        arenaCapacity := t.arenaCapacity + step
        reservedBytes := t.reservedBytes + entryBytes * step }, budget)

/-- The table with a new slot for a hash. -/
def append (t : SlotTable) (hash : UInt32) : SlotTable :=
  match t with
  | ⟨chains, loadFactor, arenaCapacity, resizes, reservedBytes⟩ =>
    ⟨chains.append hash, loadFactor, arenaCapacity, resizes, reservedBytes⟩

/-- Inserts a hash and says which slot it has. A refused insertion adds no slot. -/
def insert (t : SlotTable) (hash : UInt32) (budget : Budget) :
    Except TableError Nat × SlotTable × Budget :=
  let slot := t.length
  if maxSlots ≤ slot then (.error (.slotsExhausted slot), t, budget)
  else match t.makeRoom budget with
    | (.error e, t, budget) => (.error e, t, budget)
    | (.ok (), t, budget) =>
      match t.extendArena budget with
      | (.error e, t, budget) => (.error e, t, budget)
      | (.ok (), t, budget) => (.ok slot, t.append hash, budget)

/-! ### Looking up -/

/-- The first slot of a hash. -/
def first? (t : SlotTable) (hash : UInt32) : Option Nat :=
  Chains.find? t.chains.entries hash (t.chains.heads.getD (Chains.bucketOf hash t.buckets) none)

/-- The next slot of a hash behind the given one, along its chain. -/
def next? (t : SlotTable) (slot : Nat) (hash : UInt32) : Option Nat :=
  if h : slot < t.length then
    match t.chains.entries[slot].next with
    | some later => if slot < later then Chains.find? t.chains.entries hash (some later) else none
    | none => none
  else none

theorem bounds_of_next? {t : SlotTable} {slot later : Nat} {hash : UInt32}
    (h : t.next? slot hash = some later) : slot < later ∧ later < t.length := by
  unfold next? at h
  split at h
  · split at h
    · split at h
      · next lt =>
        have := Chains.bounds_of_find? h
        simp only [Option.getD_some] at this
        exact ⟨Nat.lt_of_lt_of_le lt this.1, this.2⟩
      · simp at h
    · simp at h
  · simp at h

/-- The slots of a hash from one on. -/
def lookupFrom (t : SlotTable) (hash : UInt32) : Option Nat → List Nat
  | none => []
  | some slot =>
    slot :: match found : t.next? slot hash with
      | none => []
      | some later =>
        have := bounds_of_next? found
        t.lookupFrom hash (some later)
  termination_by start => start.elim 0 (t.length + 1 - ·)
  decreasing_by simp only [Option.elim_some]; omega

/-- The slots of a hash, in order of insertion. -/
def lookup (t : SlotTable) (hash : UInt32) : List Nat := t.lookupFrom hash (t.first? hash)

/-! ### The end -/

/-- Drops all slots and buckets and gives their bytes back. -/
def clear (t : SlotTable) (budget : Budget) : SlotTable × Budget :=
  (⟨.empty 0, t.loadFactor, 0, t.resizes, 0⟩, budget.release t.reservedBytes)

end SlotTable

/-! ### Statistics -/

/-- A span of time. -/
structure Duration where
  /-- Whole seconds. -/
  seconds : Nat
  /-- Nanoseconds beyond them. -/
  nanoseconds : Nat
  deriving DecidableEq

/-- The span in whole microseconds, as far as a 64-bit counter goes. -/
def Duration.microseconds (d : Duration) : Nat :=
  min (d.seconds * 1000000 + d.nanoseconds / 1000) wordMax

/-- The shape of a table. -/
structure TableStats where
  /-- Number of buckets. -/
  buckets : Nat
  /-- Number of slots. -/
  entries : Nat
  /-- How often the buckets were doubled. -/
  resizes : Nat
  /-- The time that the doublings took. -/
  resizeTime : Duration
  deriving DecidableEq

/-- The shape of a table. The table has no clock, so its doublings take no time. -/
def SlotTable.stats (t : SlotTable) : TableStats := ⟨t.buckets, t.length, t.resizes, ⟨0, 0⟩⟩

end HashJoin
