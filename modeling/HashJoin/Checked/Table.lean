import HashJoin.BuildStore
import HashJoin.Checked
import HashJoin.MatchLedger
import HashJoin.RowWriter
import HashJoin.SlotTable

/-!
# The checked build side

The table is indexed by buckets and by slots, the ledger by the words of its bits. The ledger takes slots
in order only, the store takes no schema once it has batches and gives no row that it has not stored, and a
batch is numbered by a word of 32 bits. Here is every operation of the three with all of that checked.

## Main definitions

* `Checked.first`, `Checked.next`, `Checked.insert` — the slots of a hash, and one more.
* `Checked.link`, `Checked.mark`, `Checked.nextUnmatched` — the ledger.
* `Checked.captureSchema`, `Checked.nextIndex`, `Checked.absorb`, `Checked.slotRow` — the store.
-/

namespace HashJoin
namespace Checked

/-! ### Chains -/

/-- The chains with a slot, which leads nowhere, behind the last slot of a bucket. -/
def attach (c : Chains) (bucket slot : Nat) : Checked Chains := do
  match ← readAt .bucket c.tails bucket with
  | none =>
    let heads ← writeAt .bucket c.heads bucket (some slot)
    let tails ← writeAt .bucket c.tails bucket (some slot)
    return ⟨heads, tails, c.entries⟩
  | some last =>
    let entries ← modifyAt .entry c.entries last fun e => ⟨e.hash, some slot⟩
    let tails ← writeAt .bucket c.tails bucket (some slot)
    return ⟨c.heads, tails, entries⟩

/-- The chains with a new slot at the end of the chain of its hash. -/
def appendHash (c : Chains) (hash : UInt32) : Checked Chains :=
  attach ⟨c.heads, c.tails, c.entries.push ⟨hash, none⟩⟩ (Chains.bucketOf hash c.heads.size)
    c.entries.size

/-- The chains with a slot that they have already, cut off from where it leads, at the end of the
chain of its hash. -/
def relink (c : Chains) (slot : Nat) : Checked Chains := do
  let entry ← readAt .entry c.entries slot
  let entries ← writeAt .entry c.entries slot ⟨entry.hash, none⟩
  attach ⟨c.heads, c.tails, entries⟩ (Chains.bucketOf entry.hash c.heads.size) slot

/-- The same slots in another number of buckets: all links are set anew, slot by slot. -/
def rebucket (c : Chains) (buckets : Nat) : Checked Chains :=
  (List.range c.entries.size).foldlM relink
    ⟨Array.replicate buckets none, Array.replicate buckets none, c.entries⟩

/-- One round of a search: a slot has the hash, or leads to another one. -/
def scanRound (entries : Array Entry) (hash : UInt32) : Option Nat → Checked (Option Nat ⊕ Option Nat)
  | none => return .inr none
  | some slot => do
    let entry ← readAt .entry entries slot
    return if entry.hash = hash then .inr (some slot) else .inl entry.next

/-- The first slot with the given hash, from a slot on along its chain. -/
def scan (entries : Array Entry) (hash : UInt32) (start : Option Nat) : Checked (Option Nat) :=
  repeatM (scanRound entries hash) start

/-! ### The table -/

/-- The table with twice the buckets. -/
def double (t : SlotTable) : Checked SlotTable := do
  let chains ← rebucket t.chains (2 * t.buckets)
  return { t with
    chains := chains
    resizes := t.resizes + 1
    reservedBytes := t.reservedBytes - SlotTable.bucketBytes * t.buckets +
      SlotTable.bucketBytes * (2 * t.buckets) }

/-- Doubles the buckets once, unless one more entry is admitted. -/
def roomRound : SlotTable × Budget →
    Checked (SlotTable × Budget ⊕ (Except TableError Unit × SlotTable × Budget))
  | (t, budget) =>
    if t.exceeds (t.length + 1) then
      match SlotTable.reserveBuckets (2 * t.buckets) budget with
      | .error refused => return .inr (.error refused, t, budget)
      | .ok granted => do
        let doubled ← double t
        return .inl (doubled, granted.release (SlotTable.bucketBytes * t.buckets))
    else return .inr (.ok (), t, budget)

/-- Doubles the buckets until one more entry is admitted. -/
def makeRoom (t : SlotTable) (budget : Budget) :
    Checked (Except TableError Unit × SlotTable × Budget) :=
  have : Nonempty (Except TableError Unit × SlotTable × Budget) := ⟨.ok (), t, budget⟩
  repeatM roomRound (t, budget)

/-- Inserts a hash and says which slot it has. -/
def insert (t : SlotTable) (hash : UInt32) (budget : Budget) :
    Checked (Except TableError Nat × SlotTable × Budget) :=
  let slot := t.length
  if SlotTable.maxSlots ≤ slot then return (.error (.slotsExhausted slot), t, budget)
  else do
    match ← makeRoom t budget with
    | (.error e, t, budget) => return (.error e, t, budget)
    | (.ok (), t, budget) =>
      match t.extendArena budget with
      | (.error e, t, budget) => return (.error e, t, budget)
      | (.ok (), t, budget) =>
        let chains ← appendHash t.chains hash
        return (.ok slot, { t with chains := chains }, budget)

/-- The first slot of a hash. -/
def first (t : SlotTable) (hash : UInt32) : Checked (Option Nat) := do
  let head ← readAt .bucket t.chains.heads (Chains.bucketOf hash t.buckets)
  scan t.chains.entries hash head

/-- The next slot of a hash behind the given one, along its chain. -/
def next (t : SlotTable) (slot : Nat) (hash : UInt32) : Checked (Option Nat) :=
  match t.chains.entries[slot]? with
  | none => return none
  | some entry => scan t.chains.entries hash entry.next

/-! ### The ledger -/

/-- Records the row of a slot. -/
def link (l : MatchLedger) (slot : Nat) (ref : RowRef) (budget : Budget) :
    Checked (Except JoinError Unit × MatchLedger × Budget) :=
  if slot ≠ l.length then defect (.internal (.slotOrder l.length slot))
  else match l.makeRoom budget with
    | (.error e, l, budget) => return (.error e, l, budget)
    | (.ok (), l, budget) => return (.ok (), l.append ref, budget)

/-- Marks the row of a slot as matched. -/
def mark (l : MatchLedger) (slot : Nat) : Checked MatchLedger :=
  if l.length ≤ slot then return l
  else do
    let word ← readAt .word l.words (slot / MatchLedger.wordBits)
    let isFresh := !word.toNat.testBit (slot % MatchLedger.wordBits)
    let words ← modifyAt .word l.words (slot / MatchLedger.wordBits) (· ||| MatchLedger.bitOf slot)
    return { l with
      words := words
      matchedCount := if isFresh then l.matchedCount + 1 else l.matchedCount }

/-- The first slot from the given one on whose row has not been matched. -/
def nextUnmatched (l : MatchLedger) (slot : Nat) : Checked (Option Nat) :=
  if slot < l.length then do
    let word ← readAt .word l.words (slot / MatchLedger.wordBits)
    let free := ~~~word.toBitVec >>> (slot % MatchLedger.wordBits)
    if free = 0 then nextUnmatched l ((slot / MatchLedger.wordBits + 1) * MatchLedger.wordBits)
    else
      let candidate := slot + free.ctz.toNat
      return if candidate < l.length then some candidate else none
  else return none
  termination_by l.length - slot
  decreasing_by simp only [MatchLedger.wordBits] at *; omega

/-! ### The store -/

/-- Sets the schema of a store without batches. -/
def captureSchema (s : BuildStore) (schema : Schema) : Checked BuildStore :=
  if s.batches.isEmpty then return { s with schema := some schema }
  else defect (.internal .schemaFixed)

/-- The index that the next batch will have, a word of 32 bits. -/
def nextIndex (s : BuildStore) : Nat := (UInt32.ofNat s.batches.size).toNat

/-- Stores a batch, and says which index it has. -/
def absorb (s : BuildStore) (batch : Batch) (budget : Budget) :
    Checked (Except JoinError (Nat × BuildStore × Budget)) :=
  match s.inspect batch with
  | .error e => return .error e
  | .ok () =>
    if BuildStore.maxBatches ≤ s.batches.size then defect (.unsupported .build .batchCount)
    else return s.absorb batch budget

/-- The batch of a reference, and the place of the row in it. -/
def refRow (s : BuildStore) (ref : RowRef) : Checked BatchRow :=
  match s.batch? ref.batch with
  | some batch =>
    if ref.row < batch.rowCount then return (batch, ref.row)
    else defect (.internal (.danglingRow ref))
  | none => defect (.internal (.danglingRow ref))

/-- The build row of a slot. -/
def slotRow (s : BuildStore) (l : MatchLedger) (slot : Nat) : Checked BatchRow :=
  match l.rowRef? slot with
  | none => defect (.internal (.unlinkedSlot slot))
  | some ref => refRow s ref

end Checked
end HashJoin
