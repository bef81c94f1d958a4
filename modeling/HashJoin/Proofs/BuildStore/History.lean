import HashJoin.Proofs.BuildStore.Serving

/-!
# The history of a store

A store changes its parts one after the other, and pays out of a budget that is not its own. Done in place,
what an operation has changed stays changed when it is refused later. It turns out that each is refused
before it changes anything, so it can be taken for a function that has a new store as its result, or none.
What a store holds is then told by the calls that were granted since it was last cleared.

## Main definitions

* `BuildStore.InPlace`, `BuildStore.Op`, `BuildStore.Op.inPlace` — the operations, one change at a time.
* `BuildStore.Call`, `BuildStore.perform`, `BuildStore.performAll` — operations under any budgets.
* `BuildStore.grants` — the batches that were granted since the store was last cleared, with their indices.
* `BuildStore.Holds` — the invariant between a store and the batches that were granted.
* `BuildStore.Tells` — how a store answers that holds some batches.

## Main results

* `absorb_inPlace`, `capture_inPlace` — a refused operation has changed nothing.
* `clear_inPlace` — clearing is never refused.
* `holds_perform` — a call keeps the invariant.
* `holds_of_performAll` — after any calls a store holds what was granted, and answers accordingly.
-/

namespace HashJoin
namespace BuildStore

/-! ### One change at a time -/

/-- A store, and the budget that pays for it. -/
structure Paid where
  /-- The store. -/
  store : BuildStore
  /-- The budget. -/
  budget : Budget

/-- An operation in place. What it has changed when it is refused stays changed. -/
abbrev InPlace : Type → Type := EStateM JoinError Paid

namespace InPlace

/-- Passes a check, or is refused with it. -/
def check : Except JoinError Unit → InPlace Unit
  | .ok () => pure ()
  | .error e => throw e

/-- Changes the store. -/
def edit (f : BuildStore → BuildStore) : InPlace Unit := modify fun p => { p with store := f p.store }

/-- Reserves the bytes of a batch. -/
def pay (bytes : Nat) : InPlace Unit := do
  match (← get).budget.reserve bytes with
  | .ok granted => modify fun p => { p with budget := granted }
  | .error refusal => throw (.ofRefusal .batch refusal)

end InPlace

/-- An operation that changes a store. -/
inductive Op
  /-- A schema is captured. -/
  | capture (schema : Schema)
  /-- A batch is absorbed. -/
  | absorb (batch : Batch)
  /-- All batches are dropped. -/
  | clear

open InPlace

/-- What an operation does in place, one change after the other. The result is the index of a batch that
was absorbed. -/
def Op.inPlace : Op → InPlace (Option Nat)
  | capture schema => do
    let store := (← get).store
    if !store.batches.isEmpty then throw (.internal .schemaFixed)
    edit fun s => { s with schema := some schema }
    return none
  | absorb batch => do
    let store := (← get).store
    check (store.inspect batch)
    if maxBatches ≤ store.nextIndex then throw (.unsupported .build .batchCount)
    pay batch.memorySize
    if store.schema.isNone then edit fun s => { s with schema := some batch.schema }
    edit fun s => { s with reservedBytes := s.reservedBytes + batch.memorySize }
    edit fun s => { s with rowCount := s.rowCount + batch.rowCount }
    edit fun s => { s with batches := s.batches.push batch }
    return some store.nextIndex
  | clear => do
    modify fun p => { p with budget := p.budget.release p.store.reservedBytes }
    edit fun s => { s with reservedBytes := 0 }
    edit fun s => { s with rowCount := 0 }
    edit fun s => { s with batches := #[] }
    return none

section

variable (s : BuildStore) (budget : Budget)

theorem get_eq (p : Paid) : (get : InPlace Paid) p = .ok p p := rfl

theorem pay_eq (bytes : Nat) : pay bytes ⟨s, budget⟩ =
    match budget.reserve bytes with
    | .ok granted => .ok () ⟨s, granted⟩
    | .error refusal => .error (.ofRefusal .batch refusal) ⟨s, budget⟩ := by
  simp only [pay, bind, EStateM.bind, get_eq]
  cases budget.reserve bytes <;> rfl

/-- A batch is refused before anything has changed. -/
theorem absorb_inPlace (batch : Batch) : (Op.absorb batch).inPlace.run ⟨s, budget⟩ =
    match s.absorb batch budget with
    | .ok (index, s', left) => .ok (some index) ⟨s', left⟩
    | .error e => .error e ⟨s, budget⟩ := by
  simp only [Op.inPlace, EStateM.run, bind, EStateM.bind, get_eq]
  cases hok : s.inspect batch with
  | error e =>
    have habsorb : s.absorb batch budget = .error e := by
      rw [absorb, hok]
      rfl
    rw [habsorb]
    rfl
  | ok _ =>
    by_cases hindex : s.nextIndex < maxBatches
    · rw [absorb_eq hok hindex]
      simp only [check, pure, EStateM.pure, if_neg (Nat.not_le_of_lt hindex), pay_eq, EStateM.bind]
      cases budget.reserve batch.memorySize with
      | error refusal => rfl
      | ok granted =>
        obtain ⟨schema, batches, rowCount, reservedBytes⟩ := s
        cases schema <;> rfl
    · have habsorb : s.absorb batch budget = .error (.unsupported .build .batchCount) := by
        rw [absorb, hok]
        simp only [bind, Except.bind]
        rw [if_pos (Nat.le_of_not_lt hindex)]
        rfl
      rw [habsorb]
      simp only [check, if_pos (Nat.le_of_not_lt hindex)]
      rfl

/-- A schema is refused before anything has changed. -/
theorem capture_inPlace (schema : Schema) : (Op.capture schema).inPlace.run ⟨s, budget⟩ =
    match s.captureSchema schema with
    | .ok s' => .ok none ⟨s', budget⟩
    | .error e => .error e ⟨s, budget⟩ := by
  simp only [Op.inPlace, EStateM.run, bind, EStateM.bind, get_eq, captureSchema]
  cases s.batches.isEmpty <;> rfl

/-- All batches are dropped, and their bytes released. -/
theorem clear_inPlace : Op.clear.inPlace.run ⟨s, budget⟩ =
    .ok none ⟨(s.clear budget).1, (s.clear budget).2⟩ := rfl

end

/-! ### Calls -/

/-- An operation, under whatever budget its caller has. -/
structure Call where
  /-- The operation. -/
  op : Op
  /-- The budget. -/
  budget : Budget

/-- What a call answers, and the store and the budget after it. -/
def perform (s : BuildStore) (call : Call) : Except JoinError (Option Nat) × Paid :=
  match call.op.inPlace.run ⟨s, call.budget⟩ with
  | .ok answer after => (.ok answer, after)
  | .error e after => (.error e, after)

/-- The store after some calls. -/
def performAll (s : BuildStore) : List Call → BuildStore
  | [] => s
  | call :: calls => (s.perform call).2.store.performAll calls

/-- The batches that count as granted after an operation with some answer, with their indices. -/
def Op.note (held : List (Nat × Batch)) : Op → Except JoinError (Option Nat) → List (Nat × Batch)
  | absorb batch, .ok (some index) => held ++ [(index, batch)]
  | clear, _ => []
  | _, _ => held

/-- The batches that were granted by some calls, and some before, since the store was last cleared. Each
has the index that its call answered. -/
def grants (s : BuildStore) (held : List (Nat × Batch)) : List Call → List (Nat × Batch)
  | [] => held
  | call :: calls =>
    let (answer, after) := s.perform call
    after.store.grants (call.op.note held answer) calls

section

variable {s : BuildStore} {held : List (Nat × Batch)}

/-- A batch is absorbed as a whole, or not at all. -/
theorem perform_absorb (batch : Batch) (budget : Budget) : s.perform ⟨.absorb batch, budget⟩ =
    match s.absorb batch budget with
    | .ok (index, s', left) => (.ok (some index), ⟨s', left⟩)
    | .error e => (.error e, ⟨s, budget⟩) := by
  rw [perform, absorb_inPlace]
  cases s.absorb batch budget <;> rfl

/-- A schema is captured, or nothing changes. -/
theorem perform_capture (schema : Schema) (budget : Budget) : s.perform ⟨.capture schema, budget⟩ =
    match s.captureSchema schema with
    | .ok s' => (.ok none, ⟨s', budget⟩)
    | .error e => (.error e, ⟨s, budget⟩) := by
  rw [perform, capture_inPlace]
  cases s.captureSchema schema <;> rfl

/-- The batches are dropped under any budget. -/
theorem perform_clear (budget : Budget) : s.perform ⟨.clear, budget⟩ =
    (.ok none, ⟨(s.clear budget).1, (s.clear budget).2⟩) := by
  rw [perform, clear_inPlace]

/-- **Refused calls.** They leave the store and the budget as they were. -/
theorem perform_of_error {call : Call} {e : JoinError} (h : (s.perform call).1 = .error e) :
    (s.perform call).2 = ⟨s, call.budget⟩ := by
  obtain ⟨op, budget⟩ := call
  cases op with
  | capture schema =>
    rw [perform_capture] at h ⊢
    split at h
    · cases h
    · rfl
  | absorb batch =>
    rw [perform_absorb] at h ⊢
    split at h
    · cases h
    · rfl
  | clear =>
    rw [perform_clear] at h
    cases h

theorem captureSchema_eq_ok_iff {schema : Schema} {s' : BuildStore} : s.captureSchema schema = .ok s' ↔
    s.batches = #[] ∧ s' = { s with schema := some schema } := by
  unfold captureSchema
  by_cases hempty : s.batches = #[]
  · simp [hempty, eq_comm]
  · simp [hempty]

/-! ### What a store holds -/

/-- A number that every batch has, for all batches together. -/
def total (size : Batch → Nat) : List Batch → Nat
  | [] => 0
  | batch :: batches => size batch + total size batches

theorem total_concat (size : Batch → Nat) (batches : List Batch) (batch : Batch) :
    total size (batches ++ [batch]) = total size batches + size batch := by
  induction batches with
  | nil => exact Nat.add_comm (size batch) 0
  | cons first batches ih => rw [List.cons_append, total, total, ih, Nat.add_assoc]

/-- The store holds the batches that were granted, under the indices that were answered. -/
structure Holds (s : BuildStore) (held : List (Nat × Batch)) : Prop where
  /-- The batches, in order. -/
  batches : s.batches.toList = held.map Prod.snd
  /-- The indices count from zero. -/
  indices : held.map Prod.fst = List.range held.length
  /-- Every index is a number of 32 bits. -/
  length_le : held.length ≤ maxBatches
  /-- All rows of a batch are active. -/
  dense : ∀ batch ∈ held.map Prod.snd, batch.isDense = true
  /-- They can be addressed. -/
  small : ∀ batch ∈ held.map Prod.snd, batch.rowCount ≤ maxBatchRows
  /-- The batches are of the schema of the store. -/
  schema : ∀ batch ∈ held.map Prod.snd, s.schema = some batch.schema
  /-- Their rows are counted. -/
  rowCount : s.rowCount = total Batch.rowCount (held.map Prod.snd)
  /-- Their bytes are counted. -/
  reservedBytes : s.reservedBytes = total Batch.memorySize (held.map Prod.snd)

theorem holds_empty : empty.Holds [] := ⟨rfl, rfl, Nat.zero_le _, nofun, nofun, nofun, rfl, rfl⟩

theorem holds_clear (s : BuildStore) (budget : Budget) : (s.clear budget).1.Holds [] :=
  ⟨rfl, rfl, Nat.zero_le _, nofun, nofun, nofun, rfl, rfl⟩

theorem Holds.size_eq (h : s.Holds held) : s.batches.size = held.length := by
  rw [← Array.length_toList, h.batches, List.length_map]

/-- A batch that was accepted comes behind the others. -/
theorem holds_push {batch : Batch} (h : s.Holds held) (hok : s.inspect batch = .ok ())
    (hindex : s.nextIndex < maxBatches) : (s.push batch).Holds (held ++ [(s.nextIndex, batch)]) := by
  obtain ⟨hdense, hsmall, hschema⟩ := inspect_eq_ok_iff.mp hok
  have hmem : ∀ {other}, other ∈ (held ++ [(s.nextIndex, batch)]).map Prod.snd →
      other ∈ held.map Prod.snd ∨ other = batch := by
    intro other hother
    simpa using hother
  refine ⟨?_, ?_, ?_, ?_, ?_, ?_, ?_, ?_⟩
  · rw [push, Array.toList_push, h.batches, List.map_append]
    rfl
  · rw [List.map_append, h.indices, List.length_append, List.length_singleton, List.range_succ,
      nextIndex, h.size_eq]
    rfl
  · rw [nextIndex, h.size_eq] at hindex
    rw [List.length_append]
    exact hindex
  · intro other hother
    rcases hmem hother with hold | rfl
    · exact h.dense other hold
    · exact hdense
  · intro other hother
    rcases hmem hother with hold | rfl
    · exact h.small other hold
    · exact hsmall
  · intro other hother
    rcases hmem hother with hold | rfl
    · rw [push, h.schema other hold]
      rfl
    -- the schema of the store is that of the batch, or there was none
    · cases hsome : s.schema with
      | none => rw [push, hsome]; rfl
      | some expected => rw [push, hsome, hschema expected hsome]; rfl
  · rw [push, h.rowCount, List.map_append]
    exact (total_concat _ _ _).symm
  · rw [push, h.reservedBytes, List.map_append]
    exact (total_concat _ _ _).symm

/-- A call keeps the invariant. -/
theorem holds_perform (h : s.Holds held) (call : Call) :
    (s.perform call).2.store.Holds (call.op.note held (s.perform call).1) := by
  obtain ⟨op, budget⟩ := call
  cases op with
  | capture schema =>
    rw [perform_capture]
    split
    · next hcapture =>
      obtain ⟨hnone, rfl⟩ := captureSchema_eq_ok_iff.mp hcapture
      have hheld : held = [] := by
        apply List.eq_nil_of_length_eq_zero
        rw [← h.size_eq, hnone]
        rfl
      subst hheld
      exact ⟨h.batches, rfl, h.length_le, nofun, nofun, nofun, h.rowCount, h.reservedBytes⟩
    · exact h
  | absorb batch =>
    rw [perform_absorb]
    split
    · next habsorb =>
      obtain ⟨hok, hindex, -, rfl, rfl⟩ := absorb_eq_ok_iff.mp habsorb
      exact holds_push h hok hindex
    · exact h
  | clear =>
    rw [perform_clear]
    exact holds_clear s budget

theorem holds_grants (h : s.Holds held) (calls : List Call) :
    (s.performAll calls).Holds (s.grants held calls) := by
  induction calls generalizing s held with
  | nil => exact h
  | cons call calls ih => exact ih (holds_perform h call)

/-! ### What a store answers -/

/-- How a store answers that holds some batches. -/
structure Tells (s : BuildStore) (held : List (Nat × Batch)) : Prop where
  /-- The index of the next batch is the number of batches. -/
  nextIndex : s.nextIndex = held.length
  /-- A batch is absorbed under the next index if it is dense, small enough and of the schema, if there is
  one, and if there is an index left, and bytes. -/
  absorb : ∀ batch budget index, (s.perform ⟨.absorb batch, budget⟩).1 = .ok (some index) ↔
    (batch.isDense = true ∧ batch.rowCount ≤ maxBatchRows ∧
      ∀ schema, s.schema = some schema → batch.schema = schema) ∧
      held.length < maxBatches ∧ batch.memorySize ≤ budget.limit - budget.reserved ∧ index = s.nextIndex
  /-- Its bytes are reserved. -/
  paid : ∀ batch budget index, (s.perform ⟨.absorb batch, budget⟩).1 = .ok (some index) →
    budget.reserve batch.memorySize = .ok (s.perform ⟨.absorb batch, budget⟩).2.budget
  /-- A schema is captured if there are no batches. -/
  capture : ∀ schema budget, (s.perform ⟨.capture schema, budget⟩).1 = .ok none ↔ held = []
  /-- A reference leads to its row if there is the batch and it has the row. -/
  row : ∀ ref batch row, s.row ref = .ok (batch, row) ↔
    held[ref.batch]?.map Prod.snd = some batch ∧ ref.row < batch.rowCount ∧ row = ref.row
  /-- It leads there whatever is called later, until the store is cleared. -/
  stays : ∀ ref found, s.row ref = .ok found → ∀ later : List Call, (∀ call ∈ later, call.op ≠ .clear) →
    (s.performAll later).row ref = .ok found
  /-- Otherwise it dangles. -/
  dangling : ∀ ref, (∀ batch, held[ref.batch]?.map Prod.snd = some batch → batch.rowCount ≤ ref.row) →
    s.row ref = .error (.internal (.danglingRow ref))
  /-- A refused call leaves the store and the budget as they were. -/
  refused : ∀ call e, (s.perform call).1 = .error e → (s.perform call).2 = ⟨s, call.budget⟩

theorem Holds.batch?_eq (h : s.Holds held) (index : Nat) :
    s.batch? index = held[index]?.map Prod.snd := by
  rw [batch?, ← Array.getElem?_toList, h.batches, List.getElem?_map]

theorem row_eq_ok_iff {ref : RowRef} {batch : Batch} {row : Nat} : s.row ref = .ok (batch, row) ↔
    s.batch? ref.batch = some batch ∧ ref.row < batch.rowCount ∧ row = ref.row := by
  unfold BuildStore.row
  cases s.batch? ref.batch with
  | none => simp
  | some other =>
    by_cases hrow : ref.row < other.rowCount
    · simp only [if_pos hrow, Except.ok.injEq, Prod.mk.injEq, Option.some.injEq]
      constructor
      · rintro ⟨rfl, rfl⟩
        exact ⟨rfl, hrow, rfl⟩
      · rintro ⟨rfl, -, rfl⟩
        exact ⟨rfl, rfl⟩
    · simp only [if_neg hrow, Option.some.injEq, reduceCtorEq, false_iff]
      rintro ⟨rfl, hlt, -⟩
      exact hrow hlt

/-- A row stays where it is, unless the store is cleared. -/
theorem row_perform {call : Call} {ref : RowRef} {found : Batch × Nat} (hkeeps : call.op ≠ .clear)
    (h : s.row ref = .ok found) : (s.perform call).2.store.row ref = .ok found := by
  obtain ⟨op, budget⟩ := call
  cases op with
  | capture schema =>
    rw [perform_capture]
    split
    · next hcapture =>
      obtain ⟨-, rfl⟩ := captureSchema_eq_ok_iff.mp hcapture
      exact h
    · exact h
  | absorb batch =>
    rw [perform_absorb]
    split
    · next habsorb =>
      obtain ⟨-, -, -, -, rfl⟩ := absorb_eq_ok_iff.mp habsorb
      obtain ⟨hbatch, hrow, hplace⟩ := row_eq_ok_iff.mp h
      exact row_eq_ok_iff.mpr ⟨batch?_push hbatch, hrow, hplace⟩
    · exact h
  | clear => exact absurd rfl hkeeps

theorem row_performAll {ref : RowRef} {found : Batch × Nat} (h : s.row ref = .ok found) (later : List Call)
    (hkeeps : ∀ call ∈ later, call.op ≠ .clear) : (s.performAll later).row ref = .ok found := by
  induction later generalizing s with
  | nil => exact h
  | cons call later ih =>
    exact ih (row_perform (hkeeps call List.mem_cons_self) h)
      fun other hother => hkeeps other (List.mem_cons_of_mem _ hother)

/-- A store answers as the batches say that it holds. -/
theorem Holds.tells (h : s.Holds held) : s.Tells held where
  nextIndex := h.size_eq
  absorb batch budget index := by
    have hnext : s.nextIndex = held.length := h.size_eq
    rw [perform_absorb, ← inspect_eq_ok_iff, ← hnext]
    constructor
    · intro hgranted
      split at hgranted
      · next habsorb =>
        cases hgranted
        obtain ⟨hok, hindex, hres, rfl, -⟩ := absorb_eq_ok_iff.mp habsorb
        exact ⟨hok, hindex, Budget.le_limit_reserve hres, rfl⟩
      · cases hgranted
    · rintro ⟨hok, hindex, hfits, rfl⟩
      have hres := Budget.reserve_eq_ok_iff.mpr ⟨hfits, rfl⟩
      rw [absorb_eq_ok_iff.mpr ⟨hok, hindex, hres, rfl, rfl⟩]
  paid batch budget index hgranted := by
    rw [perform_absorb] at hgranted ⊢
    split at hgranted
    · next habsorb => exact (absorb_eq_ok_iff.mp habsorb).2.2.1
    · cases hgranted
  capture schema budget := by
    rw [perform_capture, captureSchema]
    rw [← List.length_eq_zero_iff, ← h.size_eq, Array.isEmpty]
    by_cases hsize : s.batches.size = 0
    · simp [hsize]
    · simp [hsize]
  row ref batch row := by rw [row_eq_ok_iff, h.batch?_eq]
  stays ref found hfound later := row_performAll hfound later
  dangling ref hnone := by
    rw [BuildStore.row, h.batch?_eq]
    split
    · next batch hbatch => rw [if_neg (Nat.not_lt_of_le (hnone batch hbatch))]
    · rfl
  refused call e := perform_of_error

/-- **What a store holds.** After any calls, under any budgets, refused ones included, the store holds the
batches that were granted since it was last cleared: each dense, small enough and of its schema, under the
indices from zero on that were answered, with their rows and bytes added up. It tells which batch is granted
next and under which index; a reference leads to the row of its batch, and still does after later calls; and
a call that is refused changes neither the store nor the budget. -/
theorem holds_of_performAll (calls : List Call) :
    (empty.performAll calls).Holds (empty.grants [] calls) ∧
      (empty.performAll calls).Tells (empty.grants [] calls) :=
  ⟨holds_grants holds_empty calls, (holds_grants holds_empty calls).tells⟩

end

end BuildStore
end HashJoin
