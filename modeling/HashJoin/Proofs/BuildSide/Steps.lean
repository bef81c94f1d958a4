import HashJoin.BuildSide

/-!
# Steps of the build phase

What taking in one batch can come to, and what the whole phase can come to. Every place where a step
can stop is named once here, with what the build side is then, and what is said of the phase
elsewhere goes through these places.

## Main definitions

* `OutOfMemory` — a result that is a refusal of memory.
* `Loading.Accepting`, `Loading.Inserting`, `Loading.Fills` — where a step can stop.

## Main results

* `accepting_of_accept`, `inserting_of_insertBatch`, `fills_of_fill` — a step stops at one of these.
-/

namespace HashJoin

/-! ### Refusals of memory -/

/-- The result is a refusal of memory. -/
def OutOfMemory {α : Type} (result : Except JoinError α) : Prop :=
  ∃ use requested available, result = .error (.outOfMemory use requested available)

theorem outOfMemory_ofRefusal {α : Type} (use : MemoryUse) (refusal : Refusal) :
    OutOfMemory (.error (.ofRefusal use refusal) : Except JoinError α) :=
  ⟨use, refusal.requested, refusal.available, rfl⟩

theorem OutOfMemory.eq_mk {α β : Type} {run : Except JoinError α × β} (h : OutOfMemory run.1) :
    ∃ use requested available rest, run = (.error (.outOfMemory use requested available), rest) := by
  obtain ⟨result, rest⟩ := run
  obtain ⟨use, requested, available, rfl⟩ := h
  exact ⟨use, requested, available, rest, rfl⟩

namespace Loading

variable {config : Config} {probeSchema : Option Schema} {batch : Batch} {l l' : Loading}
  {result : Except JoinError Unit}

/-! ### One batch -/

/-- The keys are resolved before the table is created. -/
theorem openTable_eq_ok {table : SlotTable} {keys : JoinKeys} {budget : Budget}
    (h : openTable config probeSchema l = .ok (table, keys, budget)) :
    JoinKeys.resolve config.conditions l.store.schema probeSchema = .ok keys ∧
      SlotTable.create config.minBuckets config.loadFactor l.budget = .ok (table, budget) := by
  rw [openTable] at h
  cases hkeys : JoinKeys.resolve config.conditions l.store.schema probeSchema with
  | error e =>
    rw [hkeys] at h
    cases h
  | ok keys' =>
    cases hnew : SlotTable.create config.minBuckets config.loadFactor l.budget with
    | error e =>
      rw [hkeys, hnew] at h
      cases h
    | ok made =>
      rw [hkeys, hnew] at h
      cases h
      exact ⟨rfl, rfl⟩

/-- Where inserting a batch can stop. -/
inductive Inserting (table : SlotTable) (keys : JoinKeys) (batch : Batch) (l : Loading) :
    Except JoinError Unit → Loading → Prop
  /-- A row is refused. -/
  | refused {e : JoinError} {table' : SlotTable} {ledger : MatchLedger} {budget : Budget}
      (hrows : insertRows keys batch l.store.nextIndex 0 table l.ledger l.budget =
        (.error e, table', ledger, budget)) :
      Inserting table keys batch l (.error e)
        ⟨some (table', keys), ledger, l.store, budget, l.metrics⟩
  /-- All rows are in, and the batch is refused. -/
  | unstored {e : JoinError} {table' : SlotTable} {ledger : MatchLedger} {budget : Budget}
      (hrows : insertRows keys batch l.store.nextIndex 0 table l.ledger l.budget =
        (.ok (), table', ledger, budget)) (habsorb : l.store.absorb batch budget = .error e) :
      Inserting table keys batch l (.error e)
        ⟨some (table', keys), ledger, l.store, budget, l.metrics⟩
  /-- The batch is stored. -/
  | stored {index : Nat} {table' : SlotTable} {ledger : MatchLedger} {store : BuildStore}
      {budget budget' : Budget}
      (hrows : insertRows keys batch l.store.nextIndex 0 table l.ledger l.budget =
        (.ok (), table', ledger, budget))
      (habsorb : l.store.absorb batch budget = .ok (index, store, budget')) :
      Inserting table keys batch l (.ok ())
        ⟨some (table', keys), ledger, store, budget', l.metrics.recordBuild batch.rowCount⟩

theorem inserting_of_insertBatch {table : SlotTable} {keys : JoinKeys}
    (h : l.insertBatch table keys batch = (result, l')) :
    Inserting table keys batch l result l' := by
  obtain ⟨_, ledger, store, budget, metrics⟩ := l
  simp only [insertBatch] at h
  split at h
  · next hrows =>
    cases h
    exact .refused hrows
  · next hrows =>
    split at h
    · next habsorb =>
      cases h
      exact .unstored hrows habsorb
    · next habsorb =>
      cases h
      exact .stored hrows habsorb

/-- Where taking in a batch can stop. -/
inductive Accepting (config : Config) (probeSchema : Option Schema) (batch : Batch) (l : Loading) :
    Except JoinError Unit → Loading → Prop
  /-- Its schema is refused. -/
  | unnoted {e : JoinError} (hnote : noteSchema l.store batch = .error e) :
      Accepting config probeSchema batch l (.error e) l
  /-- It has no rows. -/
  | empty {store : BuildStore} (hnote : noteSchema l.store batch = .ok store)
      (hrows : batch.rowCount = 0) :
      Accepting config probeSchema batch l (.ok ()) { l with store := store }
  /-- It cannot be stored. -/
  | rejected {store : BuildStore} {e : JoinError} (hnote : noteSchema l.store batch = .ok store)
      (hrows : batch.rowCount ≠ 0) (hinspect : store.inspect batch = .error e) :
      Accepting config probeSchema batch l (.error e) { l with store := store }
  /-- It has the first rows, and the table cannot be opened. -/
  | unopened {store : BuildStore} {e : JoinError} (hnote : noteSchema l.store batch = .ok store)
      (hrows : batch.rowCount ≠ 0) (hinspect : store.inspect batch = .ok ())
      (htable : l.table = none)
      (hopen : openTable config probeSchema { l with store := store } = .error e) :
      Accepting config probeSchema batch l (.error e) { l with store := store }
  /-- It has the first rows, and is inserted into a new table. -/
  | first {store : BuildStore} {table : SlotTable} {keys : JoinKeys} {budget : Budget}
      {result : Except JoinError Unit} {l' : Loading}
      (hnote : noteSchema l.store batch = .ok store) (hrows : batch.rowCount ≠ 0)
      (hinspect : store.inspect batch = .ok ()) (htable : l.table = none)
      (hopen : openTable config probeSchema { l with store := store } = .ok (table, keys, budget))
      (hinsert : insertBatch { l with store := store, budget := budget } table keys batch =
        (result, l')) : Accepting config probeSchema batch l result l'
  /-- It is inserted into the table. -/
  | further {store : BuildStore} {table : SlotTable} {keys : JoinKeys}
      {result : Except JoinError Unit} {l' : Loading}
      (hnote : noteSchema l.store batch = .ok store) (hrows : batch.rowCount ≠ 0)
      (hinspect : store.inspect batch = .ok ()) (htable : l.table = some (table, keys))
      (hinsert : insertBatch { l with store := store } table keys batch = (result, l')) :
      Accepting config probeSchema batch l result l'

theorem accepting_of_accept (h : l.accept config probeSchema batch = (result, l')) :
    Accepting config probeSchema batch l result l' := by
  simp only [accept] at h
  split at h
  · next hnote =>
    cases h
    exact .unnoted hnote
  · next hnote =>
    split at h
    · next hrows =>
      cases h
      exact .empty hnote hrows
    · next hrows =>
      split at h
      · next hinspect =>
        cases h
        exact .rejected hnote hrows hinspect
      · next hinspect =>
        split at h
        · next htable => exact .further hnote hrows hinspect htable h
        · next htable =>
          split at h
          · next hopen =>
            cases h
            exact .unopened hnote hrows hinspect htable hopen
          · next hopen => exact .first hnote hrows hinspect htable hopen h

/-! ### The whole source -/

variable {σ : Type} [BatchSource σ] {source source' : σ}

/-- What taking in all batches does first. -/
theorem drain_eq (config : Config) (probeSchema : Option Schema) (source : σ) (l : Loading) :
    l.drain config probeSchema source =
      match BatchSource.pull .build source with
      | (.error e, rest) => (.error e, rest, l)
      | (.ok none, rest) => (.ok (), rest, l)
      | (.ok (some batch), rest) =>
        match l.accept config probeSchema batch with
        | (.error e, l) => (.error e, rest, l)
        | (.ok (), l) => l.drain config probeSchema rest := by
  rw [drain]
  split
  · next hpull => rw [hpull]
  · next hpull => rw [hpull]
  · next hpull =>
    dsimp only
    rewrite [hpull]
    rfl

/-- Where the build phase can stop. -/
inductive Fills (config : Config) (probeSchema : Option Schema) (first : Option Batch) (source : σ)
    (l : Loading) : Except JoinError JoinKeys → σ → Loading → Prop
  /-- The batch that was pulled in advance is refused. -/
  | refused {e : JoinError} {l' : Loading}
      (hfirst : l.acceptFirst config probeSchema first = (.error e, l')) :
      Fills config probeSchema first source l (.error e) source l'
  /-- A later batch is refused, or the source fails. -/
  | stopped {e : JoinError} {l₁ l' : Loading} {source' : σ}
      (hfirst : l.acceptFirst config probeSchema first = (.ok (), l₁))
      (hdrain : l₁.drain config probeSchema source = (.error e, source', l')) :
      Fills config probeSchema first source l (.error e) source' l'
  /-- All batches are in, and the keys are settled or cannot be. -/
  | finished {keys : Except JoinError JoinKeys} {l₁ l₂ l' : Loading} {source' : σ}
      (hfirst : l.acceptFirst config probeSchema first = (.ok (), l₁))
      (hdrain : l₁.drain config probeSchema source = (.ok (), source', l₂))
      (hfinish : l₂.finish config (BatchSource.schema? source') probeSchema = (keys, l')) :
      Fills config probeSchema first source l keys source' l'

theorem fills_of_fill {first : Option Batch} {keys : Except JoinError JoinKeys}
    (h : l.fill config probeSchema first source = (keys, source', l')) :
    Fills config probeSchema first source l keys source' l' := by
  simp only [fill] at h
  split at h
  · next hfirst =>
    cases h
    exact .refused hfirst
  · next hfirst =>
    split at h
    · next hdrain =>
      cases h
      exact .stopped hfirst hdrain
    · next hdrain =>
      cases h
      exact .finished hfirst hdrain rfl

end Loading
end HashJoin
