import HashJoin.Proofs.BuildStore.Serving
import HashJoin.Proofs.Column.Shape
import HashJoin.Proofs.Memory.Metering
import HashJoin.Proofs.SlotTable.Insertion
import HashJoin.Proofs.Source.Delivery

/-!
# Filling the build side

A build source fills the build side with its rows, unless one of its batches is refused or the source
breaks off: the slots are numbered in the order of the rows, the table finds them by the hashes of the
rows, the ledger and the store give the rows back, and no row is matched yet. A batch is refused for
its shape, its schema, its keys, for want of slots or for want of memory, and for nothing else.

## Main definitions

* `BuildSide.Holds` — a build side of some rows.
* `Loading.Took` — a build side that has taken in some batches.
* `Loading.Refuses` — why a batch is refused behind others.
* `Loading.Filled`, `Loading.FillFails` — the two ways in which the build phase ends.
* `Loading.Buildable` — batches that are refused only for want of memory.

## Main results

* `took_accept` — one more batch.
* `filled_of_fill` — the whole source.
-/

namespace HashJoin

/-- The hash of a build row. -/
def JoinKeys.rowHash (keys : JoinKeys) (r : BatchRow) : UInt32 := keys.hashBuild r.1 r.2

/-- The build side consists of some rows: the slots stand for them, and the table finds the slots by
their hashes. -/
structure BuildSide.Holds (s : BuildSide) (keys : JoinKeys) (rows : List BatchRow) : Prop where
  /-- The rows of the slots. -/
  serves : s.store.Serves s.ledger rows
  /-- The hashes of the slots. -/
  table : ∀ t, s.table = some t → t.Holds (rows.map keys.rowHash)
  /-- A table is lacking as long as there are no rows. -/
  bare : s.table = none ↔ rows = []

namespace Loading

/-! ### One batch -/

section Rows

variable {keys : JoinKeys} {batch : Batch} {store : BuildStore} {rows : List BatchRow}
  {index row : Nat} {table table' : SlotTable} {ledger ledger' : MatchLedger}
  {budget budget' : Budget} {result : Except JoinError Unit}

/-- The next slot is linked to its row, unless memory is refused. -/
theorem link_of_serves {ref : RowRef} (hbatch : store.batch? index = some batch)
    (hrow : row < batch.rowCount) (hsize : batch.rowCount ≤ maxBatchRows)
    (href : RowRef.of? index row = some ref) (hserves : store.Serves ledger rows)
    (hfresh : ledger.Fresh)
    (h : ledger.link rows.length ref budget = (result, ledger', budget')) :
    OutOfMemory result ∨ (result = .ok () ∧ store.Serves ledger' (rows ++ [(batch, row)]) ∧
      ledger'.Fresh) := by
  rw [RowRef.of?, dif_pos (Nat.lt_of_lt_of_le hrow hsize)] at href
  cases href
  rcases MatchLedger.link_cases h with ⟨hslot, -⟩ | ⟨-, -, -, -, refusal, -, rfl⟩ |
    ⟨-, -, rfl, rfl, -⟩ | ⟨-, -, rfl, rfl, -⟩
  -- slots are linked in order, so no other slot is expected
  · exact absurd hserves.length.symm hslot
  · exact .inl (outOfMemory_ofRefusal .link refusal)
  · exact .inr ⟨rfl, BuildStore.serves_append hserves hbatch hrow, MatchLedger.fresh_append hfresh _⟩
  · have hroomy : ledger.extended.Fresh := ⟨hfresh.covered, hfresh.clear⟩
    exact .inr ⟨rfl, BuildStore.serves_append (hserves.congr rfl) hbatch hrow,
      MatchLedger.fresh_append hroomy _⟩

/-- The refusal of a row: for want of memory, or because there are not enough slots for the given number
of rows. -/
inductive RowRefused (rows : Nat) : JoinError → Prop
  /-- There is no memory. -/
  | memory (use : MemoryUse) (requested available : Nat) :
    RowRefused rows (.outOfMemory use requested available)
  /-- There are no more slots. -/
  | slots (h : SlotTable.maxSlots < rows) (entries : Nat) :
    RowRefused rows (.unsupported .build (.tableFull entries))

theorem rowRefused_of_insert {e : TableError} {hash : UInt32} {more : Nat}
    (hlength : table.length = rows.length)
    (h : table.insert hash budget = (.error e, table', budget')) (hmore : rows.length < more) :
    RowRefused more (e.toJoinError .entry) := by
  by_cases hfree : table.length < SlotTable.maxSlots
  · obtain ⟨refusal, rfl⟩ := SlotTable.refusal_of_insert hfree h
    exact .memory .entry refusal.requested refusal.available
  · rcases SlotTable.insert_cases h with ⟨-, heq, -⟩ | ⟨hslots, -⟩ | ⟨hslots, -⟩ | ⟨hslots, -⟩
    · cases heq
      have hmany : SlotTable.maxSlots < more := by omega
      exact .slots hmany table.length
    · exact absurd hslots hfree
    · exact absurd hslots hfree
    · exact absurd hslots hfree

/-- The rows of a batch are inserted and linked one by one, unless one is refused. -/
theorem insertRows_of_holds (hbatch : store.batch? index = some batch)
    (hsize : batch.rowCount ≤ maxBatchRows) (hslots : rows.length ≤ SlotTable.maxSlots)
    (htable : table.Holds (rows.map keys.rowHash)) (hserves : store.Serves ledger rows)
    (hfresh : ledger.Fresh)
    (h : insertRows keys batch index row table ledger budget = (result, table', ledger', budget')) :
    (∃ e, result = .error e ∧ RowRefused (rows.length + (batch.rowCount - row)) e) ∨
      (result = .ok () ∧ table'.Holds ((rows ++ batch.members.drop row).map keys.rowHash) ∧
        store.Serves ledger' (rows ++ batch.members.drop row) ∧ ledger'.Fresh ∧
        (rows ++ batch.members.drop row).length ≤ SlotTable.maxSlots) := by
  fun_induction insertRows keys batch index row table ledger budget generalizing rows with
  | case1 row table ledger budget hrow e table₁ budget₁ hins =>
    cases h
    have hlength : table.length = rows.length := by
      rw [SlotTable.length_of_holds htable, List.length_map]
    exact .inl ⟨_, rfl, rowRefused_of_insert hlength hins (by omega)⟩
  | case2 row table ledger budget hrow slot table₁ budget₁ hins href =>
    rw [RowRef.of?, dif_pos (Nat.lt_of_lt_of_le hrow hsize)] at href
    cases href
  | case3 row table ledger budget hrow slot table₁ budget₁ hins ref href e ledger₁ budget₂ hlink =>
    cases h
    rcases SlotTable.insert_of_holds htable hins with ⟨_, herr, -⟩ | ⟨hok, -⟩
    · cases herr
    · cases hok
      rw [List.length_map] at hlink
      rcases link_of_serves hbatch hrow hsize href hserves hfresh hlink with
        ⟨use, requested, available, herr⟩ | ⟨hok, -⟩
      · cases herr
        exact .inl ⟨_, rfl, .memory use requested available⟩
      · cases hok
  | case4 row table ledger budget hrow slot table₁ budget₁ hins ref href ledger₁ budget₂ hlink ih =>
    have hfree : rows.length < SlotTable.maxSlots := by
      have hfree := SlotTable.lt_of_insert hins
      rw [SlotTable.length_of_holds htable, List.length_map] at hfree
      exact hfree
    rcases SlotTable.insert_of_holds htable hins with ⟨_, herr, -⟩ | ⟨hok, htable₁⟩
    · cases herr
    · cases hok
      rw [List.length_map] at hlink
      rcases link_of_serves hbatch hrow hsize href hserves hfresh hlink with
        ⟨_, _, _, herr⟩ | ⟨-, hserves₁, hfresh₁⟩
      · cases herr
      -- the row is in, and the rest of the batch comes behind it
      · have hlength : rows.length + (batch.rowCount - row) =
            (rows ++ [(batch, row)]).length + (batch.rowCount - (row + 1)) := by
          rw [List.length_append, List.length_singleton]
          omega
        rw [drop_members hrow, List.append_cons, hlength]
        refine ih ?_ ?_ hserves₁ hfresh₁ h
        · rw [List.length_append]
          exact hfree
        · rw [List.map_append]
          exact htable₁
  | case5 row table ledger budget hrow =>
    cases h
    have hdone : batch.members.drop row = [] :=
      List.drop_eq_nil_of_le (by rw [length_members]; omega)
    rw [hdone, List.append_nil]
    exact .inr ⟨rfl, htable, hserves, hfresh, hslots⟩

/-- A batch that passes the checks is inserted and stored, unless one of its rows is refused. -/
theorem insertBatch_of_holds {l l' : Loading} (hinspect : l.store.inspect batch = .ok ())
    (hindex : l.store.nextIndex < BuildStore.maxBatches) (hsize : batch.rowCount ≤ maxBatchRows)
    (hslots : rows.length ≤ SlotTable.maxSlots)
    (htable : table.Holds (rows.map keys.rowHash)) (hserves : l.store.Serves l.ledger rows)
    (hfresh : l.ledger.Fresh) (h : l.insertBatch table keys batch = (result, l')) :
    (∃ e, result = .error e ∧ RowRefused (rows.length + batch.rowCount) e) ∨
      (result = .ok () ∧ l'.store = l.store.push batch ∧
        (∃ table', l'.table = some (table', keys) ∧
          table'.Holds ((rows ++ batch.members).map keys.rowHash)) ∧
        l'.store.Serves l'.ledger (rows ++ batch.members) ∧ l'.ledger.Fresh ∧
        (rows ++ batch.members).length ≤ SlotTable.maxSlots) := by
  -- the rows are linked to the place that the batch will have
  have hplace : (l.store.push batch).batch? l.store.nextIndex = some batch := Array.getElem?_push_size
  have hrows : ∀ {r t lg b}, insertRows keys batch l.store.nextIndex 0 table l.ledger l.budget =
      (r, t, lg, b) → _ := fun hrun => insertRows_of_holds hplace hsize hslots htable
    (BuildStore.serves_push hserves batch) hfresh hrun
  cases inserting_of_insertBatch h with
  | refused hrun =>
    rcases hrows hrun with hrefused | ⟨hok, -⟩
    · exact .inl hrefused
    · cases hok
  | @unstored _ _ _ budget' hrun habsorb =>
    rw [BuildStore.absorb_eq hinspect hindex] at habsorb
    cases hres : budget'.reserve batch.memorySize with
    | error refusal =>
      rw [hres] at habsorb
      cases habsorb
      exact .inl ⟨_, rfl, .memory .batch refusal.requested refusal.available⟩
    | ok granted =>
      rw [hres] at habsorb
      cases habsorb
  | stored hrun habsorb =>
    obtain ⟨-, -, -, -, rfl⟩ := BuildStore.absorb_eq_ok_iff.mp habsorb
    rcases hrows hrun with ⟨_, herr, -⟩ | ⟨-, htable₁, hserves₁, hfresh₁, hslots₁⟩
    · cases herr
    · exact .inr ⟨rfl, rfl, ⟨_, rfl, htable₁⟩, hserves₁, hfresh₁, hslots₁⟩

end Rows

/-! ### Several batches -/

section Batches

variable {config : Config} {probeSchema : Option Schema} {l l' : Loading} {taken : List Batch}
  {batch : Batch} {result : Except JoinError Unit}

/-- The build side has taken in some batches. -/
structure Took (l : Loading) (config : Config) (probeSchema : Option Schema) (taken : List Batch) :
    Prop where
  /-- The rows of the slots. -/
  serves : l.store.Serves l.ledger (streamRows taken)
  /-- No row is matched. -/
  fresh : l.ledger.Fresh
  /-- The hashes of the slots, by keys that were resolved. -/
  table : ∀ t keys, l.table = some (t, keys) → t.Holds ((streamRows taken).map keys.rowHash) ∧
    JoinKeys.resolve config.conditions l.store.schema probeSchema = .ok keys
  /-- The table is lacking as long as there are no rows. -/
  bare : l.table = none ↔ streamRows taken = []
  /-- The number of rows. -/
  rowCount : l.store.rowCount = (streamRows taken).length
  /-- Every stored batch has a row. -/
  batches : l.store.batches.size ≤ (streamRows taken).length
  /-- Every row has a slot. -/
  slots : (streamRows taken).length ≤ SlotTable.maxSlots
  /-- The schema of the batches. -/
  schema : l.store.schema = streamSchema taken
  /-- All rows came in dense batches under that schema. -/
  rows : ∀ r ∈ streamRows taken, r.1.isDense = true ∧ l.store.schema = some r.1.schema

/-- Why a batch is refused behind others. -/
inductive Refuses (config : Config) (probeSchema : Option Schema) (taken : List Batch)
    (batch : Batch) : JoinError → Prop
  /-- Some rows are not active. -/
  | selection (h : batch.isDense = false) :
    Refuses config probeSchema taken batch (.unsupported .build .selection)
  /-- The rows cannot be addressed. -/
  | size (h : maxBatchRows < batch.rowCount) :
    Refuses config probeSchema taken batch (.unsupported .build (.batchRows batch.rowCount))
  /-- Rows came under another schema before. -/
  | schema {r : BatchRow} (hrows : batch.rowCount ≠ 0) (hr : r ∈ streamRows taken)
    (h : r.1.schema ≠ batch.schema) :
    Refuses config probeSchema taken batch (.schemaChanged .build r.1.schema batch.schema)
  /-- The keys cannot be resolved. -/
  | keys {e : JoinError} (hrows : batch.rowCount ≠ 0)
    (h : JoinKeys.resolve config.conditions (some batch.schema) probeSchema = .error e) :
    Refuses config probeSchema taken batch e
  /-- A row is refused. -/
  | row {e : JoinError} (h : RowRefused ((streamRows taken).length + batch.rowCount) e) :
    Refuses config probeSchema taken batch e

theorem with_schema {store : BuildStore} {schema : Option Schema} (h : store.schema = schema) :
    { store with schema := schema } = store := by
  subst h
  rfl

/-- The schema that stands when a batch with rows comes behind others is that of the rows before, or
its own. -/
theorem streamSchema_of_took (h : l.Took config probeSchema taken) (hrows : batch.rowCount ≠ 0) :
    ∃ schema, streamSchema (taken ++ [batch]) = some schema ∧
      (schema ≠ batch.schema → ∃ r ∈ streamRows taken, schema = r.1.schema) ∧
      (streamRows taken = [] → schema = batch.schema) ∧
      (streamRows taken ≠ [] → l.store.schema = some schema) := by
  have hmem : (batch, 0) ∈ streamRows (taken ++ [batch]) := mem_streamRows_of_mem (by simp) hrows
  by_cases hstored : streamRows taken = []
  · refine ⟨batch.schema, streamSchema_of_rows ?_ (List.ne_nil_of_mem hmem), fun hne => absurd rfl hne,
      fun _ => rfl, fun hne => absurd hstored hne⟩
    intro r hr
    rw [streamRows_append, hstored, List.nil_append] at hr
    obtain ⟨hr, -⟩ := mem_streamRows hr
    rw [List.mem_singleton.mp hr]
  · obtain ⟨r, hr⟩ := List.exists_mem_of_ne_nil _ hstored
    have hschema : l.store.schema = some r.1.schema := (h.rows r hr).2
    refine ⟨r.1.schema, ?_, fun _ => ⟨r, hr, rfl⟩, fun hnil => absurd hnil hstored, fun _ => hschema⟩
    rw [streamSchema_append_of_rows hstored, ← h.schema, hschema]

/-- The schema of the batches is noted. -/
theorem noteSchema_of_took (batch : Batch) (h : l.Took config probeSchema taken) :
    noteSchema l.store batch =
      .ok { l.store with schema := streamSchema (taken ++ [batch]) } := by
  have hbare : streamRows taken = [] → l.store.batches.isEmpty = true := by
    intro hnil
    have := h.batches
    rw [hnil] at this
    simpa using this
  by_cases hrows : batch.rowCount = 0
  -- an empty batch sets the schema only if it is the first
  · rw [streamSchema_append_of_empty hrows, ← h.schema]
    cases hschema : l.store.schema with
    | none =>
      have htaken : taken = [] := streamSchema_eq_none (h.schema.symm.trans hschema)
      have hempty := hbare (by rw [htaken]; rfl)
      simp [noteSchema, BuildStore.captureSchema, hschema, hempty]
    | some schema => simp [noteSchema, hschema, hrows, with_schema hschema]
  · obtain ⟨noted, hnoted, -, hfirst, hfurther⟩ := streamSchema_of_took h hrows
    rw [hnoted]
    by_cases hstored : streamRows taken = []
    -- the first batch with rows replaces the schema of empty ones
    · obtain rfl := hfirst hstored
      have hempty := hbare hstored
      cases hschema : l.store.schema with
      | none => simp [noteSchema, BuildStore.captureSchema, hschema, hempty]
      | some schema =>
        by_cases hconforms : batch.conforms schema = true
        · have hsame : l.store.schema = some batch.schema := by
            rw [hschema, eq_of_beq hconforms]
          simp [noteSchema, hschema, hconforms, with_schema hsame]
        · simp [noteSchema, BuildStore.captureSchema, hschema, hempty, hconforms, hrows]
    -- rows are stored, so the schema stands
    · have hschema := hfurther hstored
      have hsize : l.store.batches.isEmpty = false := by
        obtain ⟨r, hr⟩ := List.exists_mem_of_ne_nil _ hstored
        obtain ⟨slot, hslot⟩ := List.getElem?_of_mem hr
        obtain ⟨ref, -, hbatch, -⟩ := BuildStore.slotRow_eq_ok (h.serves.row slot r hslot)
        obtain ⟨hlt, -⟩ := Array.getElem?_eq_some_iff.mp hbatch
        exact Array.isEmpty_eq_false_iff.mpr (Array.ne_empty_of_size_pos (Nat.zero_lt_of_lt hlt))
      simp [noteSchema, hschema, hsize, with_schema hschema]

theorem streamRows_concat (taken : List Batch) (batch : Batch) :
    streamRows (taken ++ [batch]) = streamRows taken ++ batch.members := by
  rw [streamRows_append, streamRows_cons, streamRows_nil, List.append_nil]

/-- A batch without rows leaves its schema, if there was none. -/
theorem took_passOver (h : l.Took config probeSchema taken) (hrows : batch.rowCount = 0) :
    Took { l with store := { l.store with schema := streamSchema (taken ++ [batch]) } }
      config probeSchema (taken ++ [batch]) := by
  have hsame : streamRows (taken ++ [batch]) = streamRows taken := by
    rw [streamRows_concat, members_of_empty hrows, List.append_nil]
  have hschema : streamRows taken ≠ [] → streamSchema (taken ++ [batch]) = l.store.schema := by
    intro hstored
    rw [streamSchema_append_of_rows hstored, h.schema]
  constructor
  · rw [hsame]
    exact ⟨h.serves.length, h.serves.row⟩
  · exact h.fresh
  · intro t keys htable
    have hstored : streamRows taken ≠ [] := by
      intro hnil
      rw [h.bare.mpr hnil] at htable
      cases htable
    show _ ∧ JoinKeys.resolve _ (streamSchema (taken ++ [batch])) _ = _
    rw [hsame, hschema hstored]
    exact h.table t keys htable
  · rw [hsame]
    exact h.bare
  · rw [hsame]
    exact h.rowCount
  · rw [hsame]
    exact h.batches
  · rw [hsame]
    exact h.slots
  · rfl
  · rw [hsame]
    intro r hr
    show _ ∧ streamSchema (taken ++ [batch]) = _
    rw [hschema (List.ne_nil_of_mem hr)]
    exact h.rows r hr

/-- Every stored batch has a row, so there are slots for fewer batches than the store has indexes. -/
theorem nextIndex_lt_of_took (h : l.Took config probeSchema taken) :
    l.store.nextIndex < BuildStore.maxBatches := by
  have hbatches : l.store.nextIndex ≤ (streamRows taken).length := h.batches
  have hslots := h.slots
  have hmax : SlotTable.maxSlots < BuildStore.maxBatches := by decide
  omega

/-- The keys of the table were resolved by the schema that stands for one more batch, too. -/
theorem keys_of_took {table : SlotTable} {keys : JoinKeys} (batch : Batch)
    (h : l.Took config probeSchema taken) (htable : l.table = some (table, keys)) :
    table.Holds ((streamRows taken).map keys.rowHash) ∧
      JoinKeys.resolve config.conditions (streamSchema (taken ++ [batch])) probeSchema = .ok keys := by
  obtain ⟨hholds, hkeys⟩ := h.table _ _ htable
  have hstored : streamRows taken ≠ [] := by
    intro hnil
    rw [h.bare.mpr hnil] at htable
    cases htable
  rw [h.schema, ← streamSchema_append_of_rows hstored] at hkeys
  exact ⟨hholds, hkeys⟩

/-- A batch with rows is stored, unless one of its rows is refused. -/
theorem took_store {noted : Loading} {table : SlotTable} {keys : JoinKeys}
    (hins : noted.insertBatch table keys batch = (result, l'))
    (hstore : noted.store = { l.store with schema := streamSchema (taken ++ [batch]) })
    (hledger : noted.ledger = l.ledger) (h : l.Took config probeSchema taken)
    (hinspect : noted.store.inspect batch = .ok ()) (hrows : batch.rowCount ≠ 0)
    (hkeys : JoinKeys.resolve config.conditions noted.store.schema probeSchema = .ok keys)
    (htable : table.Holds ((streamRows taken).map keys.rowHash)) :
    (∃ e, result = .error e ∧ Refuses config probeSchema taken batch e) ∨
      (result = .ok () ∧ l'.Took config probeSchema (taken ++ [batch])) := by
  obtain ⟨schema, hschema, -, -, hfurther⟩ := streamSchema_of_took h hrows
  have hnoted : noted.store.schema = some schema := by
    rw [hstore]
    exact hschema
  obtain ⟨hdense, hsize, hconforms⟩ := BuildStore.inspect_eq_ok_iff.mp hinspect
  have hsame : batch.schema = schema := hconforms schema hnoted
  have hindex : noted.store.nextIndex < BuildStore.maxBatches := by
    rw [hstore]
    exact nextIndex_lt_of_took h
  have hserves : noted.store.Serves noted.ledger (streamRows taken) := by
    rw [hstore, hledger]
    exact ⟨h.serves.length, h.serves.row⟩
  rcases insertBatch_of_holds hinspect hindex hsize h.slots htable hserves
    (by rw [hledger]; exact h.fresh) hins with
    ⟨e, rfl, hrefused⟩ | ⟨rfl, hpush, ⟨table', hsome, hholds⟩, hserves', hfresh', hslots'⟩
  · exact .inl ⟨e, rfl, .row hrefused⟩
  · refine .inr ⟨rfl, ?_⟩
    have hknown : l'.store.schema = some schema := by
      rw [hpush, ← hnoted, BuildStore.push, hnoted]
      rfl
    rw [← streamRows_concat] at hholds hserves' hslots'
    have hlength : (streamRows (taken ++ [batch])).length =
        (streamRows taken).length + batch.rowCount := by
      rw [streamRows_concat, List.length_append, length_members]
    constructor
    · exact hserves'
    · exact hfresh'
    · intro t keys' ht
      rw [hsome] at ht
      cases ht
      rw [hknown, ← hnoted]
      exact ⟨hholds, hkeys⟩
    · rw [hsome]
      refine ⟨fun hnone => ?_, fun hnil => ?_⟩
      · cases hnone
      · rw [hnil, List.length_nil] at hlength
        omega
    · have hcount : l'.store.rowCount = l.store.rowCount + batch.rowCount := by
        rw [hpush, hstore]
        rfl
      rw [hcount, hlength, h.rowCount]
    · have hsize : l'.store.batches.size = l.store.batches.size + 1 := by
        rw [hpush, hstore]
        exact Array.size_push batch
      have hbatches := h.batches
      omega
    · exact hslots'
    · rw [hknown, hschema]
    · intro r hr
      rw [streamRows_concat] at hr
      rw [hknown]
      rcases List.mem_append.mp hr with hr | hr
      · obtain ⟨hr', hold⟩ := h.rows r hr
        rw [hfurther (List.ne_nil_of_mem hr)] at hold
        exact ⟨hr', hold⟩
      · obtain ⟨hr', -⟩ := mem_members hr
        rw [hr', hsame]
        exact ⟨hdense, rfl⟩

/-- A table is not opened because the keys cannot be resolved, or for want of memory. -/
theorem openTable_eq_error {e : JoinError} (h : l.openTable config probeSchema = .error e) :
    JoinKeys.resolve config.conditions l.store.schema probeSchema = .error e ∨
      OutOfMemory (.error e : Except JoinError Unit) := by
  rw [openTable] at h
  cases hkeys : JoinKeys.resolve config.conditions l.store.schema probeSchema with
  | error fault =>
    rw [hkeys] at h
    cases h
    exact .inl rfl
  | ok keys =>
    rw [hkeys] at h
    cases hnew : SlotTable.create config.minBuckets config.loadFactor l.budget with
    | error refused =>
      rw [hnew] at h
      cases h
      obtain ⟨refusal, rfl⟩ := SlotTable.refusal_of_create hnew
      exact .inr (outOfMemory_ofRefusal .table refusal)
    | ok made =>
      rw [hnew] at h
      cases h

/-- One more batch is taken in, unless it is refused. -/
theorem took_accept (h : l.Took config probeSchema taken)
    (hacc : l.accept config probeSchema batch = (result, l')) :
    (∃ e, result = .error e ∧ Refuses config probeSchema taken batch e) ∨
      (result = .ok () ∧ l'.Took config probeSchema (taken ++ [batch])) := by
  have hnoted := noteSchema_of_took batch h
  cases accepting_of_accept hacc with
  | unnoted hnote =>
    rw [hnoted] at hnote
    cases hnote
  | empty hnote hrows =>
    rw [hnoted] at hnote
    cases hnote
    exact .inr ⟨rfl, took_passOver h hrows⟩
  | @rejected _ e hnote hrows hinspect =>
    rw [hnoted] at hnote
    cases hnote
    obtain ⟨schema, hschema, hold, -⟩ := streamSchema_of_took h hrows
    refine .inl ⟨e, rfl, ?_⟩
    rcases BuildStore.inspect_eq_error hinspect with
      ⟨hdense, rfl⟩ | ⟨hsize, rfl⟩ | ⟨expected, hexpected, hne, rfl⟩
    · exact .selection hdense
    · exact .size hsize
    · obtain rfl : schema = expected := Option.some.inj (hschema.symm.trans hexpected)
      obtain ⟨r, hr, rfl⟩ := hold (Ne.symm hne)
      exact .schema hrows hr (Ne.symm hne)
  | @unopened _ e hnote hrows hinspect htable hopen =>
    rw [hnoted] at hnote
    cases hnote
    obtain ⟨schema, hschema, -, hfirst, -⟩ := streamSchema_of_took h hrows
    refine .inl ⟨e, rfl, ?_⟩
    rcases openTable_eq_error hopen with hkeys | ⟨use, requested, available, hmemory⟩
    · rw [hschema, hfirst (h.bare.mp htable)] at hkeys
      exact .keys hrows hkeys
    · cases hmemory
      exact .row (.memory use requested available)
  | first hnote hrows hinspect htable hopen hinsert =>
    rw [hnoted] at hnote
    cases hnote
    obtain ⟨hkeys, hnew⟩ := openTable_eq_ok hopen
    refine took_store hinsert rfl rfl h hinspect hrows hkeys ?_
    rw [h.bare.mp htable]
    exact SlotTable.holds_create hnew
  | further hnote hrows hinspect htable hinsert =>
    rw [hnoted] at hnote
    cases hnote
    obtain ⟨hholds, hkeys⟩ := keys_of_took batch h htable
    exact took_store hinsert rfl rfl h hinspect hrows hkeys hholds

end Batches

/-! ### The whole source -/

section Source

variable {config : Config} {probeSchema declared : Option Schema} {l l' : Loading}
  {batches taken rest : List Batch} {ending : Option JoinError} {keys : JoinKeys}

/-- Why the build phase fails: a batch is refused, the source breaks off, or the keys cannot be
resolved without rows. -/
inductive FillFails (config : Config) (probeSchema declared : Option Schema) (batches : List Batch)
    (ending : Option JoinError) : JoinError → Prop
  /-- A batch is refused behind others. -/
  | refused {taken rest : List Batch} {batch : Batch} {e : JoinError}
      (hsplit : batches = taken ++ batch :: rest) (h : Refuses config probeSchema taken batch e) :
      FillFails config probeSchema declared batches ending e
  /-- The source breaks off. -/
  | broken {e : JoinError} (h : ending = some e) :
      FillFails config probeSchema declared batches ending e
  /-- The keys cannot be resolved. -/
  | keys {e : JoinError} (h : JoinKeys.resolve config.conditions
      ((streamSchema batches).or declared) probeSchema = .error e) :
      FillFails config probeSchema declared batches ending e

variable {σ : Type} [BatchSource σ] {source source' rest' : σ}

/-- All batches of a source are taken in, unless one is refused or the source breaks off. -/
theorem took_drain (declared : Option Schema) {result : Except JoinError Unit}
    (hdelivers : Delivers .build source rest ending source')
    (h : l.Took config probeSchema taken)
    (hdrain : l.drain config probeSchema source = (result, rest', l')) :
    (∃ e, result = .error e ∧ FillFails config probeSchema declared (taken ++ rest) ending e) ∨
      (result = .ok () ∧ ending = none ∧ rest' = source' ∧
        l'.Took config probeSchema (taken ++ rest)) := by
  -- on the batches that are still to come, behind whatever has been taken in
  induction hdelivers generalizing l taken with
  | ended hpull =>
    rw [drain_eq, hpull] at hdrain
    simp only at hdrain
    cases hdrain
    rw [List.append_nil]
    exact .inr ⟨rfl, rfl, rfl, h⟩
  | broken hpull =>
    rw [drain_eq, hpull] at hdrain
    simp only at hdrain
    cases hdrain
    exact .inl ⟨_, rfl, .broken rfl⟩
  | batch hpull _ ih =>
    rw [drain_eq, hpull] at hdrain
    simp only at hdrain
    split at hdrain
    · next e l₁ hacc =>
      cases hdrain
      rcases took_accept h hacc with ⟨_, herr, hrefuses⟩ | ⟨hok, -⟩
      · cases herr
        exact .inl ⟨_, rfl, .refused rfl hrefuses⟩
      · cases hok
    · next l₁ hacc =>
      rcases took_accept h hacc with ⟨_, herr, -⟩ | ⟨-, h₁⟩
      · cases herr
      · rw [List.append_cons]
        exact ih h₁ hdrain

/-- Nothing has been taken in. -/
theorem took_nil (budget : Budget) (metrics : Metrics) :
    Took ⟨none, .empty, .empty, budget, metrics⟩ config probeSchema [] :=
  ⟨⟨rfl, nofun⟩, MatchLedger.fresh_empty, nofun, ⟨fun _ => rfl, fun _ => rfl⟩, rfl, Nat.le_refl 0,
    Nat.zero_le _, rfl, nofun⟩

theorem took_acceptFirst {result : Except JoinError Unit} {first : Option Batch} {budget : Budget}
    {metrics : Metrics}
    (hfirst : acceptFirst config probeSchema ⟨none, .empty, .empty, budget, metrics⟩ first =
      (result, l')) :
    (∃ e batch, first = some batch ∧ result = .error e ∧ Refuses config probeSchema [] batch e) ∨
      (result = .ok () ∧ l'.Took config probeSchema first.toList) := by
  have hnone : Took ⟨none, .empty, .empty, budget, metrics⟩ config probeSchema [] :=
    took_nil budget metrics
  cases first with
  | none =>
    cases hfirst
    exact .inr ⟨rfl, hnone⟩
  | some batch =>
    rcases took_accept hnone hfirst with ⟨e, herr, hrefuses⟩ | htook
    · exact .inl ⟨e, batch, rfl, herr, hrefuses⟩
    · exact .inr htook

/-- What the build phase leaves of the batches that it has taken in. -/
structure Filled (l : Loading) (config : Config) (probeSchema declared : Option Schema)
    (batches : List Batch) (keys : JoinKeys) : Prop where
  /-- The build side consists of the rows. -/
  holds : l.side.Holds keys (streamRows batches)
  /-- No row is matched. -/
  fresh : l.ledger.Fresh
  /-- The number of rows. -/
  rowCount : l.store.rowCount = (streamRows batches).length
  /-- Every row has a slot. -/
  slots : (streamRows batches).length ≤ SlotTable.maxSlots
  /-- The schema of the batches, or the one announced. -/
  schema : l.store.schema = (streamSchema batches).or declared
  /-- All rows came in dense batches under that schema. -/
  rows : ∀ r ∈ streamRows batches, r.1.isDense = true ∧ l.store.schema = some r.1.schema
  /-- The keys are those of the schema. -/
  keys : JoinKeys.resolve config.conditions l.store.schema probeSchema = .ok keys

/-- The build phase ends well if the keys can be resolved. -/
theorem filled_of_took {result : Except JoinError JoinKeys} (h : l.Took config probeSchema batches)
    (hfinish : l.finish config declared probeSchema = (result, l')) :
    (∃ e, result = .error e ∧ JoinKeys.resolve config.conditions ((streamSchema batches).or declared)
      probeSchema = .error e) ∨
      ∃ keys, result = .ok keys ∧ l'.Filled config probeSchema declared batches keys := by
  have hknown : ∀ schema, l.store.schema = some schema →
      (streamSchema batches).or declared = some schema := by
    intro schema hschema
    rw [← h.schema, hschema]
    rfl
  have hrows : ∀ r ∈ streamRows batches, r.1.isDense = true ∧
      (streamSchema batches).or declared = some r.1.schema :=
    fun r hr => ⟨(h.rows r hr).1, hknown _ (h.rows r hr).2⟩
  rw [finish, h.schema] at hfinish
  cases htable : l.table with
  | none =>
    rw [htable] at hfinish
    cases hfinish
    cases hkeys : JoinKeys.resolve config.conditions ((streamSchema batches).or declared)
        probeSchema with
    | error e => exact .inl ⟨e, rfl, rfl⟩
    | ok keys =>
      refine .inr ⟨keys, rfl, ⟨⟨h.serves.length, h.serves.row⟩, ?_,
        ⟨fun _ => h.bare.mp htable, fun _ => rfl⟩⟩, h.fresh, h.rowCount, h.slots, rfl, hrows, hkeys⟩
      intro t ht
      cases ht
  -- the keys of the table were resolved by the schema of the rows
  | some made =>
    obtain ⟨t, keys⟩ := made
    rw [htable] at hfinish
    cases hfinish
    obtain ⟨hholds, hkeys⟩ := h.table t keys htable
    have hstored : streamRows batches ≠ [] := by
      intro hnil
      rw [h.bare.mpr hnil] at htable
      cases htable
    obtain ⟨r, hr⟩ := List.exists_mem_of_ne_nil _ hstored
    rw [(h.rows r hr).2, ← hknown _ (h.rows r hr).2] at hkeys
    refine .inr ⟨keys, rfl, ⟨⟨h.serves.length, h.serves.row⟩, ?_, ⟨fun hnone => ?_, fun hnil => ?_⟩⟩,
      h.fresh, h.rowCount, h.slots, rfl, hrows, hkeys⟩
    · intro t' ht
      cases ht
      exact hholds
    · cases hnone
    · exact absurd hnil hstored

/-- A source fills the build side, unless the build phase fails. The first batch, if there is one, was
pulled in advance. -/
theorem filled_of_fill {result : Except JoinError JoinKeys} {first : Option Batch} {budget : Budget}
    {metrics : Metrics} (hdelivers : Delivers .build source rest ending source')
    (hfill : fill config probeSchema first source ⟨none, .empty, .empty, budget, metrics⟩ =
      (result, rest', l')) :
    (∃ e, result = .error e ∧ FillFails config probeSchema (BatchSource.schema? source')
      (first.toList ++ rest) ending e) ∨
      ∃ keys, result = .ok keys ∧ ending = none ∧
        l'.Filled config probeSchema (BatchSource.schema? source') (first.toList ++ rest) keys := by
  cases fills_of_fill hfill with
  | refused hfirst =>
    rcases took_acceptFirst hfirst with ⟨_, batch, rfl, herr, hrefuses⟩ | ⟨hok, -⟩
    · cases herr
      exact .inl ⟨_, rfl, .refused (by rfl) hrefuses⟩
    · cases hok
  | stopped hfirst hdrain =>
    rcases took_acceptFirst hfirst with ⟨_, _, _, herr, -⟩ | ⟨-, h₁⟩
    · cases herr
    · rcases took_drain (BatchSource.schema? source') hdelivers h₁ hdrain with ⟨_, herr, hfails⟩ | ⟨hok, -⟩
      · cases herr
        exact .inl ⟨_, rfl, hfails⟩
      · cases hok
  | finished hfirst hdrain hfinish =>
    rcases took_acceptFirst hfirst with ⟨_, _, _, herr, -⟩ | ⟨-, h₁⟩
    · cases herr
    · rcases took_drain none hdelivers h₁ hdrain with
        ⟨_, herr, -⟩ | ⟨-, hending, rfl, h₂⟩
      · cases herr
      · rcases filled_of_took h₂ hfinish with ⟨e, rfl, hkeys⟩ | ⟨keys, rfl, hfilled⟩
        · exact .inl ⟨e, rfl, .keys hkeys⟩
        · exact .inr ⟨keys, rfl, hending, hfilled⟩

/-! ### Batches that can be joined -/

/-- Build batches that can be joined by some keys. -/
structure Buildable (config : Config) (probeSchema declared : Option Schema)
    (batches : List Batch) (keys : JoinKeys) : Prop where
  /-- The batches are what they claim to be. -/
  wellFormed : ∀ b ∈ batches, b.WellFormed
  /-- The rows of each can be addressed. -/
  size : ∀ b ∈ batches, b.rowCount ≤ maxBatchRows
  /-- Rows come under one schema. -/
  schema : ∀ b ∈ batches, b.rowCount ≠ 0 → streamSchema batches = some b.schema
  /-- There are slots for all rows. -/
  slots : (streamRows batches).length ≤ SlotTable.maxSlots
  /-- The keys are those of the schema. -/
  keys : JoinKeys.resolve config.conditions ((streamSchema batches).or declared) probeSchema =
    .ok keys

/-- Batches that can be joined are refused only for want of memory. -/
theorem outOfMemory_of_fillFails {e : JoinError}
    (hall : Buildable config probeSchema declared batches keys)
    (h : FillFails config probeSchema declared batches none e) :
    ∃ use requested available, e = .outOfMemory use requested available := by
  cases h with
  | broken h => cases h
  | keys h =>
    rw [hall.keys] at h
    cases h
  | @refused taken rest batch _ hsplit h =>
    have hbatch : batch ∈ batches := by
      rw [hsplit]
      simp
    cases h with
    | selection hdense =>
      rw [(hall.wellFormed batch hbatch).dense] at hdense
      cases hdense
    | size hsize => exact absurd (hall.size batch hbatch) (Nat.not_le_of_lt hsize)
    | schema hrows hr hne =>
      obtain ⟨hmem, hlt⟩ := mem_streamRows hr
      have hrow := hall.schema _ (by rw [hsplit]; exact List.mem_append_left _ hmem) (by omega)
      rw [hall.schema batch hbatch hrows] at hrow
      exact absurd (Option.some.inj hrow).symm hne
    | keys hrows hkeys =>
      have hresolved := hall.keys
      rw [hall.schema batch hbatch hrows, Option.some_or, hkeys] at hresolved
      cases hresolved
    | row hrow =>
      cases hrow with
      | memory use requested available => exact ⟨use, requested, available, rfl⟩
      | slots hslots entries =>
        have hall := hall.slots
        rw [hsplit, streamRows_append, streamRows_cons, List.length_append, List.length_append,
          length_members] at hall
        omega

end Source

end Loading
end HashJoin
