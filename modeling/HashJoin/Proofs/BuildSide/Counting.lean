import HashJoin.Proofs.BuildSide.Alignment
import HashJoin.Proofs.Metrics.Counting
import HashJoin.Proofs.SlotTable.Shape

/-!
# What the build phase counts

A build batch is counted when it is stored, and not before: a batch whose rows were inserted in part
has left slots in the table and is not counted. So wherever the build phase stops, the counters tell
of the batches in the store, which are the first batches with rows of the build source, and of all of
them if the build phase ends well. The table counts its doublings itself.

## Main definitions

* `SlotTable.Scaled` — the buckets of a table are those at the start, doubled as often as is counted.
* `Loading.Counted` — the counters tell of the stored batches.
* `BuildSide.Charted` — a build side that all batches of a source have filled.

## Main results

* `scaled_insert` — an insertion counts its doublings, whatever comes of it.
* `counted_accept`, `stored_accept` — one more batch, whether it is refused or not.
* `counted_fill`, `stored_fill`, `charted_of_fill` — the whole phase.
-/

namespace HashJoin

/-! ### Doublings -/

namespace SlotTable

variable {t t' : SlotTable} {minBuckets : Nat} {budget budget' : Budget}

/-- The buckets of a table are those at the start, doubled as often as is counted. -/
structure Scaled (t : SlotTable) (minBuckets : Nat) : Prop where
  /-- The slots are linked. -/
  holds : ∃ hs, t.Holds hs
  /-- The buckets. -/
  buckets : t.buckets = (max minBuckets 1).nextPowerOfTwo <<< t.resizes

theorem scaled_create {loadFactor : Binary64}
    (h : create minBuckets loadFactor budget = .ok (t, budget')) : t.Scaled minBuckets :=
  ⟨⟨[], holds_create h⟩, (shaped_create h).buckets⟩

/-- Making room counts every doubling, also when the next one is refused. -/
theorem scaled_makeRoom (h : t.Scaled minBuckets) (budget : Budget) :
    (t.makeRoom budget).2.1.Scaled minBuckets := by
  obtain ⟨hs, hholds⟩ := h.holds
  obtain ⟨k, hroom, -⟩ := makeRoom_doubles hholds budget
  rw [hroom]
  refine ⟨⟨hs, holds_iterate hholds k⟩, ?_⟩
  rw [buckets_iterate hholds, h.buckets, resizes_iterate, Nat.shiftLeft_add]

/-- An insertion counts its doublings, whatever comes of it. -/
theorem scaled_insert {hash : UInt32} {result : Except TableError Nat} (h : t.Scaled minBuckets)
    (hins : t.insert hash budget = (result, t', budget')) : t'.Scaled minBuckets := by
  obtain ⟨hs, hholds⟩ := h.holds
  have hholds' : ∃ hs, t'.Holds hs := by
    rcases insert_of_holds hholds hins with ⟨_, -, hkept⟩ | ⟨-, hadded⟩
    · exact ⟨hs, hkept⟩
    · exact ⟨hs ++ [hash], hadded⟩
  refine ⟨hholds', ?_⟩
  have hroom := scaled_makeRoom h budget
  rcases insert_cases hins with ⟨-, -, rfl, -⟩ | ⟨-, e, hmade, -⟩ |
    ⟨-, roomy, granted, hmade, e, hext, -⟩ | ⟨-, roomy, granted, hmade, ready, hext, -, rfl⟩
  · exact h.buckets
  · rw [hmade] at hroom
    exact hroom.buckets
  -- room for the entries leaves the buckets alone
  · rw [hmade] at hroom
    obtain ⟨hchains, -, hcount⟩ := frame_extendArena hext
    rw [buckets, hchains, hcount]
    exact hroom.buckets
  · rw [hmade] at hroom
    obtain ⟨hchains, -, hcount⟩ := frame_extendArena hext
    rw [buckets_append, buckets, hchains]
    show _ = _ <<< ready.resizes
    rw [hcount]
    exact hroom.buckets

end SlotTable

/-! ### One batch -/

namespace Loading

variable {config : Config} {probeSchema : Option Schema} {keys : JoinKeys} {batch : Batch}
  {l l' : Loading} {m : Metrics} {minBuckets : Nat} {result : Except JoinError Unit}

/-- The batches that have been stored. -/
def stored (l : Loading) : List Batch := l.store.batches.toList

/-- The counters tell of the stored batches, behind those that they told of before, and the table counts
its doublings. -/
structure Counted (l : Loading) (m : Metrics) (minBuckets : Nat) : Prop where
  /-- The counters. -/
  metrics : l.metrics = m.recordBuilds l.stored
  /-- The table. -/
  table : ∀ t keys, l.table = some (t, keys) → t.Scaled minBuckets

/-- Rows count the doublings that they need, also when one of them is refused. -/
theorem scaled_insertRows {index row : Nat} {table table' : SlotTable} {ledger ledger' : MatchLedger}
    {budget budget' : Budget} (h : table.Scaled minBuckets)
    (hrows : insertRows keys batch index row table ledger budget =
      (result, table', ledger', budget')) : table'.Scaled minBuckets := by
  fun_induction insertRows keys batch index row table ledger budget with
  | case1 row table ledger budget _ e table₁ budget₁ hins =>
    cases hrows
    exact SlotTable.scaled_insert h hins
  | case2 row table ledger budget _ slot table₁ budget₁ hins =>
    cases hrows
    exact SlotTable.scaled_insert h hins
  | case3 row table ledger budget _ slot table₁ budget₁ hins =>
    cases hrows
    exact SlotTable.scaled_insert h hins
  | case4 row table ledger budget _ slot table₁ budget₁ hins _ _ _ _ _ ih =>
    exact ih (SlotTable.scaled_insert h hins) hrows
  | case5 =>
    cases hrows
    exact h

/-- A batch is counted when it is stored. -/
theorem counted_insertBatch {table : SlotTable} (hmetrics : l.metrics = m.recordBuilds l.stored)
    (htable : table.Scaled minBuckets) (h : l.insertBatch table keys batch = (result, l')) :
    l'.Counted m minBuckets := by
  have hscaled : ∀ {r t lg b}, insertRows keys batch l.store.nextIndex 0 table l.ledger l.budget =
      (r, t, lg, b) → ∀ t' k, some (t, keys) = some (t', k) → t'.Scaled minBuckets := by
    intro r t lg b hrows t' k hsame
    cases hsame
    exact scaled_insertRows htable hrows
  cases inserting_of_insertBatch h with
  | refused hrows => exact ⟨hmetrics, hscaled hrows⟩
  | unstored hrows => exact ⟨hmetrics, hscaled hrows⟩
  | stored hrows habsorb =>
    obtain ⟨-, -, -, -, rfl⟩ := BuildStore.absorb_eq_ok_iff.mp habsorb
    refine ⟨?_, hscaled hrows⟩
    show l.metrics.recordBuild batch.rowCount = m.recordBuilds (l.store.batches.push batch).toList
    rw [Array.toList_push, Metrics.recordBuilds_concat, hmetrics]
    rfl

/-- A batch that is stored comes behind the others, and one that is refused is not stored. -/
theorem stored_insertBatch {table : SlotTable} (h : l.insertBatch table keys batch = (result, l')) :
    (result = .ok () ∧ l'.stored = l.stored ++ [batch]) ∨
      ∃ e, result = .error e ∧ l'.stored = l.stored := by
  cases inserting_of_insertBatch h with
  | refused => exact .inr ⟨_, rfl, rfl⟩
  | unstored => exact .inr ⟨_, rfl, rfl⟩
  | stored _ habsorb =>
    obtain ⟨-, -, -, -, rfl⟩ := BuildStore.absorb_eq_ok_iff.mp habsorb
    exact .inl ⟨rfl, Array.toList_push⟩

/-- Noting the schema of a batch stores nothing. -/
theorem stored_noteSchema {store : BuildStore} (h : noteSchema l.store batch = .ok store) :
    store.batches.toList = l.stored := by
  rw [batches_noteSchema h]
  rfl

/-- Taking in a batch counts it if it is stored, and counts nothing otherwise. -/
theorem counted_accept (h : l.Counted m config.minBuckets)
    (hacc : l.accept config probeSchema batch = (result, l')) : l'.Counted m config.minBuckets := by
  have hnoted : ∀ {store : BuildStore}, noteSchema l.store batch = .ok store →
      l.metrics = m.recordBuilds store.batches.toList := by
    intro store hnote
    rw [stored_noteSchema hnote]
    exact h.metrics
  cases accepting_of_accept hacc with
  | unnoted => exact h
  | empty hnote => exact ⟨hnoted hnote, h.table⟩
  | rejected hnote => exact ⟨hnoted hnote, h.table⟩
  | unopened hnote => exact ⟨hnoted hnote, h.table⟩
  | first hnote _ _ _ hopen hinsert =>
    refine counted_insertBatch ?_ (SlotTable.scaled_create (openTable_eq_ok hopen).2) hinsert
    exact hnoted hnote
  | further hnote _ _ htable hinsert =>
    refine counted_insertBatch ?_ (h.table _ _ htable) hinsert
    exact hnoted hnote

/-- A batch that is taken in is stored if it has rows, and one that is refused is not stored. -/
theorem stored_accept (hacc : l.accept config probeSchema batch = (result, l')) :
    (result = .ok () ∧ l'.stored = l.stored ++ rowBatches [batch]) ∨
      ∃ e, result = .error e ∧ l'.stored = l.stored := by
  have hinserted : ∀ {noted : Loading} {table : SlotTable} {keys : JoinKeys}, batch.rowCount ≠ 0 →
      noted.stored = l.stored → noted.insertBatch table keys batch = (result, l') →
      (result = .ok () ∧ l'.stored = l.stored ++ rowBatches [batch]) ∨
        ∃ e, result = .error e ∧ l'.stored = l.stored := by
    intro noted table keys hrows hsame hinsert
    rw [rowBatches_cons_of_rows hrows, ← hsame]
    exact stored_insertBatch hinsert
  cases accepting_of_accept hacc with
  | unnoted => exact .inr ⟨_, rfl, rfl⟩
  | empty hnote hrows =>
    rw [rowBatches_cons_of_empty hrows]
    exact .inl ⟨rfl, by rw [← stored_noteSchema hnote]; exact (List.append_nil _).symm⟩
  | rejected hnote => exact .inr ⟨_, rfl, stored_noteSchema hnote⟩
  | unopened hnote => exact .inr ⟨_, rfl, stored_noteSchema hnote⟩
  | first hnote hrows _ _ _ hinsert => exact hinserted hrows (stored_noteSchema hnote) hinsert
  | further hnote hrows _ _ hinsert => exact hinserted hrows (stored_noteSchema hnote) hinsert

/-! ### The whole source -/

section Source

variable {σ : Type} [BatchSource σ] {source source' final : σ} {rest : List Batch}
  {ending : Option JoinError} {first : Option Batch}

theorem counted_drain (h : l.Counted m config.minBuckets)
    (hdrain : l.drain config probeSchema source = (result, source', l')) :
    l'.Counted m config.minBuckets := by
  fun_induction Loading.drain config probeSchema source l with
  | case1 =>
    cases hdrain
    exact h
  | case2 =>
    cases hdrain
    exact h
  | case3 source l b source₁ _ _ e l₁ hacc =>
    cases hdrain
    exact counted_accept h hacc
  | case4 source l b source₁ _ _ l₁ hacc ih => exact ih (counted_accept h hacc) hdrain

/-- The loop stores the first batches with rows that the source delivers, and all of them if it comes
to its end. -/
theorem stored_drain (hdelivers : Delivers .build source rest ending final)
    (hdrain : l.drain config probeSchema source = (result, source', l')) :
    ∃ more, l'.stored = l.stored ++ more ∧ more <+: rowBatches rest ∧
      (result = .ok () → more = rowBatches rest) := by
  -- on the batches of the source
  induction hdelivers generalizing l with
  | ended hpull =>
    rw [drain_eq, hpull] at hdrain
    cases hdrain
    exact ⟨[], (List.append_nil _).symm, List.nil_prefix, fun _ => rfl⟩
  | broken hpull =>
    rw [drain_eq, hpull] at hdrain
    cases hdrain
    exact ⟨[], (List.append_nil _).symm, List.nil_prefix, fun _ => rfl⟩
  | @batch _ _ _ b batches _ hpull _ ih =>
    rw [drain_eq, hpull] at hdrain
    have hsplit : rowBatches (b :: batches) = rowBatches [b] ++ rowBatches batches :=
      rowBatches_append [b] batches
    simp only at hdrain
    split at hdrain
    · next hacc =>
      cases hdrain
      rcases stored_accept hacc with ⟨hok, -⟩ | ⟨_, -, hkept⟩
      · cases hok
      · refine ⟨[], by rw [List.append_nil]; exact hkept, List.nil_prefix, ?_⟩
        intro hended
        cases hended
    · next hacc =>
      rcases stored_accept hacc with ⟨-, hmore⟩ | ⟨_, herr, -⟩
      · obtain ⟨more, hstored, hprefix, hall⟩ := ih hdrain
        refine ⟨rowBatches [b] ++ more, ?_, ?_, ?_⟩
        · rw [hstored, hmore, List.append_assoc]
        · rw [hsplit]
          exact (List.prefix_append_right_inj _).mpr hprefix
        · intro hok
          rw [hsplit, hall hok]
      · cases herr

theorem counted_acceptFirst (h : l.Counted m config.minBuckets)
    (hfirst : l.acceptFirst config probeSchema first = (result, l')) :
    l'.Counted m config.minBuckets := by
  cases first with
  | none =>
    cases hfirst
    exact h
  | some b => exact counted_accept h hfirst

theorem stored_acceptFirst (hfirst : l.acceptFirst config probeSchema first = (result, l')) :
    (result = .ok () ∧ l'.stored = l.stored ++ rowBatches first.toList) ∨
      ∃ e, result = .error e ∧ l'.stored = l.stored := by
  cases first with
  | none =>
    cases hfirst
    exact .inl ⟨rfl, (List.append_nil _).symm⟩
  | some b => exact stored_accept hfirst

theorem counted_finish {declared : Option Schema} {keys : Except JoinError JoinKeys}
    (h : l.Counted m config.minBuckets)
    (hfinish : l.finish config declared probeSchema = (keys, l')) :
    l'.Counted m config.minBuckets ∧ l'.stored = l.stored := by
  simp only [finish] at hfinish
  split at hfinish
  · cases hfinish
    exact ⟨⟨h.metrics, h.table⟩, rfl⟩
  · cases hfinish
    exact ⟨⟨h.metrics, h.table⟩, rfl⟩

/-- Wherever the build phase stops, the counters tell of the stored batches. These are the first batches
with rows of the source, and all of them if it ends well. -/
theorem counted_fill {keys : Except JoinError JoinKeys} (h : l.Counted m config.minBuckets)
    (hempty : l.stored = []) (hdelivers : Delivers .build source rest ending final)
    (hfill : l.fill config probeSchema first source = (keys, source', l')) :
    l'.Counted m config.minBuckets ∧ l'.stored <+: rowBatches (first.toList ++ rest) := by
  rw [rowBatches_append]
  cases fills_of_fill hfill with
  | refused hfirst =>
    refine ⟨counted_acceptFirst h hfirst, ?_⟩
    rcases stored_acceptFirst hfirst with ⟨hok, -⟩ | ⟨_, -, hkept⟩
    · cases hok
    · rw [hkept, hempty]
      exact List.nil_prefix
  | stopped hfirst hdrain =>
    refine ⟨counted_drain (counted_acceptFirst h hfirst) hdrain, ?_⟩
    rcases stored_acceptFirst hfirst with ⟨-, hmore⟩ | ⟨_, herr, -⟩
    · obtain ⟨more, hstored, hprefix, -⟩ := stored_drain hdelivers hdrain
      rw [hstored, hmore, hempty, List.nil_append]
      exact (List.prefix_append_right_inj _).mpr hprefix
    · cases herr
  | finished hfirst hdrain hfinish =>
    obtain ⟨hcounted, hsame⟩ :=
      counted_finish (counted_drain (counted_acceptFirst h hfirst) hdrain) hfinish
    refine ⟨hcounted, ?_⟩
    rcases stored_acceptFirst hfirst with ⟨-, hmore⟩ | ⟨_, herr, -⟩
    · obtain ⟨more, hstored, -, hall⟩ := stored_drain hdelivers hdrain
      have hwhole : l'.stored = rowBatches first.toList ++ rowBatches rest := by
        rw [hsame, hstored, hmore, hempty, List.nil_append, hall rfl]
      exact hwhole ▸ List.prefix_rfl
    · cases herr

end Source

end Loading

/-! ### The build side -/

/-- A build side that all batches of a source have filled, with the shape of its table. -/
structure BuildSide.Charted (s : BuildSide) (minBuckets : Nat) (loaded : List Batch) : Prop where
  /-- The batches with rows are stored. -/
  batches : s.store.batches.toList = rowBatches loaded
  /-- The rows are counted. -/
  rowCount : s.store.rowCount = (streamRows loaded).length
  /-- Every row has a slot. -/
  slots : (streamRows loaded).length ≤ SlotTable.maxSlots
  /-- The table is lacking as long as there are no rows. -/
  bare : s.table = none ↔ streamRows loaded = []
  /-- The table has a slot for each row. -/
  entries : ∀ t, s.table = some t → t.length = (streamRows loaded).length
  /-- The buckets are those at the start, doubled as often as is counted. -/
  buckets : ∀ t, s.table = some t →
    t.buckets = (max minBuckets 1).nextPowerOfTwo <<< t.resizes

/-- There are slots for fewer rows than a counter can count, so the counter of the rows is exact. -/
theorem BuildSide.Charted.entries_eq {s : BuildSide} {minBuckets n r : Nat} {loaded : List Batch}
    {t : SlotTable} (h : s.Charted minBuckets loaded) (htable : s.table = some t)
    (hcounts : Counts n r (rowBatches loaded)) : t.length = r := by
  have hslots := h.slots
  have hword : SlotTable.maxSlots ≤ wordMax := by decide
  rw [h.entries t htable, hcounts.rows, streamRows_rowBatches]
  omega

/-- When the build phase ends well, all batches of the source have filled the build side. -/
theorem Loading.charted_of_fill {config : Config} {probeSchema : Option Schema} {σ : Type}
    [BatchSource σ] {source source' final : σ} {first : Option Batch} {rest : List Batch}
    {ending : Option JoinError} {budget : Budget} {m metrics : Metrics} {keys : JoinKeys} {l : Loading}
    (hdelivers : Delivers .build source rest ending final)
    (hfill : fill config probeSchema first source ⟨none, .empty, .empty, budget, metrics⟩ =
      (.ok keys, source', l)) (hcounted : l.Counted m config.minBuckets) :
    l.side.Charted config.minBuckets (first.toList ++ rest) := by
  obtain ⟨-, haligned⟩ := aligned_of_fill hdelivers hfill
  rcases filled_of_fill hdelivers hfill with ⟨_, herr, -⟩ | ⟨_, -, -, hfilled⟩
  · cases herr
  have htable : ∀ t, l.side.table = some t → ∃ keys, l.table = some (t, keys) := by
    intro t ht
    obtain ⟨⟨t, keys⟩, htable, rfl⟩ := Option.map_eq_some_iff.mp ht
    exact ⟨keys, htable⟩
  refine ⟨haligned.batches, hfilled.rowCount, hfilled.slots, hfilled.holds.bare, ?_, ?_⟩
  · intro t ht
    rw [SlotTable.length_of_holds (hfilled.holds.table t ht), List.length_map]
  · intro t ht
    obtain ⟨keys, hmade⟩ := htable t ht
    exact (hcounted.table t keys hmade).buckets

end HashJoin
