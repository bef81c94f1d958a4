import HashJoin.Checked.Filling
import HashJoin.Proofs.BuildSide.Filling
import HashJoin.Proofs.Checked.Rows
import HashJoin.Proofs.Checked.Table
import HashJoin.Proofs.Source.Reliable

/-!
# The checked build phase is the build phase

For every batch of a reliable source, whatever batches came before and wherever the phase stops, the keys
and the table are there when rows are to be inserted, a slot is linked in order, a row has an address, and
the store takes every schema that it is to take. The number of a batch fits into a word of 32 bits: every
stored batch has a row, and there are fewer slots than numbers.

## Main definitions

* `Filling.ofLoading` — the parts of a build side that is being filled.

## Main results

* `accept_eq`, `drain_eq` — one more batch, and all that a source delivers.
* `fillBuild_eq` — **the build phase.**
-/

namespace HashJoin

/-- A build side that is being filled, without the keys. -/
def Filling.ofLoading (l : Loading) : Filling :=
  ⟨l.table.map Prod.fst, l.ledger, l.store, l.budget, l.metrics⟩

/-- The keys of a build side that is being filled. -/
def Loading.keys? (l : Loading) : Option JoinKeys := l.table.map Prod.snd

namespace Checked

open BatchSource
open Loading (Took)

/-! ### One batch -/

section Batches

variable {config : Config} {probeSchema : Option Schema} {l : Loading} {taken : List Batch}
  {batch : Batch} {keys : JoinKeys} {index row : Nat} {table : SlotTable} {ledger : MatchLedger}
  {budget : Budget}

/-- The rows of a batch are inserted by indexes in range, and linked in order. -/
theorem insertRows_eq {hs : List UInt32} (hcolumns : HasColumns batch) (hkeys : Covers batch keys.build)
    (hsize : batch.rowCount ≤ maxBatchRows) (htable : table.Holds hs)
    (hledger : ledger.length = hs.length) :
    insertRows keys batch index row table ledger budget =
      pure (Loading.insertRows keys batch index row table ledger budget) := by
  have hhash : ∀ {row : Nat}, row < batch.rowCount →
      hashRow keys.build batch row = pure (keys.hashBuild batch row) :=
    fun hrow => hashRow_eq ⟨hcolumns, hrow⟩ hkeys
  -- on the rows, with one more hash in the table for each of them
  fun_induction Loading.insertRows keys batch index row table ledger budget generalizing hs with
  | case1 row table ledger budget hrow e table' budget' hinsert =>
    rw [insertRows, if_pos hrow, hhash hrow, pure_bind, insert_eq htable, hinsert, pure_bind]
  | case2 row table ledger budget hrow slot table' budget' hinsert href =>
    rw [RowRef.of?, dif_pos (Nat.lt_of_lt_of_le hrow hsize)] at href
    cases href
  | case3 row table ledger budget hrow slot table' budget' hinsert ref href e ledger' budget'' hlink =>
    have hslot : slot = ledger.length := by
      rcases SlotTable.insert_of_holds htable hinsert with ⟨_, herr, -⟩ | ⟨hok, -⟩
      · cases herr
      · cases hok
        exact hledger.symm
    rw [insertRows, if_pos hrow, hhash hrow, pure_bind, insert_eq htable, hinsert, pure_bind]
    simp only [href, link_eq hslot, hlink, pure_bind]
  | case4 row table ledger budget hrow slot table' budget' hinsert ref href ledger' budget'' hlink ih =>
    rcases SlotTable.insert_of_holds htable hinsert with ⟨_, herr, -⟩ | ⟨hok, htable'⟩
    · cases herr
    · cases hok
      rw [insertRows, if_pos hrow, hhash hrow, pure_bind, insert_eq htable, hinsert, pure_bind]
      simp only [href, link_eq hledger.symm, hlink, pure_bind]
      refine ih htable' ?_
      rw [MatchLedger.length_of_link hlink, hledger, List.length_append]
      rfl
  | case5 row table ledger budget hrow => rw [insertRows, if_neg hrow]

/-- A batch is inserted into the table that is there, and stored under a number that is not wrapped. -/
theorem insertBatch_eq {hs : List UInt32} (hcolumns : HasColumns batch)
    (hkeys : Covers batch keys.build) (hsize : batch.rowCount ≤ maxBatchRows)
    (hindex : l.store.nextIndex < BuildStore.maxBatches) (htable : table.Holds hs)
    (hledger : l.ledger.length = hs.length) :
    insertBatch ⟨some table, l.ledger, l.store, l.budget, l.metrics⟩ keys batch =
      pure ((l.insertBatch table keys batch).1, .ofLoading (l.insertBatch table keys batch).2) := by
  obtain ⟨_, ledger, store, budget, metrics⟩ := l
  simp only [insertBatch, nextIndex_eq hindex, insertRows_eq hcolumns hkeys hsize htable hledger,
    pure_bind, Loading.insertBatch]
  rcases Loading.insertRows keys batch store.nextIndex 0 table ledger budget with
    ⟨_ | _, table', ledger', budget'⟩
  · rfl
  · simp only [absorb_eq hindex, pure_bind]
    rcases store.absorb batch budget' with _ | ⟨_, store', budget''⟩
    · rfl
    · rfl

/-- The schema of a batch is captured where it is noted. -/
theorem noteFirst_eq {s noted : BuildStore} (h : Loading.noteSchema s batch = .ok noted) :
    ∃ first, noteFirst s batch = pure first ∧ (batch.rowCount = 0 → first = noted) ∧
      (batch.rowCount ≠ 0 → supersede first batch = pure noted) := by
  obtain ⟨schema, batches, rowCount, reservedBytes⟩ := s
  cases schema with
  | none =>
    have hempty : batches.isEmpty = true := by
      cases hstored : batches.isEmpty with
      | true => rfl
      | false => simp [Loading.noteSchema, BuildStore.captureSchema, hstored] at h
    simp only [Loading.noteSchema, BuildStore.captureSchema, Option.any_none, Bool.false_eq_true, if_false,
      hempty, if_true, Except.ok.injEq] at h
    subst h
    have hconforms : batch.conforms batch.schema = true := beq_self_eq_true _
    refine ⟨_, captureSchema_eq hempty batch.schema, fun _ => rfl, fun _ => ?_⟩
    simp [supersede, hconforms]
  | some schema =>
    refine ⟨_, rfl, fun hrows => ?_, fun hrows => ?_⟩
    · simp only [Loading.noteSchema, hrows, Option.any_some, decide_true, Bool.true_or, if_true,
        Except.ok.injEq] at h
      exact h
    · cases hempty : batches.isEmpty with
      | false =>
        simp [Loading.noteSchema, hempty] at h
        simp [supersede, hempty, h]
      | true =>
        cases hconforms : batch.conforms schema with
        | true =>
          simp [Loading.noteSchema, hconforms] at h
          simp [supersede, hconforms, h]
        | false =>
          simp [Loading.noteSchema, BuildStore.captureSchema, hempty, hconforms, hrows] at h
          simp [supersede, captureSchema, hempty, hconforms, h]

/-- Opening the table, where there is none. -/
theorem openTable_eq (config : Config) (probeSchema : Option Schema) (keys : Option JoinKeys)
    (htable : l.table = none) : openTable config probeSchema keys (.ofLoading l) =
      pure (match l.openTable config probeSchema with
        | .error e => .error e
        | .ok (table, keys, budget) =>
          .ok (some keys, ⟨some table, l.ledger, l.store, budget, l.metrics⟩)) := by
  obtain ⟨_, ledger, store, budget, metrics⟩ := l
  subst htable
  simp only [openTable, Filling.ofLoading, Option.map_none, resolve_eq, pure_bind, Loading.openTable]
  cases JoinKeys.resolve config.conditions store.schema probeSchema with
  | error e => rfl
  | ok keys =>
    simp only [bind, Except.bind]
    cases SlotTable.create config.minBuckets config.loadFactor budget with
    | error e => rfl
    | ok made => rfl

/-- What taking a batch in comes to, in parts. -/
def taking (r : Except JoinError Unit × Loading) : Except JoinError (Option JoinKeys) × Filling :=
  (r.1.map fun _ => r.2.keys?, .ofLoading r.2)

/-- The keys of a batch that has been inserted are there. -/
theorem taking_insertBatch (l : Loading) (table : SlotTable) (keys : JoinKeys) (batch : Batch) :
    taking (l.insertBatch table keys batch) =
      ((l.insertBatch table keys batch).1.map fun _ => some keys,
        .ofLoading (l.insertBatch table keys batch).2) := by
  rcases hinsert : l.insertBatch table keys batch with ⟨result, l'⟩
  cases Loading.inserting_of_insertBatch hinsert with
  | refused => rfl
  | unstored => rfl
  | stored => rfl

/-- The rows of a batch are inserted behind others. -/
theorem insertBatch_of_took (noted : Loading) (h : l.Took config probeSchema taken)
    (hcolumns : HasColumns batch) (hrows : batch.rowCount ≠ 0)
    (hstore : noted.store = { l.store with schema := streamSchema (taken ++ [batch]) })
    (hledger : noted.ledger = l.ledger) (hinspect : noted.store.inspect batch = .ok ())
    (hkeys : JoinKeys.resolve config.conditions (streamSchema (taken ++ [batch])) probeSchema = .ok keys)
    (htable : table.Holds ((streamRows taken).map keys.rowHash)) :
    (do
      match ← insertBatch ⟨some table, noted.ledger, noted.store, noted.budget, noted.metrics⟩ keys
        batch with
      | (.error e, f) => return (.error e, f)
      | (.ok (), f) => return (.ok (some keys), f)) =
      (pure (taking (noted.insertBatch table keys batch)) : Checked _) := by
  obtain ⟨schema, hschema, -⟩ := Loading.streamSchema_of_took h hrows
  obtain ⟨-, hsize, hconforms⟩ := BuildStore.inspect_eq_ok_iff.mp hinspect
  have hnoted : noted.store.schema = some schema := by
    rw [hstore]
    exact hschema
  have hcovers : Covers batch keys.build := by
    rw [hschema, ← hconforms schema hnoted] at hkeys
    exact JoinKeys.lt_of_resolve_build hkeys
  have hindex : noted.store.nextIndex < BuildStore.maxBatches := by
    rw [hstore]
    exact Loading.nextIndex_lt_of_took h
  have hlength : noted.ledger.length = ((streamRows taken).map keys.rowHash).length := by
    rw [hledger, h.serves.length, List.length_map]
  rw [insertBatch_eq hcolumns hcovers hsize hindex htable hlength, pure_bind, taking_insertBatch]
  rcases noted.insertBatch table keys batch with ⟨_ | _, l'⟩
  · rfl
  · rfl

/-- **A batch is taken in** behind others: the keys and the table are there, and no check fails. -/
theorem accept_eq (h : l.Took config probeSchema taken) (hcolumns : HasColumns batch) :
    accept config probeSchema l.keys? (.ofLoading l) batch =
      pure (taking (l.accept config probeSchema batch)) := by
  have hnoted := Loading.noteSchema_of_took batch h
  obtain ⟨noted, hstore⟩ :
      ∃ noted, noted = { l.store with schema := streamSchema (taken ++ [batch]) } := ⟨_, rfl⟩
  rw [← hstore] at hnoted
  obtain ⟨first, hfirst, hempty, hsupersede⟩ := noteFirst_eq hnoted
  simp only [accept, Loading.accept, hnoted]
  rw [show (Filling.ofLoading l).store = l.store from rfl, hfirst, pure_bind]
  by_cases hrows : batch.rowCount = 0
  · rw [if_pos hrows, if_pos hrows, hempty hrows]
    rfl
  · rw [if_neg hrows, if_neg hrows, hsupersede hrows, pure_bind]
    cases hinspect : noted.inspect batch with
    | error e => rfl
    | ok =>
      cases htable : l.table with
      | none =>
        have hopened := openTable_eq (l := { l with store := noted }) config probeSchema l.keys? htable
        simp only [Filling.ofLoading, htable, Option.map_none] at hopened ⊢
        rw [hopened, pure_bind]
        cases hopen : Loading.openTable config probeSchema
          ⟨none, l.ledger, noted, l.budget, l.metrics⟩ with
        | error e => rfl
        | ok opened =>
          obtain ⟨table, keys, budget⟩ := opened
          obtain ⟨hkeys, hnew⟩ := Loading.openTable_eq_ok hopen
          have hholds : table.Holds ((streamRows taken).map keys.rowHash) := by
            rw [h.bare.mp htable]
            exact SlotTable.holds_create hnew
          rw [hstore] at hkeys
          exact insertBatch_of_took ⟨none, l.ledger, noted, budget, l.metrics⟩ h hcolumns hrows hstore
            rfl hinspect hkeys hholds
      | some keyed =>
        obtain ⟨table, keys⟩ := keyed
        obtain ⟨hholds, hkeys⟩ := Loading.keys_of_took batch h htable
        simp only [Filling.ofLoading, htable, Option.map_some, openTable, pure_bind, Loading.keys?]
        exact insertBatch_of_took ⟨none, l.ledger, noted, l.budget, l.metrics⟩ h hcolumns hrows hstore
          rfl hinspect hkeys hholds

end Batches

/-! ### The whole source -/

section Source

variable {σ : Type} [BatchSource σ] {source : σ} {config : Config} {probeSchema : Option Schema}
  {l : Loading} {taken : List Batch}

/-- What taking in all batches does first. -/
theorem drain_of_pull (keys : Option JoinKeys) (f : Filling) : drain config probeSchema source keys f =
    match pull .build source with
    | (.error e, rest) => pure (.error e, rest, f)
    | (.ok none, rest) => pure (.ok keys, rest, f)
    | (.ok (some batch), rest) => (do
      match ← accept config probeSchema keys f batch with
      | (.error e, f) => return (.error e, rest, f)
      | (.ok keys, f) => drain config probeSchema rest keys f) := by
  rw [drain]
  split
  · next hpull => rw [hpull]
  · next hpull => rw [hpull]
  · next hpull =>
    dsimp only
    rewrite [hpull]
    rfl

/-- **All batches of a source are taken in**, as far as they are not refused. -/
theorem drain_eq (h : l.Took config probeSchema taken) (hsource : Reliable source) :
    drain config probeSchema source l.keys? (.ofLoading l) =
      pure ((l.drain config probeSchema source).1.map fun _ =>
          (l.drain config probeSchema source).2.2.keys?,
        (l.drain config probeSchema source).2.1,
        .ofLoading (l.drain config probeSchema source).2.2) := by
  -- on the pulls, with one more batch taken in behind the others each time
  fun_induction Loading.drain config probeSchema source l generalizing taken with
  | case1 source l e rest hpull =>
    rw [drain_of_pull, hpull]
    rfl
  | case2 source l rest hpull =>
    rw [drain_of_pull, hpull]
    rfl
  | case3 source l batch rest hpull _ e l' haccept =>
    obtain ⟨-, hbatch, -⟩ := pull_of_reliable hsource hpull
    rw [drain_of_pull, hpull]
    simp only [accept_eq h (hbatch batch rfl), haccept, pure_bind]
    rfl
  | case4 source l batch rest hpull _ l' haccept ih =>
    obtain ⟨hreaches, hbatch, -⟩ := pull_of_reliable hsource hpull
    rcases Loading.took_accept h haccept with ⟨_, herr, -⟩ | ⟨-, h'⟩
    · cases herr
    · rw [← ih h' (hsource.of_reaches hreaches), drain_of_pull, hpull]
      simp only [accept_eq h (hbatch batch rfl), haccept, pure_bind]
      rfl

/-- The schema that the source has announced is captured where there is none: there are no batches. -/
theorem captureDeclared_eq (h : l.Took config probeSchema taken) (declared : Option Schema) :
    captureDeclared l.store declared =
      pure { l.store with schema := l.store.schema.or declared } := by
  cases hschema : l.store.schema with
  | some schema => simp [captureDeclared, hschema, Loading.with_schema hschema]
  | none =>
    cases declared with
    | none => simp [captureDeclared, hschema, Loading.with_schema hschema]
    | some schema =>
      have htaken : taken = [] := streamSchema_eq_none (h.schema.symm.trans hschema)
      have hbatches := h.batches
      rw [htaken] at hbatches
      have hempty : l.store.batches.isEmpty = true := by simpa using hbatches
      simp [captureDeclared, hschema, captureSchema_eq hempty]

theorem settleKeys_eq (h : l.Took config probeSchema taken) (declared : Option Schema) :
    settleKeys config declared probeSchema l.keys? (.ofLoading l) =
      pure ((l.finish config declared probeSchema).1,
        .ofLoading (l.finish config declared probeSchema).2) := by
  have hcaptured := captureDeclared_eq h declared
  obtain ⟨_ | ⟨table, keys⟩, ledger, store, budget, metrics⟩ := l
  · simp only [settleKeys, Filling.ofLoading, hcaptured, pure_bind, Loading.keys?, Option.map_none,
      resolve_eq, Loading.finish]
  · simp only [settleKeys, Filling.ofLoading, hcaptured, pure_bind, Loading.keys?, Option.map_some,
      Loading.finish]

theorem acceptFirst_eq {first : Option Batch} {budget : Budget} {metrics : Metrics}
    (hfirst : ∀ batch, first = some batch → HasColumns batch) :
    acceptFirst config probeSchema first (.ofLoading ⟨none, .empty, .empty, budget, metrics⟩) =
      pure (taking (Loading.acceptFirst config probeSchema ⟨none, .empty, .empty, budget, metrics⟩
        first)) := by
  cases first with
  | none => rfl
  | some batch => exact accept_eq (Loading.took_nil budget metrics) (hfirst batch rfl)

/-- **The build phase**: whatever a reliable source delivers, no check fails and no index is out of
range. -/
theorem fillBuild_eq {first : Option Batch} {budget : Budget} {metrics : Metrics}
    (hfirst : ∀ batch, first = some batch → HasColumns batch) (hsource : Reliable source) :
    fillBuild config probeSchema first source
        (.ofLoading ⟨none, .empty, .empty, budget, metrics⟩) =
      pure (match Loading.fill config probeSchema first source ⟨none, .empty, .empty, budget, metrics⟩ with
        | (result, source, l) => (result, source, .ofLoading l)) := by
  rw [fillBuild, acceptFirst_eq hfirst, pure_bind, Loading.fill]
  rcases haccept : Loading.acceptFirst config probeSchema ⟨none, .empty, .empty, budget, metrics⟩ first
    with ⟨result, l⟩
  rcases Loading.took_acceptFirst haccept with ⟨e, _, -, rfl, -⟩ | ⟨rfl, h⟩
  · rfl
  · simp only [taking, Except.map, drain_eq h hsource, pure_bind]
    rcases hdrain : l.drain config probeSchema source with ⟨result, source', l'⟩
    obtain ⟨batches, ending, _, hdelivers⟩ := exists_delivers .build source
    rcases Loading.took_drain none hdelivers h hdrain with ⟨e, rfl, -⟩ | ⟨rfl, -, -, h'⟩
    · rfl
    · simp only [settleKeys_eq h', pure_bind]

end Source

end Checked
end HashJoin
