import HashJoin.Proofs.BuildSide.Tally
import HashJoin.Proofs.Key.Faults

/-!
# The first offence of a build source

Whether the build phase fails, and why, can be read off a script step by step. A failure is an offence.
So is a batch with rows if it has a selection, or too many rows, or not the schema of the rows before
it; if it has the first rows, and the keys cannot be resolved by its schema; or if there is no memory for
it, or no slots. If no rows come, the keys have to be resolved in the end. Delays and batches without
rows are no offences.

## Main definitions

* `Stock` — the schema and the numbers of the rows that have been taken in.
* `Stock.receive` — the stock after one more batch, or why the batch is refused.
* `firstOffence?` — the first offence of some steps.
* `Loading.Counts` — a build side of which this is the stock.
* `Loading.Received` — a batch has met with the same from both.

## Main results

* `received_of_accept` — a batch is refused for what is wrong with it.
* `fill_eq_error_iff` — **the build phase fails at the first offence.**
* `firstOffence?_filter` — delays and batches without rows make no difference.
-/

namespace HashJoin

/-- What can be said of the rows that have been taken in, once there are any. -/
structure Stock where
  /-- Their schema. -/
  schema : Schema
  /-- Their numbers. -/
  tally : Tally

namespace Stock

variable (config : Config) (probeSchema : Option Schema)

/-- The stock after the rows of one more batch, unless they are refused. -/
def add (b : Batch) : Option Stock → Except JoinError (Option Stock)
  | some ⟨schema, tally⟩ =>
    if b.schema = schema then
      (tally.addBatch config.loadFactor b).map fun tally => some ⟨schema, tally⟩
    else .error (.schemaChanged .build schema b.schema)
  | none =>
    match JoinKeys.fault? config.conditions (some b.schema) probeSchema with
    | some e => .error e
    | none =>
      (Tally.create config.minBuckets (.ofLimit config.memoryLimit) >>=
        Tally.addBatch config.loadFactor b).map fun tally => some ⟨b.schema, tally⟩

/-- The stock after one more batch, unless the batch is refused. -/
def receive (stock : Option Stock) (b : Batch) : Except JoinError (Option Stock) :=
  if b.rowCount = 0 then .ok stock
  else if b.isDense = false then .error (.unsupported .build .selection)
  else if maxBatchRows < b.rowCount then .error (.unsupported .build (.batchRows b.rowCount))
  else add config probeSchema b stock

end Stock

/-- The first offence of some steps, behind some rows. If no rows come, the keys are resolved by the
`bare` schema. -/
def firstOffence? (config : Config) (probeSchema bare : Option Schema) :
    Option Stock → List ScriptStep → Option JoinError
  | some _, [] => none
  | none, [] => JoinKeys.fault? config.conditions bare probeSchema
  | stock, .notYet :: rest => firstOffence? config probeSchema bare stock rest
  | _, .fail e :: _ => some e
  | stock, .batch b :: rest =>
    match Stock.receive config probeSchema stock b with
    | .error e => some e
    | .ok stock => firstOffence? config probeSchema bare stock rest

/-- Whether a step brings no rows. -/
def ScriptStep.isIdle : ScriptStep → Bool
  | .batch b => b.rowCount == 0
  | .notYet => true
  | .fail _ => false

/-- **Delays and batches without rows make no difference**, whatever the schemas of the batches are and
whether they are dense or not. -/
theorem firstOffence?_filter (config : Config) (probeSchema bare : Option Schema) (stock : Option Stock)
    (steps : List ScriptStep) :
    firstOffence? config probeSchema bare stock (steps.filter fun step => !step.isIdle) =
      firstOffence? config probeSchema bare stock steps := by
  induction steps generalizing stock with
  | nil => rfl
  | cons step rest ih =>
    cases step with
    | notYet =>
      rw [List.filter_cons_of_neg (by nofun), firstOffence?]
      exact ih stock
    | fail e =>
      rw [List.filter_cons_of_pos rfl]
      cases stock <;> rfl
    | batch b =>
      by_cases hrows : b.rowCount = 0
      · have hpassed : Stock.receive config probeSchema stock b = .ok stock := by
          rw [Stock.receive, if_pos hrows]
        rw [List.filter_cons_of_neg (by simp [ScriptStep.isIdle, hrows]), firstOffence?, hpassed]
        exact ih stock
      · rw [List.filter_cons_of_pos (by simp [ScriptStep.isIdle, hrows]), firstOffence?, firstOffence?]
        cases Stock.receive config probeSchema stock b with
        | error e => rfl
        | ok stock' => exact ih stock'

namespace Loading

variable {config : Config} {probeSchema : Option Schema} {l l' : Loading} {taken : List Batch}
  {batch : Batch} {stock : Option Stock} {result : Except JoinError Unit}

/-! ### One batch -/

/-- The build side has this stock. -/
def Counts (config : Config) (l : Loading) : Option Stock → Prop
  | none => l.table = none ∧ l.ledger = .empty ∧ l.budget = .ofLimit config.memoryLimit
  | some ⟨schema, tally⟩ => l.store.schema = some schema ∧ ∃ table keys, l.table = some (table, keys) ∧
      table.loadFactor = config.loadFactor ∧ tally = .ofParts table l.ledger l.budget

/-- A batch that the store accepts is refused only for its rows. -/
theorem receive_of_inspect {store : BuildStore} (hrows : batch.rowCount ≠ 0)
    (hinspect : store.inspect batch = .ok ()) :
    Stock.receive config probeSchema stock batch = Stock.add config probeSchema batch stock := by
  obtain ⟨hdense, hsize, -⟩ := BuildStore.inspect_eq_ok_iff.mp hinspect
  have hwhole : ¬batch.isDense = false := by
    rw [hdense]
    nofun
  rw [Stock.receive, if_neg hrows, if_neg hwhole, if_neg (Nat.not_lt_of_le hsize)]

/-- A batch that the store does not accept is refused for the same reason, if the schema of the store is
that of the rows before. -/
theorem receive_of_rejected {store : BuildStore} {e : JoinError} (hrows : batch.rowCount ≠ 0)
    (hbare : stock = none → store.schema = some batch.schema)
    (hknown : ∀ held, stock = some held → store.schema = some held.schema)
    (hinspect : store.inspect batch = .error e) :
    Stock.receive config probeSchema stock batch = .error e := by
  rw [Stock.receive, if_neg hrows]
  unfold BuildStore.inspect at hinspect
  split at hinspect
  · next hdense =>
    cases hinspect
    exact if_pos (by simpa using hdense)
  · next hdense =>
    rw [if_neg (by simpa using hdense)]
    split at hinspect
    · next hsize =>
      cases hinspect
      exact if_pos hsize
    · next hsize =>
      rw [if_neg hsize]
      cases hstock : stock with
      | none =>
        have hsame : batch.conforms batch.schema = true := beq_self_eq_true batch.schema
        simp only [hbare hstock] at hinspect
        rw [if_pos hsame] at hinspect
        cases hinspect
      | some held =>
        simp only [hknown held hstock] at hinspect
        split at hinspect
        · cases hinspect
        · next hconforms =>
          cases hinspect
          exact if_neg (mt beq_iff_eq.mpr hconforms)

/-- A batch has been refused as it is by the stock, or both have taken it in. -/
def Received (config : Config) (probeSchema : Option Schema) (stock : Option Stock) (batch : Batch)
    (result : Except JoinError Unit) (l' : Loading) : Prop :=
  (∃ e, result = .error e ∧ Stock.receive config probeSchema stock batch = .error e) ∨
    (result = .ok () ∧ ∃ stock', Stock.receive config probeSchema stock batch = .ok stock' ∧
      l'.Counts config stock')

/-- Rows that the stock adds to the numbers of a table are refused, or taken in, as they are there. -/
theorem received_of_insertBatch {table : SlotTable} {keys : JoinKeys} {hs : List UInt32}
    {schema : Schema} (hins : l.insertBatch table keys batch = (result, l'))
    (hinspect : l.store.inspect batch = .ok ()) (hindex : l.store.nextIndex < BuildStore.maxBatches)
    (hholds : table.Holds hs) (hledger : l.ledger.length = hs.length)
    (hfactor : table.loadFactor = config.loadFactor)
    (hkept : result = .ok () → l'.store.schema = some schema)
    (hreceive : Stock.receive config probeSchema stock batch =
      ((Tally.ofParts table l.ledger l.budget).addBatch config.loadFactor batch).map
        fun tally => some ⟨schema, tally⟩) :
    Received config probeSchema stock batch result l' := by
  rcases Tally.addBatch_ofParts hholds hledger hinspect hindex hins with
    ⟨e, rfl, hadd⟩ | ⟨rfl, table', htable, hfactor', hadd⟩
  · rw [hfactor] at hadd
    rw [hadd] at hreceive
    exact .inl ⟨e, rfl, hreceive⟩
  · rw [hfactor] at hadd
    rw [hadd] at hreceive
    exact .inr ⟨rfl, _, hreceive, hkept rfl, table', keys, htable, hfactor'.trans hfactor, rfl⟩

/-- The first rows are refused before the table is opened for the same reason as in the stock. -/
theorem add_of_unopened {e : JoinError} (hopen : l.openTable config probeSchema = .error e)
    (hschema : l.store.schema = some batch.schema) (hbudget : l.budget = .ofLimit config.memoryLimit) :
    Stock.add config probeSchema batch none = .error e := by
  rw [openTable, hschema, hbudget] at hopen
  rw [Stock.add, Tally.create_ofParts _ config.loadFactor]
  cases hkeys : JoinKeys.resolve config.conditions (some batch.schema) probeSchema with
  | error fault =>
    rw [hkeys] at hopen
    cases hopen
    rw [JoinKeys.resolve_eq_error_iff.mp hkeys]
  | ok keys =>
    rw [hkeys] at hopen
    rw [JoinKeys.fault?_eq_none hkeys]
    cases hnew : SlotTable.create config.minBuckets config.loadFactor
        (.ofLimit config.memoryLimit) with
    | error refused =>
      rw [hnew] at hopen
      cases hopen
      rfl
    | ok made =>
      rw [hnew] at hopen
      cases hopen

/-- Once it is opened, they are added to an empty table. -/
theorem add_of_opened {table : SlotTable} {keys : JoinKeys} {budget : Budget}
    (hopen : l.openTable config probeSchema = .ok (table, keys, budget))
    (hschema : l.store.schema = some batch.schema) (hbudget : l.budget = .ofLimit config.memoryLimit) :
    table.Holds [] ∧ table.loadFactor = config.loadFactor ∧
      Stock.add config probeSchema batch none =
        ((Tally.ofParts table .empty budget).addBatch config.loadFactor batch).map
          fun tally => some ⟨batch.schema, tally⟩ := by
  obtain ⟨hkeys, hnew⟩ := openTable_eq_ok hopen
  rw [hschema] at hkeys
  rw [hbudget] at hnew
  have hfactor : table.loadFactor = config.loadFactor := by
    rw [(SlotTable.create_eq_ok hnew).2]
  refine ⟨SlotTable.holds_create hnew, hfactor, ?_⟩
  rw [Stock.add, JoinKeys.fault?_eq_none hkeys, Tally.create_ofParts _ config.loadFactor, hnew]
  rfl

/-- Before the table is opened there is no stock. -/
theorem eq_none_of_counts (hcounts : l.Counts config stock) (htable : l.table = none) : stock = none := by
  cases stock with
  | none => rfl
  | some held =>
    obtain ⟨-, table, keys, hsome, -⟩ := hcounts
    cases htable.symm.trans hsome

/-- The schema that stands when a batch with rows arrives is that of the stock, or its own. -/
theorem streamSchema_of_counts (h : l.Took config probeSchema taken) (hcounts : l.Counts config stock)
    (hrows : batch.rowCount ≠ 0) :
    (stock = none → streamSchema (taken ++ [batch]) = some batch.schema) ∧
      ∀ held, stock = some held → streamSchema (taken ++ [batch]) = some held.schema := by
  obtain ⟨schema, hnoted, -, hfirst, hfurther⟩ := streamSchema_of_took h hrows
  constructor
  · rintro rfl
    rw [hnoted, hfirst (h.bare.mp hcounts.1)]
  · rintro held rfl
    obtain ⟨hschema, table, keys, htable, -⟩ := hcounts
    have hstored : streamRows taken ≠ [] := by
      intro hnil
      rw [h.bare.mpr hnil] at htable
      cases htable
    rw [hnoted, ← hfurther hstored, hschema]

/-- A batch without rows leaves the stock as it is. -/
theorem counts_of_empty (h : l.Took config probeSchema taken) (hcounts : l.Counts config stock)
    (hrows : batch.rowCount = 0) :
    Counts config { l with store := { l.store with schema := streamSchema (taken ++ [batch]) } } stock := by
  cases stock with
  | none => exact hcounts
  | some held =>
    obtain ⟨hschema, hrest⟩ := hcounts
    refine ⟨?_, hrest⟩
    show streamSchema (taken ++ [batch]) = some held.schema
    rw [streamSchema_append_of_empty hrows, ← h.schema, hschema]
    rfl

/-- **A batch is refused for what is wrong with it.** -/
theorem received_of_accept (h : l.Took config probeSchema taken) (hcounts : l.Counts config stock)
    (hacc : l.accept config probeSchema batch = (result, l')) :
    Received config probeSchema stock batch result l' := by
  have hnoted := noteSchema_of_took batch h
  have hindex : l.store.batches.size < BuildStore.maxBatches := nextIndex_lt_of_took h
  have hkept : result = .ok () → l'.store.schema = streamSchema (taken ++ [batch]) := by
    rintro rfl
    rcases took_accept h hacc with ⟨_, herr, -⟩ | ⟨-, htook⟩
    · cases herr
    · exact htook.schema
  cases accepting_of_accept hacc with
  | unnoted hnote =>
    rw [hnoted] at hnote
    cases hnote
  | empty hnote hrows =>
    rw [hnoted] at hnote
    cases hnote
    exact .inr ⟨rfl, stock, if_pos hrows, counts_of_empty h hcounts hrows⟩
  | @rejected _ e hnote hrows hinspect =>
    rw [hnoted] at hnote
    cases hnote
    obtain ⟨hbare, hknown⟩ := streamSchema_of_counts h hcounts hrows
    exact .inl ⟨e, rfl, receive_of_rejected hrows hbare hknown hinspect⟩
  | @unopened _ e hnote hrows hinspect htable hopen =>
    rw [hnoted] at hnote
    cases hnote
    obtain rfl : stock = none := eq_none_of_counts hcounts htable
    obtain ⟨hbare, -⟩ := streamSchema_of_counts h hcounts hrows
    refine .inl ⟨e, rfl, ?_⟩
    rw [receive_of_inspect hrows hinspect]
    exact add_of_unopened hopen (hbare rfl) hcounts.2.2
  | @first _ table keys budget _ _ hnote hrows hinspect htable hopen hinsert =>
    rw [hnoted] at hnote
    cases hnote
    obtain rfl : stock = none := eq_none_of_counts hcounts htable
    obtain ⟨hbare, -⟩ := streamSchema_of_counts h hcounts hrows
    obtain ⟨-, hledger, hbudget⟩ := hcounts
    obtain ⟨hholds, hfactor, hadd⟩ := add_of_opened hopen (hbare rfl) hbudget
    rw [← hledger, ← receive_of_inspect hrows hinspect] at hadd
    have hempty : l.ledger.length = ([] : List UInt32).length := by rw [hledger]; rfl
    exact received_of_insertBatch hinsert hinspect hindex hholds hempty hfactor
      (fun hok => (hkept hok).trans (hbare rfl)) hadd
  | @further _ table keys _ _ hnote hrows hinspect htable hinsert =>
    rw [hnoted] at hnote
    cases hnote
    obtain ⟨-, hknown⟩ := streamSchema_of_counts h hcounts hrows
    cases stock with
    | none => cases hcounts.1.symm.trans htable
    | some held =>
      obtain ⟨schema, tally⟩ := held
      obtain ⟨-, table', keys', hsome, hfactor, rfl⟩ := hcounts
      cases htable.symm.trans hsome
      obtain ⟨-, -, hconforms⟩ := BuildStore.inspect_eq_ok_iff.mp hinspect
      have hsame : batch.schema = schema := hconforms schema (hknown _ rfl)
      have hledger : l.ledger.length = ((streamRows taken).map keys.rowHash).length := by
        rw [List.length_map, h.serves.length]
      have hadd : Stock.add config probeSchema batch (some ⟨schema, .ofParts table l.ledger l.budget⟩) =
          ((Tally.ofParts table l.ledger l.budget).addBatch config.loadFactor batch).map
            fun tally => some ⟨schema, tally⟩ := if_pos hsame
      rw [← receive_of_inspect hrows hinspect] at hadd
      exact received_of_insertBatch hinsert hinspect hindex (h.table table keys htable).1 hledger hfactor
        (fun hok => (hkept hok).trans (hknown _ rfl)) hadd

/-! ### The whole source -/

section Source

variable {σ : Type} [BatchSource σ]

/-- The build phase with a batch that was pulled in advance takes it in, and then goes on. -/
theorem fill_some (config : Config) (probeSchema : Option Schema) (batch : Batch) (source : σ)
    (l : Loading) :
    (l.fill config probeSchema (some batch) source).1 =
      match l.accept config probeSchema batch with
      | (.error e, _) => .error e
      | (.ok (), l) => (l.fill config probeSchema none source).1 := by
  cases hacc : l.accept config probeSchema batch with
  | mk accepted l' => cases accepted <;> simp only [fill, acceptFirst, hacc]

/-- Without such a batch it pulls. -/
theorem fill_none (config : Config) (probeSchema : Option Schema) (source : σ) (l : Loading) :
    (l.fill config probeSchema none source).1 =
      match BatchSource.pull .build source with
      | (.error e, _) => .error e
      | (.ok none, rest) => (l.finish config (BatchSource.schema? rest) probeSchema).1
      | (.ok (some batch), rest) => (l.fill config probeSchema (some batch) rest).1 := by
  simp only [fill, acceptFirst]
  rw [drain_eq]
  cases hpull : BatchSource.pull .build source with
  | mk pulled rest =>
    cases pulled with
    | error e => rfl
    | ok first =>
      cases first with
      | none => rfl
      | some batch =>
        simp only
        cases hacc : l.accept config probeSchema batch with
        | mk accepted l' => cases accepted <;> rfl

/-- The build phase with a pull in advance. -/
def load (config : Config) (probeSchema : Option Schema) (source : σ) (l : Loading) :
    Except JoinError JoinKeys :=
  match BatchSource.pull .build source with
  | (.error e, _) => .error e
  | (.ok first, rest) => (l.fill config probeSchema first rest).1

end Source

/-- The keys are resolved by the schema of the batches if there are rows, and otherwise in the end. -/
theorem finish_eq_error_iff {bare : Option Schema} {e : JoinError} (h : l.Took config probeSchema taken)
    (hcounts : l.Counts config stock) :
    (l.finish config bare probeSchema).1 = .error e ↔
      firstOffence? config probeSchema ((streamSchema taken).or bare) stock [] = some e := by
  cases stock with
  | none =>
    simp only [finish, hcounts.1, h.schema, firstOffence?]
    exact JoinKeys.resolve_eq_error_iff
  | some held =>
    obtain ⟨-, table, keys, htable, -⟩ := hcounts
    simp only [finish, htable, firstOffence?]
    exact ⟨by rintro ⟨⟩, by rintro ⟨⟩⟩

section Scripts

open BatchSource

variable (label : String) (schema : Option Schema) (current : Option Batch) (failure : Option JoinError)
  (pulls : Nat)

/-- **The build phase fails at the first offence.** -/
theorem fill_eq_error_iff {declared : Option Schema} {steps : List ScriptStep} {e : JoinError}
    (h : l.Took config probeSchema taken) (hcounts : l.Counts config stock)
    (hschema : taken = [] → schema = declared) :
    (l.fill config probeSchema none
        (⟨label, steps, schema, current, failure, pulls, []⟩ : Script)).1 = .error e ↔
      firstOffence? config probeSchema ((streamSchema (taken ++ Script.batches steps)).or declared) stock
        steps = some e := by
  -- on the steps that are still to come, behind whatever has been taken in
  induction steps generalizing l taken stock schema current pulls with
  | nil =>
    rw [fill_none, Script.pull_nil, Script.batches, List.append_nil]
    simp only
    rw [finish_eq_error_iff h hcounts]
    cases hknown : streamSchema taken with
    | none =>
      rw [hschema (streamSchema_eq_none hknown)]
      rfl
    | some known => rfl
  | cons step rest ih =>
    cases step with
    | notYet =>
      have hsame : (l.fill config probeSchema none
          (⟨label, .notYet :: rest, schema, current, failure, pulls, []⟩ : Script)).1 =
          (l.fill config probeSchema none
            (⟨label, rest, schema, none, failure, pulls + 1, []⟩ : Script)).1 := by
        rw [fill_none, fill_none, Script.pull_notYet]
      rw [hsame, Script.batches, firstOffence?]
      exact ih schema none (pulls + 1) h hcounts hschema
    | fail cause =>
      rw [fill_none, Script.pull_fail]
      cases stock <;> simp [firstOffence?]
    | batch b =>
      obtain ⟨schema', hpull⟩ := Script.pull_batch label schema current failure pulls rest .build b
      rw [fill_none, hpull]
      simp only
      rw [fill_some, firstOffence?]
      cases hacc : l.accept config probeSchema b with
      | mk result l' =>
        rcases received_of_accept h hcounts hacc with ⟨cause, rfl, hreceive⟩ | ⟨rfl, stock', hreceive, hcounts'⟩
        · rw [hreceive]
          simp
        · rcases took_accept h hacc with ⟨_, herr, -⟩ | ⟨-, htook⟩
          · cases herr
          · rw [hreceive, Script.batches, List.append_cons]
            exact ih schema' none (pulls + 1) htook hcounts' (by simp)

/-- It makes no difference to a script whether a batch is pulled in advance. -/
theorem load_eq_fill (config : Config) (probeSchema : Option Schema) (steps : List ScriptStep)
    (l : Loading) :
    l.load config probeSchema (⟨label, steps, schema, current, failure, pulls, []⟩ : Script) =
      (l.fill config probeSchema none
        (⟨label, steps, schema, current, failure, pulls, []⟩ : Script)).1 := by
  unfold load
  induction steps generalizing current pulls with
  | nil =>
    -- a script that has ended ends again
    rw [Script.pull_nil]
    simp only
    rw [fill_none, fill_none, Script.pull_nil, Script.pull_nil]
    rfl
  | cons step rest ih =>
    cases step with
    | notYet =>
      rw [Script.pull_notYet, ih none (pulls + 1), fill_none, fill_none, Script.pull_notYet]
    | fail cause => rw [fill_none, Script.pull_fail]
    | batch b =>
      obtain ⟨schema', hpull⟩ := Script.pull_batch label schema current failure pulls rest .build b
      rw [fill_none, hpull]

end Scripts

end Loading
end HashJoin
