import HashJoin.Proofs.Join.Start
import HashJoin.Proofs.Source.Reliable

/-!
# Runs whose probe rows break off

A probe source may fail behind some batches, or give one with rows that cannot be probed with. An
operator then shows as many full batches as the rows before make, in the order of the nested loop, and
fails with what broke the rows off. The rows that do not fill a batch are lost, and no build row without
a match is shown.

## Main definitions

* `Operator.probedRows` — the rows that the probe rows make.
* `Operator.BreaksAt` — where and why a stream breaks off.

## Main results

* `probedPart_of_breaksAt` — the batches before the break are what is probed with.
* `shows_rows_before_break` — **full batches of the rows before the break are shown, and then the
  failure.**
-/

namespace HashJoin

open BatchSource

namespace NestedLoop

variable {P B : Type} {isMatch : P → B → Bool} {joinType : JoinType}

/-- A row that a probe row makes has a probe row. -/
theorem probe_of_mem_probed {probe : List P} {build : List B} {r : JoinedRow P B}
    (h : r ∈ probed isMatch joinType probe build) : ∃ p ∈ probe, r.probe = some p := by
  obtain ⟨p, hp, hr⟩ := List.mem_flatMap.mp h
  refine ⟨p, hp, ?_⟩
  unfold probedBy at hr
  split at hr
  · split at hr
    · rw [List.mem_singleton.mp hr]
    · cases hr
  · obtain ⟨b, -, rfl⟩ := List.mem_map.mp hr
    rfl

end NestedLoop

namespace Stage

/-- Whether output is on its way. -/
def isProbing : Stage → Bool
  | probing _ => true
  | unstarted | done | failed => false

theorem exists_of_isProbing {s : Stage} (h : s.isProbing = true) : ∃ p, s = .probing p := by
  cases s with
  | probing p => exact ⟨p, rfl⟩
  | unstarted => cases h
  | done => cases h
  | failed => cases h

end Stage

namespace Operator

variable {P B : Type} [BatchSource P] [BatchSource B] {config : Config} {probe : P} {build : B}
  {op started : Operator P B} {used stored : List Batch} {schema : Schema} {cause : JoinError}

/-- The rows that the probe rows of two streams make, without the build rows that nothing matches. -/
def probedRows (config : Config) (used stored : List Batch) : List Joined :=
  NestedLoop.probed (rowsMatch config.conditions) config.joinType (streamRows used)
    (streamRows stored)

/-- A stream that starts with some batches breaks off behind them: there its source fails, or its next
batch has rows and cannot be probed with. -/
inductive BreaksAt (schema : Schema) (used : List Batch) :
    List Batch → Option JoinError → JoinError → Prop
  /-- The source fails. -/
  | failed {cause : JoinError} : BreaksAt schema used used (some cause) cause
  /-- The next batch has a selection. -/
  | selection {bad : Batch} {rest : List Batch} {ending : Option JoinError} (hrows : bad.rowCount ≠ 0)
      (hselected : bad.isDense = false) :
      BreaksAt schema used (used ++ bad :: rest) ending (.unsupported .probe .selection)
  /-- The next batch has another schema than the first batch. -/
  | schema {bad : Batch} {rest : List Batch} {ending : Option JoinError} (hrows : bad.rowCount ≠ 0)
      (hdense : bad.isDense = true) (hother : bad.schema ≠ schema) :
      BreaksAt schema used (used ++ bad :: rest) ending (.schemaChanged .probe schema bad.schema)

/-- What breaks a stream off is what is wrong with its next batch. -/
theorem usable_of_breaksAt {stream : List Batch} {ending : Option JoinError}
    (hadmitted : ∀ b ∈ used, b.rowCount ≠ 0 → b.isDense = true ∧ b.schema = schema)
    (hbreaks : BreaksAt schema used stream ending cause) :
    Supply.usable schema ending stream = (used, some cause) := by
  have hfree : ∀ b ∈ used, Supply.objection? schema b = none :=
    fun b hb => Supply.objection?_eq_none_iff.mpr (hadmitted b hb)
  cases hbreaks with
  | failed => exact Supply.usable_of_admitted hfree
  | selection hrows hselected =>
    refine Supply.usable_of_refused hfree ?_
    simp [Supply.objection?, hrows, hselected]
  | schema hrows hdense hother =>
    refine Supply.usable_of_refused hfree ?_
    simp [Supply.objection?, hrows, hdense, hother]

/-- The batches before the break are what is probed with. -/
theorem probedPart_of_breaksAt {stream : List Batch} {ending : Option JoinError}
    (hfirst : stream.head?.map Batch.schema = some schema)
    (hadmitted : ∀ b ∈ used, b.rowCount ≠ 0 → b.isDense = true ∧ b.schema = schema)
    (hbreaks : BreaksAt schema used stream ending cause) :
    Supply.probedPart stream ending = (used, some cause) := by
  have husable := usable_of_breaksAt hadmitted hbreaks
  cases stream with
  | nil => cases hfirst
  | cons b rest =>
    obtain rfl : b.schema = schema := Option.some.inj hfirst
    exact husable

variable {stream : List Batch} {probeEnding buildEnding : Option JoinError} {probeFinal : P}
  {buildFinal : B} {p : Probe}

/-- An operator that is probing after its start owes the rows before the break. -/
theorem owing_of_breaksAt (hvalid : config.fault? = none)
    (hprobe : Delivers .probe probe stream probeEnding probeFinal)
    (hfirst : stream.head?.map Batch.schema = some schema)
    (hadmitted : ∀ b ∈ used, b.rowCount ≠ 0 → b.isDense = true ∧ b.schema = schema)
    (hbreaks : BreaksAt schema used stream probeEnding cause)
    (hbuild : Loads build stored buildEnding buildFinal)
    (hcolumns : ∀ b ∈ used ++ stored, b.rowCount ≠ 0 → HasColumns b)
    (hstart : (ofSources config probe build).start = (.ok (), started))
    (hstage : started.stage = .probing p) :
    started.current = none ∧ started.announced = false ∧ ∃ j : Job,
      started.Owing j (probedRows config used stored) (some cause) ∧
      j.Sound (probedRows config used stored) ∧
      j.plan.output = .ofSides (buildSchemaOf stored (schema? buildFinal)) (some schema)
        config.joinType ∧
      j.plan.batchRows = config.batchRows ∧
      (probedRows config used stored ≠ [] → j.plan.output.schema.fields ≠ []) := by
  have hpart := probedPart_of_breaksAt hfirst hadmitted hbreaks
  have hempty : (ofSources config probe build).side = .empty := rfl
  have hstarted := start_of_delivers hempty rfl hprobe hbuild
    (by rw [hpart]; exact fun b hb => hcolumns b (List.mem_append_left _ hb))
    (fun b hb => hcolumns b (List.mem_append_right _ hb))
  rw [hpart, hstart] at hstarted
  rcases hstarted with ⟨e, op', hfailed, -⟩ | ⟨keys, op', hready, -, hcurrent, -, hjoin, hend⟩
  · cases hfailed
  cases hready
  rcases hend with ⟨hdone, -⟩ | ⟨-, hannounced, ⟨j, howing, hsound, houtput, hsize⟩, -⟩
  · rw [hstage] at hdone
    cases hdone
  have hrows : reachedRows config used stored (some cause) = probedRows config used stored :=
    NestedLoop.rows_reached _ _
  have hschema : probeSchemaOf stream (schema? probeFinal) = some schema := by
    rw [probeSchemaOf, hfirst, Option.some_or]
  refine ⟨hcurrent, hannounced, j, ?_, ?_, ?_, hsize, ?_⟩
  · rw [← hrows]
    exact howing
  · rw [← hrows]
    exact hsound
  · rw [houtput, outputOf, hschema]
    rfl
  · intro hne
    rw [houtput]
    rw [← hrows] at hne
    exact hjoin.fields_ne_nil (Config.conditions_ne_nil hvalid) hne

/-- **Full batches of the rows before the break are shown, and then the failure.** Take a configuration
that can be run and a probe source that gives some batches that can be probed with and then breaks off.
If the first pull fills the build side and leaves the operator probing, and the texts and bytes of the
rows fit into the columns of the output batches, then pulls show the rows that the probe rows make, in
order, in as many full batches as there are, and from then on always a failure. Its cause is what broke
the rows off, and no build row without a match is among the rows. -/
theorem shows_rows_before_break (hnew : create? config probe build = .ok op)
    (hprobe : Delivers .probe probe stream probeEnding probeFinal)
    (hfirst : stream.head?.map Batch.schema = some schema)
    (hadmitted : ∀ b ∈ used, b.rowCount ≠ 0 → b.isDense = true ∧ b.schema = schema)
    (hbreaks : BreaksAt schema used stream probeEnding cause)
    (hbuild : Loads build stored buildEnding buildFinal)
    (hcolumns : ∀ b ∈ used ++ stored, b.rowCount ≠ 0 → HasColumns b)
    (hstart : op.start = (.ok (), started)) (hstage : started.stage = .probing p)
    (hpayload : ∀ i, PayloadsFit
      (((probedRows config used stored).drop (i * config.batchRows)).take config.batchRows)) :
    let rows := probedRows config used stored
    let output : OutputSchema :=
      .ofSides (buildSchemaOf stored (schema? buildFinal)) (some schema) config.joinType
    (∀ r ∈ rows, r.probe ≠ none) ∧ ∃ batches : List Batch,
      batches.length = rows.length / config.batchRows ∧
      batches.flatMap Batch.rows =
        (rows.take (rows.length / config.batchRows * config.batchRows)).map output.rowOf ∧
      (∀ batch ∈ batches, batch.WellFormed ∧ batch.schema = output.schema ∧
        batch.rowCount = config.batchRows) ∧
      (∀ n, op.shown (batches.length + n) =
        shownBatches false batches ++ List.replicate n (.failed, none)) ∧
      (pulls (batches.length + 1) op).2.takeFailure.1 = some cause := by
  intro rows output
  obtain ⟨hvalid, rfl⟩ := create?_eq_ok_iff.mp hnew
  have hpos := Config.batchRows_pos hvalid
  obtain ⟨hcurrent, hannounced, j, howing, hsound, houtput, hsize, hfields⟩ :=
    owing_of_breaksAt hvalid hprobe hfirst hadmitted hbreaks hbuild hcolumns hstart hstage
  obtain ⟨batches, hlength, hconcat, hshows, hshown, hfailure⟩ :=
    shown_of_broken (by rw [hsize]; exact hpos) howing hsound (by rw [hsize]; exact hpayload) hfields
  rw [hsize] at hlength hconcat hshows
  have hprobed : ∀ r ∈ rows, r.probe ≠ none := by
    intro r hr
    obtain ⟨p, -, hp⟩ := NestedLoop.probe_of_mem_probed hr
    rw [hp]
    nofun
  refine ⟨hprobed, batches, hlength, ?_, ?_, ?_, ?_⟩
  · rw [hconcat, houtput]
  -- every piece but for what is left behind the last one is full
  · intro batch hbatch
    obtain ⟨i, hi, rfl⟩ := List.mem_iff_getElem.mp hbatch
    have hpiece := hshows i batches[i] (List.getElem?_eq_getElem hi)
    rw [houtput] at hpiece
    have hfull := (Nat.le_div_iff_mul_le hpos).mp (hlength ▸ hi)
    rw [Nat.succ_mul] at hfull
    refine ⟨hpiece.wellFormed, hpiece.schema, ?_⟩
    rw [hpiece.rowCount, List.length_take, List.length_drop]
    exact Nat.min_eq_left (Nat.le_sub_of_add_le (Nat.add_comm _ _ ▸ hfull))
  · intro n
    rw [shown_of_start rfl hstart hcurrent (.inr ⟨p, hstage⟩), hshown, hannounced]
  · rw [pulls_of_start rfl hstart hcurrent (.inr ⟨p, hstage⟩)]
    exact hfailure

/-- A full join of two probe batches with two build rows, in output batches of two rows. A third probe
batch has another schema. Three rows are made before, and two of them are shown; the build row without a
match is not. -/
theorem shows_rows_before_schema_change :
    let column (width : IntWidth) (cells : List Bool) (values : Array Int) : Column :=
      .fixed (.scalar "k" (.int width) true) (.ofList cells) ⟨.ints width values, 32⟩
    let one : Batch := ⟨2, 2, [column .bits64 [true, false] #[7, 0]], none⟩
    let two : Batch := ⟨1, 1, [column .bits64 [true] #[7]], none⟩
    let bad : Batch := ⟨1, 1, [column .bits32 [true] #[7]], none⟩
    let other : Batch := ⟨2, 2, [column .bits64 [true, true] #[7, 9]], none⟩
    let config : Config :=
      { Config.ofConditions .full [⟨"k", "k", .equals⟩] with minBuckets := 1, batchRows := 2 }
    let probe : Script := .ofSteps "probe" [.batch one, .notYet, .batch two, .batch bad] none
    let build : Script := .ofSteps "build" [.batch other] none
    ∃ op batches, create? config probe build = .ok op ∧ batches.length = 1 ∧
      batches.flatMap Batch.rows == [[.integer 7, .integer 7], [.null, .null]] ∧
      op.shown 3 = shownBatches false batches ++ List.replicate 2 (.failed, none) ∧
      (pulls 2 op).2.takeFailure.1 = some (.schemaChanged .probe one.schema bad.schema) := by
  intro column one two bad other config probe build
  have hvalid : config.fault? = none := Option.isNone_iff_eq_none.mp (by decide +kernel)
  have hnew : create? config probe build = .ok (ofSources config probe build) :=
    create?_eq_ok_iff.mpr ⟨hvalid, rfl⟩
  obtain ⟨probeFinal, hprobe, -⟩ := Script.delivers_of_script (s := probe) rfl .probe
  obtain ⟨buildFinal, hdelivers, -⟩ := Script.delivers_of_script (s := build) rfl .build
  have hbuild : Loads build [other] none buildFinal := loads_of_delivers hdelivers
  have hbreaks : BreaksAt one.schema [one, two] ([one, two] ++ [bad]) none
      (.schemaChanged .probe one.schema bad.schema) :=
    .schema (by decide) rfl (by decide)
  have hadmitted : ∀ b ∈ [one, two], b.rowCount ≠ 0 → b.isDense = true ∧ b.schema = one.schema := by
    intro b hb _
    simp only [List.mem_cons, List.not_mem_nil, or_false] at hb
    rcases hb with rfl | rfl
    · exact ⟨rfl, rfl⟩
    · exact ⟨rfl, rfl⟩
  have hcolumns : ∀ b ∈ [one, two] ++ [other], b.rowCount ≠ 0 → HasColumns b := by
    intro b hb _
    simp only [List.mem_cons, List.mem_append, List.not_mem_nil, or_false] at hb
    rcases hb with (rfl | rfl) | rfl
    · exact ⟨⟨⟨by decide +kernel, fun hrequired => (by cases hrequired)⟩, rfl, rfl⟩, trivial⟩
    · exact ⟨⟨⟨by decide +kernel, fun hrequired => (by cases hrequired)⟩, rfl, rfl⟩, trivial⟩
    · exact ⟨⟨⟨by decide +kernel, fun hrequired => (by cases hrequired)⟩, rfl, rfl⟩, trivial⟩
  have hready : (ofSources config probe build).start.1.isOk = true := by decide +kernel
  have hprobing : (ofSources config probe build).start.2.stage.isProbing = true := by decide +kernel
  have hfixed : (probedRows config [one, two] [other]).all JoinedRow.isFixed = true := by
    decide +kernel
  have hpayload : ∀ i, PayloadsFit
      (((probedRows config [one, two] [other]).drop (i * config.batchRows)).take config.batchRows) := by
    intro i
    refine payloadsFit_of_isFixed fun r hr => List.all_eq_true.mp hfixed r ?_
    exact List.mem_of_mem_drop (List.mem_of_mem_take hr)
  rcases hstart : (ofSources config probe build).start with ⟨result, started⟩
  rw [hstart] at hready hprobing
  cases result with
  | error e => cases hready
  | ok =>
    obtain ⟨p, hstage⟩ := Stage.exists_of_isProbing hprobing
    obtain ⟨-, batches, hlength, hrows, -, hshown, hcause⟩ := shows_rows_before_break hnew hprobe rfl
      hadmitted hbreaks hbuild hcolumns hstart hstage hpayload
    have hcount : (probedRows config [one, two] [other]).length = 3 := by decide +kernel
    have hlength : batches.length = 1 := by
      rw [hlength, hcount]
      decide
    rw [hlength] at hshown hcause
    refine ⟨_, batches, hnew, hlength, ?_, hshown 2, hcause⟩
    have hschema : buildSchemaOf [other] (schema? buildFinal) = some other.schema := rfl
    rw [hrows, hschema]
    decide +kernel

end Operator
end HashJoin
