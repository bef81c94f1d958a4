import HashJoin.Proofs.Join.Streams
import HashJoin.Proofs.Operator.Output

/-!
# The first pull of a join

The first pull of an operator fills the build side and leaves all rows of the join to be made, as far
as its probe stream can be probed with, unless the build phase fails or the probe source breaks off at
once. An inner join without build rows reads its probe stream and ends, as there are none.

## Main definitions

* `Operator.jobOf` — what the output batches of a join are made of.
* `Operator.reachedRows`, `Operator.Owes` — the rows of a join, and an operator that owes them.

## Main results

* `fillBuild_of_delivers` — the build phase.
* `start_of_delivers` — the first pull.
* `start_of_joinable` — the first pull of a join of two streams that can be joined.
-/

namespace HashJoin

open BatchSource

namespace Operator

variable {P B : Type} [BatchSource P] [BatchSource B] {op : Operator P B}

/-! ### The build phase -/

omit [BatchSource P] in
/-- The build phase fills the build side, unless it fails. -/
theorem fillBuild_of_delivers (first : Option Batch) (probeSchema : Option Schema)
    {rest : List Batch} {ending : Option JoinError} {final : B} (hempty : op.side = .empty)
    (hdelivers : Delivers .build op.build rest ending final) :
    (∃ e op', op.fillBuild first probeSchema = (.error e, op') ∧
      Loading.FillFails op.config probeSchema (schema? final) (first.toList ++ rest) ending e) ∨
    ∃ keys build, ∃ l : Loading, op.fillBuild first probeSchema = (.ok keys, { op.setBuild build with
        side := l.side, budget := l.budget, metrics := l.metrics }) ∧ ending = none ∧
      l.Filled op.config probeSchema (schema? final) (first.toList ++ rest) keys := by
  simp only [fillBuild, hempty]
  rcases hfill : Loading.fill op.config probeSchema first op.build
    ⟨none, BuildSide.empty.ledger, BuildSide.empty.store, op.budget, op.metrics⟩ with ⟨r, build, l⟩
  rcases Loading.filled_of_fill hdelivers hfill with
    ⟨e, rfl, hfails⟩ | ⟨keys, rfl, hending, hfilled⟩
  · exact .inl ⟨e, _, rfl, hfails⟩
  · exact .inr ⟨keys, build, l, rfl, hending, hfilled⟩

/-! ### The first output batch -/

/-- What the output batches of a join are made of. -/
def jobOf (op : Operator P B) (keys : JoinKeys) (output : OutputSchema) (build : List BatchRow)
    (ending : Option JoinError) : Job where
  conditions := op.config.conditions
  kind := op.config.joinType.reached ending
  plan := ⟨op.config.joinType, keys, output, op.config.batchRows⟩
  table := op.side.table
  store := op.side.store
  build := build

variable {used build rest : List Batch} {probeSchema buildSchema : Option Schema}
  {ending probeEnding : Option JoinError} {keys : JoinKeys} {first : Option Batch} {final : P}

/-- A join without output reads its probe stream and ends, unless the stream breaks off. -/
theorem skipOutput_of_delivers (hcurrent : op.current = none)
    (hdelivers : first.isSome = true → Delivers .probe op.probe rest probeEnding final) :
    (∃ e op', op.skipOutput first = (.error e, op') ∧ probeEnding = some e) ∨
    ∃ op', op.skipOutput first = (.ok (), op') ∧ op'.current = none ∧ op'.failure = op.failure ∧
      op'.stage = .done ∧ op'.outputSchema = op.outputSchema := by
  have hfinish : ∀ source : P, (op.setProbe source).finish.current = none ∧
      (op.setProbe source).finish.failure = op.failure ∧
      (op.setProbe source).finish.stage = .done ∧
      (op.setProbe source).finish.outputSchema = op.outputSchema := by
    intro source
    refine ⟨?_, ?_, ?_, ?_⟩
    · rw [finish, current_tearDown]
      exact current_release_of_none hcurrent
    · rw [finish, failure_tearDown]
      rfl
    · rw [finish, stage_tearDown]
    · rw [finish, outputSchema_tearDown]
      rfl
  unfold skipOutput
  split
  · next drained source hread =>
    split at hread
    · next hsome =>
      rw [drainProbe_of_delivers (hdelivers hsome)] at hread
      cases probeEnding with
      | none =>
        cases hread
        exact .inr ⟨_, rfl, hfinish final⟩
      | some e =>
        cases hread
        exact .inl ⟨e, _, rfl, rfl⟩
    · cases hread
      exact .inr ⟨_, rfl, hfinish _⟩

omit [BatchSource B] in
/-- A probe before its first row has all rows of the join left to make. -/
theorem ready_ofPlan (hjoin : Joining op.config used build probeSchema buildSchema keys)
    (hside : op.side.Holds keys (streamRows build)) (hfresh : op.side.ledger.Fresh)
    (hawaits : Supply.Awaits ⟨probeSchema, first, first.isNone⟩ op.probe used ending)
    (output : OutputSchema) :
    let j := op.jobOf keys output (streamRows build) ending
    let p := Probe.ofPlan j.plan ⟨probeSchema, first, first.isNone⟩
    p.Ready j op.side.ledger op.probe used ending ∧
      p.left j used op.side.ledger = NestedLoop.rows (rowsMatch op.config.conditions)
        (op.config.joinType.reached ending) (streamRows used) (streamRows build) := by
  intro j p
  refine ⟨⟨⟨rfl, hawaits, ?_, nofun, ?_, ?_⟩, hside.serves, hfresh.covered⟩, ?_⟩
  · intro b hb hrows
    have hmem := mem_streamRows_of_mem hb hrows
    exact ⟨hjoin.probeFormed _ hmem, fun r hr => hjoin.resolve_eq hr hmem⟩
  · rintro rfl
    rfl
  · intro hending
    exact ⟨JoinType.keepsBuild_reached hending, rfl⟩
  -- nothing is marked, and no probe row has been compared with any build row
  · have hmarks : op.side.ledger.isMatched = fun _ => false := by
      funext slot
      exact MatchLedger.isMatched_of_fresh hfresh slot
    show NestedLoop.remaining _ _ _ ([] ++ (streamRows used).map NestedLoop.fresh) _ = _
    rw [hmarks, List.nil_append, NestedLoop.remaining_fresh]
    rfl

/-- The rows of the nested loop over two streams, as far as they are reached when the first one breaks
off. -/
def reachedRows (config : Config) (used build : List Batch) (ending : Option JoinError) :
    List Joined :=
  NestedLoop.rows (rowsMatch config.conditions) (config.joinType.reached ending) (streamRows used)
    (streamRows build)

/-- The operator owes the rows of a join but for the first ones. -/
structure Owes (op : Operator P B) (config : Config) (used build : List Batch)
    (ending : Option JoinError) (output : OutputSchema) (made : Nat) : Prop where
  /-- The rows are those of the nested loop. -/
  owing : ∃ j : Job, op.Owing j ((reachedRows config used build ending).drop made) ending ∧
    j.Sound ((reachedRows config used build ending).drop made) ∧ j.plan.output = output ∧
    j.plan.batchRows = config.batchRows
  /-- Their schema. -/
  schema : op.outputSchema = some output.schema

/-- Once the build side is filled, all rows of the join are left to be made, unless there can be none. -/
theorem startProbing_of_holds (hjoin : Joining op.config used build probeSchema buildSchema keys)
    (hside : op.side.Holds keys (streamRows build)) (hfresh : op.side.ledger.Fresh)
    (hcount : op.side.store.rowCount = (streamRows build).length)
    (hschema : op.side.store.schema = buildSchema)
    (hawaits : Supply.Awaits ⟨probeSchema, first, first.isNone⟩ op.probe used ending)
    (hdelivers : first.isSome = true → Delivers .probe op.probe rest probeEnding final)
    (hcurrent : op.current = none) :
    (∃ e op', op.startProbing keys first probeSchema = (.error e, op') ∧ probeEnding = some e) ∨
    ∃ op', op.startProbing keys first probeSchema = (.ok (), op') ∧ op'.current = none ∧
      op'.failure = op.failure ∧
      (op'.stage = .done ∧ op.config.joinType = .inner ∧ streamRows build = [] ∧
          op'.outputSchema = some (OutputSchema.ofSides buildSchema probeSchema .inner).schema ∨
        op'.config = op.config ∧ op'.announced = op.announced ∧ op'.Owes op.config used build ending
          (.ofSides buildSchema probeSchema op.config.joinType) 0) := by
  simp only [startProbing, hschema]
  generalize houtput : OutputSchema.ofSides buildSchema probeSchema op.config.joinType = output
  by_cases hempty : (op.side.store.rowCount = 0 && op.config.joinType = .inner) = true
  -- an inner join without build rows has no rows
  · rw [if_pos (by exact hempty)]
    obtain ⟨hnone, hinner⟩ := Bool.and_eq_true_iff.mp hempty
    have hnil : streamRows build = [] := by
      rw [hcount] at hnone
      exact List.eq_nil_of_length_eq_zero (of_decide_eq_true hnone)
    have hsettled : (op.settle output).current = none := hcurrent
    rcases skipOutput_of_delivers hsettled hdelivers with
      herror | ⟨op', hskip, hcurrent', hfailure, hdone, hsettled'⟩
    · exact .inl herror
    · refine .inr ⟨op', hskip, hcurrent', hfailure, .inl ⟨hdone, of_decide_eq_true hinner, hnil, ?_⟩⟩
      rw [hsettled', ← of_decide_eq_true hinner, houtput]
      rfl
  · rw [if_neg (by exact hempty)]
    obtain ⟨hready, hleft⟩ := ready_ofPlan hjoin hside hfresh hawaits output
    refine .inr ⟨_, rfl, hcurrent, rfl, .inr ⟨rfl, rfl, ⟨_, ⟨_, used, rfl, rfl, rfl, hready, hleft⟩, ?_,
      rfl, rfl⟩, rfl⟩⟩
    refine ⟨JoinType.keepsProbe_reached _ _, hside.table, hside.bare, hjoin.buildFormed, fun r hr => ?_⟩
    show RowFits output r
    rw [← houtput]
    exact hjoin.rowFits hr

/-! ### The first pull -/

/-- The first pull of the probe source gives its first batch or its end, unless it breaks off at once. -/
theorem opened_of_delivers {source : P} {batches : List Batch}
    (h : Delivers .probe source batches ending final) :
    (∃ e next, pull .probe source = (.error e, next) ∧ ending = some e) ∨
      ∃ first next, pull .probe source = (.ok first, next) ∧
        (first.map Batch.schema).or (schema? next) = probeSchemaOf batches (schema? final) ∧
        Supply.Awaits ⟨probeSchemaOf batches (schema? final), first, first.isNone⟩ next
          (Supply.probedPart batches ending).1 (Supply.probedPart batches ending).2 ∧
        ∃ rest, first.isSome = true → Delivers .probe next rest ending final := by
  cases h with
  | broken hpull => exact .inl ⟨_, _, hpull, rfl⟩
  | ended hpull =>
    exact .inr ⟨none, final, hpull, rfl, Supply.awaits_of_exhausted rfl rfl, [], nofun⟩
  | @batch _ next _ b rest _ hpull hrest =>
    exact .inr ⟨some b, next, hpull, rfl, Supply.awaits_of_delivers
      (s := ⟨some b.schema, some b, false⟩) rfl rfl hrest, rest, fun _ => hrest⟩

/-- Once the build side is filled, the rows of both streams come under the schemas that the keys were
resolved by. -/
theorem joining_of_filled {config : Config} {l : Loading} {probe : List Batch}
    {probeDeclared buildDeclared : Option Schema}
    (hfilled : l.Filled config (probeSchemaOf probe probeDeclared) buildDeclared build keys)
    (hprobeFormed : ∀ b ∈ (Supply.probedPart probe ending).1, b.rowCount ≠ 0 →
      Column.WellFormedAll b.rowCount b.columns)
    (hbuildFormed : ∀ b ∈ build, b.rowCount ≠ 0 → Column.WellFormedAll b.rowCount b.columns) :
    Joining config (Supply.probedPart probe ending).1 build (probeSchemaOf probe probeDeclared)
      (buildSchemaOf build buildDeclared) keys := by
  have hbuildSchema : l.store.schema = buildSchemaOf build buildDeclared := hfilled.schema
  refine ⟨?_, ?_, ?_, ?_, ?_⟩
  · intro p hp
    obtain ⟨hmem, hrow⟩ := mem_streamRows hp
    have hrows : p.1.rowCount ≠ 0 := by omega
    exact ⟨((Supply.mem_of_mem_probedPart hmem).2 hrows).1, hprobeFormed _ hmem hrows⟩
  · intro b hb
    obtain ⟨hmem, hrow⟩ := mem_streamRows hb
    exact ⟨(hfilled.rows b hb).1, hbuildFormed _ hmem (by omega)⟩
  · intro p hp
    obtain ⟨hmem, hrow⟩ := mem_streamRows hp
    rw [probeSchemaOf, ((Supply.mem_of_mem_probedPart hmem).2 (by omega)).2, Option.some_or]
  · intro b hb
    rw [← hbuildSchema]
    exact (hfilled.rows b hb).2
  · rw [← hbuildSchema]
    exact hfilled.keys

/-- Everything is ready after the first pull, and all rows of the join are left to be made, unless the
build phase fails or the probe source breaks off at once. -/
theorem start_of_delivers {probe : List Batch} {buildEnding : Option JoinError} {buildFinal : B}
    (hempty : op.side = .empty) (hcurrent : op.current = none)
    (hprobe : Delivers .probe op.probe probe probeEnding final)
    (hbuild : Loads op.build build buildEnding buildFinal)
    (hprobeFormed : ∀ b ∈ (Supply.probedPart probe probeEnding).1, b.rowCount ≠ 0 →
      Column.WellFormedAll b.rowCount b.columns)
    (hbuildFormed : ∀ b ∈ build, b.rowCount ≠ 0 → Column.WellFormedAll b.rowCount b.columns) :
    (∃ e op', op.start = (.error e, op') ∧ (probeEnding = some e ∨
      Loading.FillFails op.config (probeSchemaOf probe (schema? final)) (schema? buildFinal) build
        buildEnding e)) ∨
    ∃ keys op', op.start = (.ok (), op') ∧ buildEnding = none ∧ op'.current = none ∧
      op'.failure = op.failure ∧
      Joining op.config (Supply.probedPart probe probeEnding).1 build
        (probeSchemaOf probe (schema? final)) (buildSchemaOf build (schema? buildFinal)) keys ∧
      (op'.stage = .done ∧ op.config.joinType = .inner ∧ streamRows build = [] ∧
          op'.outputSchema = some
            (outputOf op.config probe build (schema? final) (schema? buildFinal)).schema ∨
        op'.config = op.config ∧ op'.announced = op.announced ∧
          op'.Owes op.config (Supply.probedPart probe probeEnding).1 build
          (Supply.probedPart probe probeEnding).2
          (outputOf op.config probe build (schema? final) (schema? buildFinal)) 0) := by
  rcases opened_of_delivers hprobe with
    ⟨e, next, hpull, hbroken⟩ | ⟨first, next, hpull, hschema, hawaits, rest, hrest⟩
  · refine .inl ⟨e, op.setProbe next, ?_, .inl hbroken⟩
    simp only [start, pullProbe, hpull]
  have hfirst : op.pullProbe = (.ok first, op.setProbe next) := by
    rw [pullProbe, hpull]
  have hschema : (first.map Batch.schema).or (schema? (op.setProbe next).probe) =
      probeSchemaOf probe (schema? final) := hschema
  simp only [start, hfirst, hschema]
  cases hbuild with
  | broken hpull' =>
    refine .inl ⟨_, (op.setProbe next).setBuild buildFinal, ?_, .inr (.broken rfl)⟩
    simp only [pullBuild, show pull .build (op.setProbe next).build = _ from hpull']
  | @pulled buildNext _ buildFirst buildRest _ hpull' hbuildRest =>
    have hsecond : (op.setProbe next).pullBuild =
        (.ok buildFirst, (op.setProbe next).setBuild buildNext) := by
      rw [pullBuild, show pull .build (op.setProbe next).build = _ from hpull']
    simp only [hsecond]
    rcases fillBuild_of_delivers buildFirst (probeSchemaOf probe (schema? final))
      (show ((op.setProbe next).setBuild buildNext).side = .empty from hempty) hbuildRest with
      ⟨e, op', hfill, hfails⟩ | ⟨keys, source, l, hfill, hending, hfilled⟩
    · refine .inl ⟨e, op', by rw [hfill], .inr hfails⟩
    -- the build side is filled, and the probe side is as it was after its first pull
    · rw [hfill]
      have hbuildSchema : l.store.schema =
          buildSchemaOf (buildFirst.toList ++ buildRest) (schema? buildFinal) := hfilled.schema
      have hjoin : Joining op.config (Supply.probedPart probe probeEnding).1 _ _ _ keys :=
        joining_of_filled hfilled hprobeFormed hbuildFormed
      generalize hop : { ((op.setProbe next).setBuild buildNext).setBuild source with
        side := l.side, budget := l.budget, metrics := l.metrics } = op₁
      have hconfig : op₁.config = op.config := by rw [← hop]; rfl
      have hprobe₁ : op₁.probe = next := by rw [← hop]; rfl
      have hside : op₁.side = l.side := by rw [← hop]
      rw [← hconfig] at hjoin ⊢
      rcases startProbing_of_holds hjoin (by rw [hside]; exact hfilled.holds)
        (by rw [hside]; exact hfilled.fresh) (by rw [hside]; exact hfilled.rowCount)
        (by rw [hside]; exact hbuildSchema) (by rw [hprobe₁]; exact hawaits)
        (by rw [hprobe₁]; exact hrest) (by rw [← hop]; exact hcurrent) with
        ⟨e, op', hbegin, hbroken⟩ | ⟨op', hbegin, hcurrent', hfailure, hend⟩
      · exact .inl ⟨e, op', hbegin, .inl hbroken⟩
      · refine .inr ⟨keys, op', hbegin, hending, hcurrent', ?_, hjoin, ?_⟩
        · rw [hfailure, ← hop]
          rfl
        · rcases hend with ⟨hdone, hinner, hnil, hsettled⟩ | ⟨hsame, hannounced, howes⟩
          · refine .inl ⟨hdone, hinner, hnil, ?_⟩
            rw [hsettled, outputOf, hinner]
          · refine .inr ⟨hsame, ?_, howes⟩
            rw [hannounced, ← hop]
            rfl

/-- Everything is ready after the first pull of two streams that can be joined, and all rows of the
join are left to be made, unless memory is refused. -/
theorem start_of_joinable {probe probeRest buildRest : List Batch}
    {probeDeclared buildDeclared : Option Schema} {probeNext : P} {buildFirst : Option Batch}
    {buildNext buildFinal : B} (hempty : op.side = .empty) (hcurrent : op.current = none)
    (hprobe : Opens .probe op.probe probe probeDeclared first probeNext final probeRest)
    (hbuild : Opens .build op.build build buildDeclared buildFirst buildNext buildFinal buildRest)
    (hjoin : Joinable op.config probe build probeDeclared buildDeclared keys) :
    OutOfMemory op.start.1 ∨ ∃ op', op.start = (.ok (), op') ∧ op'.current = none ∧
      (op'.stage = .done ∧ joinedRows op.config probe build = [] ∨
        op'.announced = op.announced ∧ op'.Owes op.config probe build none
          (outputOf op.config probe build probeDeclared buildDeclared) 0) := by
  obtain ⟨probeFinal, hdelivers, hkept⟩ := hprobe.delivers_all
  -- every probe batch can be probed with
  have hall : Supply.probedPart probe none = (probe, none) := by
    cases hsplit : probe with
    | nil => rfl
    | cons b later =>
      refine Supply.usable_of_admitted fun c hc => Supply.objection?_eq_none_iff.mpr fun hrows => ?_
      have hc : c ∈ probe := by rw [hsplit]; exact hc
      have hschema := hjoin.probeSchema c hc hrows
      rw [hsplit] at hschema
      exact ⟨(hjoin.probeFormed c hc).dense, (Option.some.inj hschema).symm⟩
  have hprobeSchema : probeSchemaOf probe (schema? probeFinal) = probeSchemaOf probe probeDeclared := by
    cases hsplit : probe with
    | nil => rw [hkept hsplit]
    | cons b later => rfl
  have hbuildSchema : (streamSchema build).or (schema? buildFinal) =
      (streamSchema build).or buildDeclared := by
    cases hknown : streamSchema build with
    | none => rw [hbuild.kept (streamSchema_eq_none hknown)]
    | some schema => rfl
  have hstart := start_of_delivers hempty hcurrent hdelivers hbuild.loads
    (by rw [hall]; exact fun b hb _ => (hjoin.probeFormed b hb).columns)
    (fun b hb _ => (hjoin.buildFormed b hb).columns)
  rw [hall] at hstart
  rcases hstart with ⟨e, op', hrun, hbroken | hfails⟩ | ⟨_, op', hrun, -, hcurrent', -, -, hend⟩
  · cases hbroken
  · have hbuildable := hjoin.buildable
    rw [← hprobeSchema] at hbuildable
    have hdeclared : Loading.Buildable op.config (probeSchemaOf probe (schema? probeFinal))
        (schema? buildFinal) build keys :=
      ⟨hbuildable.wellFormed, hbuildable.size, hbuildable.schema, hbuildable.slots, by
        rw [hbuildSchema]
        exact hbuildable.keys⟩
    obtain ⟨use, requested, available, rfl⟩ := Loading.outOfMemory_of_fillFails hdeclared hfails
    rw [hrun]
    exact .inl ⟨use, requested, available, rfl⟩
  · refine .inr ⟨op', hrun, hcurrent', ?_⟩
    rcases hend with ⟨hdone, hinner, hnil, -⟩ | ⟨-, hannounced, howes⟩
    · refine .inl ⟨hdone, ?_⟩
      rw [joinedRows, hnil, hinner]
      exact NestedLoop.rows_inner_nil _
    · refine .inr ⟨hannounced, ?_⟩
      rw [outputOf, hprobeSchema, buildSchemaOf, hbuildSchema] at howes
      exact howes

end Operator
end HashJoin
