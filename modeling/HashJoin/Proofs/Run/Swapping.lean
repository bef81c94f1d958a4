import HashJoin.Proofs.NestedLoop.Swapped
import HashJoin.Proofs.Run.Completing

/-!
# Runs with their sides swapped

A join can be run the other way round: the streams change sides, every condition names its columns in
the other order, and the kind of join keeps the same rows as before. If both runs complete, they show
the same rows, but for their order and that of the columns. The same can be said of their schemas, but
for inner joins of which one stream has no rows: of such a stream nothing is compared, so the rows of the
other one may come under another schema than its first batch has.

## Main definitions

* `Condition.swapped` — a condition with its sides swapped.
* `moveBehind`, `Schema.moved` — the first columns behind the others.
* `Steady` — streams whose rows come under the schema of the first batch.

## Main results

* `rowsMatch_swapped` — rows match under swapped conditions if they match.
* `OutputSchema.moved_rowOf` — an output row, and that of the swapped row.
* `Operator.runs_swapped` — **swapped runs that complete show the same rows under the same columns.**
-/

namespace HashJoin

open BatchSource

/-! ### Conditions -/

/-- The condition with its sides swapped. -/
def Condition.swapped (c : Condition) : Condition := ⟨c.build, c.probe, c.comparator⟩

attribute [local instance] decideBytes

theorem KeyCell.equalUnder_comm (comparator : Comparator) (a b : KeyCell) :
    a.equalUnder comparator b = b.equalUnder comparator a := by
  cases a <;> cases b <;> first | rfl | exact Bool.beq_comm ..

/-- Rows match under swapped conditions if they match. -/
theorem rowsMatch_swapped (conditions : List Condition) (p b : BatchRow) :
    rowsMatch (conditions.map Condition.swapped) b p = rowsMatch conditions p b := by
  rw [rowsMatch, rowsMatch, List.all_map]
  refine congrArg (conditions.all ·) (funext fun c => ?_)
  exact KeyCell.equalUnder_comm c.comparator _ _

/-! ### Columns -/

/-- The first columns behind the others. -/
def moveBehind {α : Type} (width : Nat) (cells : List α) : List α := cells.drop width ++ cells.take width

theorem moveBehind_append {α : Type} {width : Nat} {first others : List α} (h : first.length = width) :
    moveBehind width (first ++ others) = others ++ first := by
  rw [moveBehind, List.drop_left' h, List.take_left' h]

/-- The schema with its first columns behind the others. -/
def Schema.moved (width : Nat) (schema : Schema) : Schema := ⟨moveBehind width schema.fields⟩

namespace OutputSchema

variable {kind : JoinType}

/-- The schema of joined rows, and that of the swapped ones. -/
theorem moved_schema (build probe : Schema) (kind : JoinType) :
    (ofSides (some build) (some probe) kind).schema.moved build.width =
      (ofSides (some probe) (some build) kind.swapped).schema := by
  refine congrArg Schema.mk ?_
  rw [JoinType.keepsProbe_swapped, JoinType.keepsBuild_swapped]
  exact moveBehind_append (length_sideFields build _)

/-- Both a row of a side and absent cells have a cell for each column. -/
theorem length_sideCells {schema : Schema} {mayLack : Bool} {side : Option BatchRow}
    (h : ∀ r, side = some r → r.1.schema = schema) :
    (sideCells (sideFields (some schema) mayLack) side).length = schema.width := by
  cases side with
  | none =>
    rw [sideCells, ColumnSpec.length_absentAll, length_sideFields]
    rfl
  | some r =>
    rw [← h r rfl]
    show (Column.rowAt _ _).length = (r.1.columns.map Column.spec).length
    rw [Column.length_rowAt, List.length_map]

/-- An output row, and that of the swapped row. -/
theorem moved_rowOf {build probe : Schema} {r : JoinedRow BatchRow BatchRow}
    (h : ∀ b, r.build = some b → b.1.schema = build) :
    moveBehind build.width ((ofSides (some build) (some probe) kind).rowOf r) =
      (ofSides (some probe) (some build) kind.swapped).rowOf r.swapped := by
  rw [rowOf, rowOf, buildSpecs_ofSides, buildSpecs_ofSides, probeSpecs_ofSides, probeSpecs_ofSides,
    JoinType.keepsProbe_swapped, JoinType.keepsBuild_swapped]
  exact moveBehind_append (length_sideCells h)

end OutputSchema

/-! ### Streams -/

/-- The rows of a stream come under the schema of its first batch. -/
def Steady (batches : List Batch) : Prop :=
  ∀ r ∈ streamRows batches, batches.head?.map Batch.schema = some r.1.schema

theorem streamSchema_of_steady {batches : List Batch} (h : Steady batches) :
    streamSchema batches = batches.head?.map Batch.schema := by
  cases hrows : streamRows batches with
  | nil =>
    have hnone : batches.find? (fun b => decide (b.rowCount ≠ 0)) = none := by
      refine List.find?_eq_none.mpr fun b hb hsome => ?_
      have hmem := mem_streamRows_of_mem hb (of_decide_eq_true hsome)
      rw [hrows] at hmem
      cases hmem
    rw [streamSchema, hnone, Option.none_or]
  | cons r rest =>
    have hr : r ∈ streamRows batches := by
      rw [hrows]
      exact List.mem_cons_self
    rw [h r hr]
    refine streamSchema_of_rows (fun r' hr' => ?_) (List.ne_nil_of_mem hr)
    exact Option.some.inj ((h r' hr').symm.trans (h r hr))

/-- The number of columns of a stream. -/
def streamWidth (batches : List Batch) : Nat := ((streamSchema batches).map Schema.width).getD 0

/-- A stream whose rows come under the schema of its first batch has one schema, on either side. -/
theorem schema_of_steady {batches : List Batch} (h : Steady batches) (hne : batches ≠ []) :
    ∃ schema, (∀ declared, probeSchemaOf batches declared = some schema) ∧
      (∀ declared, buildSchemaOf batches declared = some schema) ∧
      streamWidth batches = schema.width ∧ ∀ r ∈ streamRows batches, r.1.schema = schema := by
  have hstream := streamSchema_of_steady h
  obtain ⟨b, rest, rfl⟩ := List.exists_cons_of_ne_nil hne
  refine ⟨b.schema, fun _ => rfl, fun declared => ?_, ?_, fun r hr => ?_⟩
  · rw [buildSchemaOf, hstream]
    rfl
  · rw [streamWidth, hstream]
    rfl
  · exact (Option.some.inj (h r hr)).symm

namespace Operator

variable {A B : Type} [BatchSource A] [BatchSource B] {config config' : Config} {a : A} {b : B}
  {as bs : List Batch} {endA endB : Option JoinError} {finalA : A} {finalB : B} {op : Operator A B}
  {op' : Operator B A} {n m : Nat}

theorem joinedRows_swapped (hconditions : config'.conditions = config.conditions.map Condition.swapped)
    (hkind : config'.joinType = config.joinType.swapped) :
    ((joinedRows config as bs).map JoinedRow.swapped).Perm (joinedRows config' bs as) := by
  have hmatch : rowsMatch config'.conditions = fun b p => rowsMatch config.conditions p b := by
    funext b p
    rw [hconditions, rowsMatch_swapped]
  rw [joinedRows, joinedRows, hmatch, hkind]
  exact NestedLoop.rows_swapped _ _ _ _

/-- Output rows of a join, and those of the swapped one, if both streams keep to one schema. -/
theorem map_rowOf_swapped {probe build : Schema} {kind : JoinType}
    {rows swapped : List (JoinedRow BatchRow BatchRow)} (hrows : (rows.map JoinedRow.swapped).Perm swapped)
    (hbuild : ∀ r ∈ rows, ∀ b, r.build = some b → b.1.schema = build) :
    ((rows.map (OutputSchema.ofSides (some build) (some probe) kind).rowOf).map
      (moveBehind build.width)).Perm
      (swapped.map (OutputSchema.ofSides (some probe) (some build) kind.swapped).rowOf) := by
  have hmoved : (rows.map (OutputSchema.ofSides (some build) (some probe) kind).rowOf).map
      (moveBehind build.width) = (rows.map JoinedRow.swapped).map
        (OutputSchema.ofSides (some probe) (some build) kind.swapped).rowOf := by
    rw [List.map_map, List.map_map]
    exact List.map_congr_left fun r hr => OutputSchema.moved_rowOf (hbuild r hr)
  rw [hmoved]
  exact hrows.map _

theorem steady_of_joining {declared buildSchema : Option Schema} {keys : JoinKeys}
    (h : Joining config as bs (probeSchemaOf as declared) buildSchema keys) : Steady as := by
  intro r hr
  obtain ⟨hmem, -⟩ := mem_streamRows hr
  obtain ⟨first, rest, rfl⟩ := List.exists_cons_of_ne_nil (List.ne_nil_of_mem hmem)
  exact h.probeRows r hr

/-- Of two swapped runs that complete, both have probed with their streams, which keep to one schema, or
they are inner joins of which one stream has no rows. -/
theorem steady_or_skipped {declared declared' buildSchema buildSchema' : Option Schema}
    {endB : Option JoinError} (hkind : config'.joinType = config.joinType.swapped)
    (h : Completed config as bs endA (probeSchemaOf as declared) buildSchema)
    (h' : Completed config' bs as endB (probeSchemaOf bs declared') buildSchema') :
    Steady as ∧ Steady bs ∨
      config.joinType = .inner ∧ (streamRows as = [] ∨ streamRows bs = []) := by
  cases h with
  | skipped hinner hnone => exact .inr ⟨hinner, .inr hnone⟩
  | probed _ _ hjoin =>
    cases h' with
    | skipped hinner hnone =>
      rw [hkind] at hinner
      exact .inr ⟨JoinType.eq_inner_of_swapped hinner, .inl hnone⟩
    | probed _ _ hjoin' => exact .inl ⟨steady_of_joining hjoin, steady_of_joining hjoin'⟩

/-- The output columns of two swapped runs over streams that keep to one schema. -/
theorem outputOf_swapped (hkind : config'.joinType = config.joinType.swapped) (hA : Steady as)
    (hB : Steady bs) (hasome : as ≠ []) (hbsome : bs ≠ []) (declared declared' : Option Schema) :
    ∃ probe build : Schema, streamWidth bs = build.width ∧
      (∀ r ∈ streamRows bs, r.1.schema = build) ∧
      outputOf config as bs declared declared' =
        .ofSides (some build) (some probe) config.joinType ∧
      outputOf config' bs as declared' declared =
        .ofSides (some probe) (some build) config.joinType.swapped := by
  obtain ⟨probe, hprobeA, hbuildA, -, -⟩ := schema_of_steady hA hasome
  obtain ⟨build, hprobeB, hbuildB, hwidth, hrows⟩ := schema_of_steady hB hbsome
  refine ⟨probe, build, hwidth, hrows, ?_, ?_⟩
  · rw [outputOf, hbuildB, hprobeA]
  · rw [outputOf, hbuildA, hprobeB, hkind]

/-- Inner joins need rows of both streams. -/
theorem joinedRows_of_inner (hinner : config.joinType = .inner)
    (hnone : streamRows as = [] ∨ streamRows bs = []) : joinedRows config as bs = [] := by
  rw [joinedRows, hinner]
  rcases hnone with hnone | hnone
  · rw [hnone]
    rfl
  · rw [hnone, NestedLoop.rows_inner_nil]

/-- **Swapped runs that complete show the same rows under the same columns.** Take two streams with at
least one batch each, and join them either way round, whatever the sizes and limits. If both runs
complete, then moving the columns of the stream that was the build side first behind the others turns
the rows of one run into those of the other, in some order. It turns the schema of one run into that of
the other, too, provided that in an inner join of which one stream has no rows, the rows of the other
come under the schema of its first batch. -/
theorem runs_swapped (hconditions : config'.conditions = config.conditions.map Condition.swapped)
    (hkind : config'.joinType = config.joinType.swapped) (hop : create? config a b = .ok op)
    (hop' : create? config' b a = .ok op') (ha : Delivers .probe a as endA finalA)
    (hb : Delivers .build b bs endB finalB) (hasome : as ≠ []) (hbsome : bs ≠ [])
    (hcolumns : ∀ c ∈ as ++ bs, HasColumns c) (hends : op.Completes n) (hends' : op'.Completes m) :
    ((op.shownRows n).map (moveBehind (streamWidth bs))).Perm (op'.shownRows m) ∧
      ((config.joinType = .inner → streamRows as = [] ∨ streamRows bs = [] → Steady as ∧ Steady bs) →
        ∃ schema, (pulls n op).2.outputSchema = some schema ∧
          (pulls m op').2.outputSchema = some (schema.moved (streamWidth bs))) := by
  obtain ⟨endA', ha', -⟩ : ∃ ending, Delivers .build a as ending finalA ∧ _ := delivers_onSide ha
  obtain ⟨endB', hb', -⟩ : ∃ ending, Delivers .probe b bs ending finalB ∧ _ := delivers_onSide hb
  have hloads : Loads b bs endB finalB := by
    obtain ⟨first, rest, rfl⟩ := List.exists_cons_of_ne_nil hbsome
    exact loads_of_delivers hb
  have hloads' : Loads a as endA' finalA := by
    obtain ⟨first, rest, rfl⟩ := List.exists_cons_of_ne_nil hasome
    exact loads_of_delivers ha'
  obtain ⟨-, hshown, hschema, hcompleted⟩ := shownRows_of_delivers hop ha hloads hcolumns hends
  obtain ⟨-, hshown', hschema', hcompleted'⟩ := shownRows_of_delivers hop' hb' hloads'
    (fun c hc => hcolumns c (List.mem_append.mpr (List.mem_append.mp hc).symm)) hends'
  have hrows : ((joinedRows config as bs).map JoinedRow.swapped).Perm (joinedRows config' bs as) :=
    joinedRows_swapped hconditions hkind
  have hcases := steady_or_skipped hkind hcompleted hcompleted'
  rw [hshown, hshown', hschema, hschema']
  refine ⟨?_, fun hkept => ?_⟩
  · rcases hcases with ⟨hA, hB⟩ | ⟨hinner, hnone⟩
    · obtain ⟨probe, build, hwidth, hsame, houtput, houtput'⟩ :=
        outputOf_swapped hkind hA hB hasome hbsome (schema? finalA) (schema? finalB)
      rw [houtput, houtput', hwidth]
      refine map_rowOf_swapped hrows fun r hr b hb => hsame b ?_
      exact (NestedLoop.sides_of_mem_rows hr).1 b hb
    · have hinner' : config'.joinType = .inner := by rw [hkind, hinner]; rfl
      rw [joinedRows_of_inner hinner hnone, joinedRows_of_inner hinner' hnone.symm]
      exact .nil
  · obtain ⟨hA, hB⟩ : Steady as ∧ Steady bs := by
      rcases hcases with hsteady | ⟨hinner, hnone⟩
      · exact hsteady
      · exact hkept hinner hnone
    obtain ⟨probe, build, hwidth, -, houtput, houtput'⟩ :=
      outputOf_swapped hkind hA hB hasome hbsome (schema? finalA) (schema? finalB)
    rw [houtput, houtput', hwidth]
    exact ⟨_, rfl, congrArg some (OutputSchema.moved_schema build probe config.joinType).symm⟩

/-- A left join of two rows with one, and the right join of that one with the two. -/
theorem runs_swapped_left :
    let batch (name : String) (values : List Int) : Batch := ⟨values.length, values.length,
      [.fixed (.scalar name (.int .bits64) true) (.ofList (values.map fun _ => true))
        ⟨.ints .bits64 values.toArray, 32⟩], none⟩
    let a : Script := .ofSteps "a" [.batch (batch "k" [7, 8])] none
    let b : Script := .ofSteps "b" [.notYet, .batch (batch "j" [7])] none
    let config : Config := { Config.ofConditions .left [⟨"k", "j", .equals⟩] with minBuckets := 1 }
    let config' : Config := { Config.ofConditions .right [⟨"j", "k", .equals⟩] with minBuckets := 1 }
    ∃ op op', create? config a b = .ok op ∧ create? config' b a = .ok op' ∧
      (op.shownRows 2).length = 2 ∧ ((op.shownRows 2).map (moveBehind 1)).Perm (op'.shownRows 2) ∧
      ∃ schema, (pulls 2 op).2.outputSchema = some schema ∧
        (pulls 2 op').2.outputSchema = some (schema.moved 1) := by
  intro batch a b config config'
  have hvalid : config.fault? = none := Option.isNone_iff_eq_none.mp (by decide +kernel)
  have hvalid' : config'.fault? = none := Option.isNone_iff_eq_none.mp (by decide +kernel)
  have hnew : create? config a b = .ok (ofSources config a b) := create?_eq_ok_iff.mpr ⟨hvalid, rfl⟩
  have hnew' : create? config' b a = .ok (ofSources config' b a) :=
    create?_eq_ok_iff.mpr ⟨hvalid', rfl⟩
  obtain ⟨finalA, ha, -⟩ := Script.delivers_of_script (s := a) rfl .probe
  obtain ⟨finalB, hb, -⟩ := Script.delivers_of_script (s := b) rfl .build
  have hcolumns : ∀ c ∈ [batch "k" [7, 8]] ++ [batch "j" [7]], HasColumns c := by
    intro c hc
    simp only [List.cons_append, List.nil_append, List.mem_cons, List.not_mem_nil, or_false] at hc
    rcases hc with rfl | rfl
    · exact ⟨⟨⟨rfl, nofun⟩, rfl, rfl⟩, trivial⟩
    · exact ⟨⟨⟨rfl, nofun⟩, rfl, rfl⟩, trivial⟩
  obtain ⟨hrows, hschema⟩ := runs_swapped (n := 2) (m := 2) rfl rfl hnew hnew' ha hb nofun nofun hcolumns
    (by unfold Completes; decide +kernel) (by unfold Completes; decide +kernel)
  exact ⟨_, _, hnew, hnew', by decide +kernel, hrows, hschema nofun⟩

/-- An inner join of a stream without rows with one whose first batch, also without rows, comes under
another schema than its row. As the probe side, the stream keeps the schema of its first batch, and as
the build side it takes that of its row. -/
theorem schemas_apart :
    let spec (width : IntWidth) : ColumnSpec := .scalar "k" (.int width) true
    let batch (width : IntWidth) (values : List Int) : Batch := ⟨values.length, values.length,
      [.fixed (spec width) (.ofList (values.map fun _ => true)) ⟨.ints width values.toArray, 32⟩], none⟩
    let a : Script := .ofSteps "a" [.batch (batch .bits64 []), .batch (batch .bits32 [7])] none
    let b : Script := .ofSteps "b" [.batch (batch .bits64 [])] none
    let config : Config := { Config.ofConditions .inner [⟨"k", "k", .equals⟩] with minBuckets := 1 }
    ∃ (op : Operator Script Script) (op' : Operator Script Script),
      (∀ c ∈ [batch .bits64 [], batch .bits32 [7]], c.WellFormed) ∧
      create? config a b = .ok op ∧ create? config b a = .ok op' ∧
      config.conditions = config.conditions.map Condition.swapped ∧
      config.joinType = config.joinType.swapped ∧ op.Completes 1 ∧ op'.Completes 1 ∧
      (pulls 1 op).2.outputSchema = some ⟨[spec .bits64, spec .bits64]⟩ ∧
      (pulls 1 op').2.outputSchema = some ⟨[spec .bits32, spec .bits64]⟩ ∧
      (pulls 1 op').2.outputSchema ≠ (pulls 1 op).2.outputSchema.map (Schema.moved 1) := by
  intro spec batch a b config
  have hvalid : config.fault? = none := Option.isNone_iff_eq_none.mp (by decide +kernel)
  have hnew : create? config a b = .ok (ofSources config a b) := create?_eq_ok_iff.mpr ⟨hvalid, rfl⟩
  have hnew' : create? config b a = .ok (ofSources config b a) := create?_eq_ok_iff.mpr ⟨hvalid, rfl⟩
  have hformed : ∀ c ∈ [batch .bits64 [], batch .bits32 [7]], c.WellFormed := by
    intro c hc
    simp only [List.mem_cons, List.not_mem_nil, or_false] at hc
    rcases hc with rfl | rfl
    · exact ⟨rfl, ⟨⟨rfl, nofun⟩, rfl, rfl⟩, trivial⟩
    · exact ⟨rfl, ⟨⟨rfl, nofun⟩, rfl, rfl⟩, trivial⟩
  exact ⟨_, _, hformed, hnew, hnew', rfl, rfl, by unfold Completes; decide +kernel,
    by unfold Completes; decide +kernel, by decide +kernel, by decide +kernel, by decide +kernel⟩

end Operator
end HashJoin
