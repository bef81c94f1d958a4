import HashJoin.Proofs.Join.Start
import HashJoin.Proofs.Source.Reliable

/-!
# Runs that complete

A run completes when some pull reports the end. By then all rows of the join have been shown, whatever
limits there were, and whatever else could have gone wrong has not. So the rows of a run that completes
are known from its inputs alone.

## Main definitions

* `Operator.Completes` — some of a number of pulls reports the end.
* `Operator.shownRows` — the rows that a number of pulls show.

## Main results

* `shownRows_of_owing` — an operator that completes has shown all rows that it owed.
* `shownRows_of_delivers` — **a run that completes has shown the rows of the nested loop.**
-/

namespace HashJoin

open BatchSource

/-- A stream that is probed with to its end comes to that end itself. -/
theorem Supply.probedPart_of_ended {batches : List Batch} {ending : Option JoinError}
    (h : (probedPart batches ending).2 = none) :
    ending = none ∧ probedPart batches ending = (batches, none) := by
  have husable : ∀ (schema : Schema) (batches : List Batch), (usable schema ending batches).2 = none →
      ending = none ∧ usable schema ending batches = (batches, none) := by
    intro schema batches h
    induction batches with
    | nil => exact ⟨h, congrArg _ h⟩
    | cons b rest ih =>
      unfold usable at h ⊢
      cases hobj : objection? schema b with
      | some e =>
        rw [hobj] at h
        cases h
      | none =>
        rw [hobj] at h
        obtain ⟨hending, hrest⟩ := ih h
        rw [hrest]
        exact ⟨hending, rfl⟩
  cases batches with
  | nil => exact ⟨h, congrArg _ h⟩
  | cons b rest => exact husable b.schema (b :: rest) h

namespace Operator

variable {P B : Type} [BatchSource P] [BatchSource B] {op : Operator P B} {n : Nat}

/-! ### Pulls until the end -/

/-- Some of a number of pulls reports the end. -/
def Completes (n : Nat) (op : Operator P B) : Prop := .ended ∈ (op.shown n).map Prod.fst

/-- The rows of the batches that a number of pulls show. -/
def shownRows (n : Nat) (op : Operator P B) : List Row :=
  (op.shown n).flatMap fun seen => (seen.2.map Batch.rows).getD []

theorem completes_succ : op.Completes (n + 1) ↔ op.next.1 = .ended ∨ op.next.2.Completes n := by
  rw [Completes, shown_succ, List.map_cons, List.mem_cons, eq_comm]
  rfl

theorem shownRows_succ : op.shownRows (n + 1) =
    (op.next.2.current.map Batch.rows).getD [] ++ op.next.2.shownRows n := by
  rw [shownRows, shown_succ, List.flatMap_cons]
  rfl

/-- An operator that has failed does not complete. -/
theorem not_completes_of_failed (h : op.stage = .failed) (hcurrent : op.current = none) :
    ¬ op.Completes n := by
  intro hends
  rw [Completes, shown_of_failed h hcurrent, List.map_replicate, List.mem_replicate] at hends
  exact absurd hends.2 nofun

/-- An operator that has ended stays as it is. -/
theorem pulls_of_done (h : op.stage = .done) : (pulls n op).2 = op := by
  have hnext : op.next = (.ended, op) := by
    rw [next, h]
  induction n with
  | zero => rfl
  | succ n ih => rw [pulls_succ, hnext, ih]

/-- An operator that has ended shows no more rows. -/
theorem shownRows_of_done (h : op.stage = .done) (hcurrent : op.current = none) : op.shownRows n = [] := by
  rw [shownRows, shown_of_done h hcurrent]
  simp

/-- An operator that completes has shown all rows that it owed. -/
theorem shownRows_of_owing {j : Job} {total : List Joined} {ending : Option JoinError}
    (h : op.Owing j total ending) (hj : j.Sound total) (hrows : j.plan.batchRows ≠ 0)
    (hfields : total ≠ [] → j.plan.output.schema.fields ≠ []) (hends : op.Completes n) :
    ending = none ∧ op.shownRows n = total.map j.plan.output.rowOf ∧
      (pulls n op).2.outputSchema = op.outputSchema := by
  induction n generalizing op total with
  | zero => cases hends
  | succ n ih =>
    rw [completes_succ] at hends
    rw [shownRows_succ, pulls_succ]
    cases next_of_owing h hj hrows hfields with
    | batch batch _ _ hreport hcurrent _ hshows howing _ _ hschema =>
      have hends : op.next.2.Completes n := by
        refine hends.resolve_left fun hended => ?_
        rw [hreport] at hended
        split at hended <;> cases hended
      obtain ⟨hending, hshown, hkept⟩ := ih howing (sound_drop hj _)
        (fun hne => hfields (mt (fun hnil => by rw [hnil, List.drop_nil]) hne)) hends
      refine ⟨hending, ?_, hkept.trans hschema⟩
      rw [hcurrent, hshown, Option.map_some, Option.getD_some, hshows.rows, ← List.map_append,
        List.take_append_drop]
    | ended hnone hending _ hcurrent hdone _ hschema =>
      refine ⟨hending, ?_, ?_⟩
      · rw [hcurrent, shownRows_of_done hdone hcurrent, hnone]
        rfl
      · rw [pulls_of_done hdone, hschema]
    | failed e _ hreport hcurrent hfailed =>
      rw [hreport] at hends
      rcases hends with hended | hends
      · cases hended
      · exact absurd hends (not_completes_of_failed hfailed hcurrent)

theorem not_completes_of_failed_start {op' : Operator P B} {e : JoinError} (hnew : op.stage = .unstarted)
    (hcurrent : op.current = none) (hstart : op.start = (.error e, op')) : ¬ op.Completes n := by
  intro hends
  cases n with
  | zero => cases hends
  | succ n =>
    rw [completes_succ, next_of_failed_start hnew hstart] at hends
    rcases hends with hended | hends
    · cases hended
    · refine not_completes_of_failed ?_ ?_ hends
      · rw [fail, stage_tearDown]
      · rw [fail, current_tearDown]
        exact current_release_of_none ((current_of_failed_start hstart).trans hcurrent)

/-- Once everything is ready, pulls show what they would have shown at first. -/
theorem completes_of_start {op' : Operator P B} (hnew : op.stage = .unstarted)
    (hstart : op.start = (.ok (), op')) (hcurrent : op'.current = none)
    (hstage : op'.stage = .done ∨ ∃ p, op'.stage = .probing p) (hends : op.Completes n) :
    op'.Completes n ∧ op.shownRows n = op'.shownRows n ∧ (pulls n op).2 = (pulls n op').2 := by
  cases n with
  | zero => cases hends
  | succ n =>
    have hpulls := pulls_of_start hnew hstart hcurrent hstage n
    rw [Completes, shown, hpulls] at hends
    refine ⟨hends, ?_, by rw [hpulls]⟩
    rw [shownRows, shown, hpulls]
    rfl

/-! ### Joins that complete -/

variable {config : Config} {probe : P} {build : B} {stream stored : List Batch}
  {ending buildEnding : Option JoinError} {final : P} {buildFinal : B}

/-- What is known of a run that completes: either an inner join had no build rows, or its probe stream
came to its end, and the rows of both streams came under the schemas that the keys were resolved by. -/
inductive Completed (config : Config) (stream stored : List Batch)
    (ending : Option JoinError) (probeSchema buildSchema : Option Schema) : Prop
  /-- The probe stream was only read. -/
  | skipped (hinner : config.joinType = .inner) (hnone : streamRows stored = [])
  /-- The probe stream was probed with. -/
  | probed (hending : ending = none) (keys : JoinKeys)
      (hjoin : Joining config stream stored probeSchema buildSchema keys)

/-- **A run that completes has shown the rows of the nested loop.** Its build source came to its end, and
its output schema is that of the two streams. -/
theorem shownRows_of_delivers (hop : create? config probe build = .ok op)
    (hprobe : Delivers .probe probe stream ending final)
    (hbuild : Loads build stored buildEnding buildFinal)
    (hcolumns : ∀ b ∈ stream ++ stored, HasColumns b) (hends : op.Completes n) :
    let output := outputOf config stream stored (schema? final) (schema? buildFinal)
    buildEnding = none ∧ op.shownRows n = (joinedRows config stream stored).map output.rowOf ∧
      (pulls n op).2.outputSchema = some output.schema ∧
      Completed config stream stored ending (probeSchemaOf stream (schema? final))
        (buildSchemaOf stored (schema? buildFinal)) := by
  intro output
  obtain ⟨hvalid, rfl⟩ := create?_eq_ok_iff.mp hop
  have hempty : (ofSources config probe build).side = .empty := rfl
  rcases start_of_delivers hempty rfl hprobe hbuild
    (fun b hb _ => hcolumns b (List.mem_append_left _ (Supply.mem_of_mem_probedPart hb).1))
    (fun b hb _ => hcolumns b (List.mem_append_right _ hb)) with
    ⟨e, op', hstart, -⟩ | ⟨keys, op', hstart, hbuildEnding, hcurrent, -, hjoin, hend⟩
  · exact absurd hends (not_completes_of_failed_start rfl rfl hstart)
  have hstage : op'.stage = .done ∨ ∃ p, op'.stage = .probing p := by
    rcases hend with ⟨hdone, -⟩ | ⟨-, -, ⟨j, ⟨p, _, hprobing, -⟩, -⟩, -⟩
    · exact .inl hdone
    · exact .inr ⟨p, hprobing⟩
  obtain ⟨hends, hrows, hpulls⟩ := completes_of_start rfl hstart hcurrent hstage hends
  rw [hrows, hpulls]
  rcases hend with ⟨hdone, hinner, hnone, hschema⟩ | ⟨-, -, ⟨j, howing, hsound, houtput, hsize⟩, hschema⟩
  -- an inner join without build rows has no rows
  · have hinner : config.joinType = .inner := hinner
    refine ⟨hbuildEnding, ?_, ?_, .skipped hinner hnone⟩
    · rw [shownRows_of_done hdone hcurrent, joinedRows, hnone, hinner, NestedLoop.rows_inner_nil]
      rfl
    · rw [pulls_of_done hdone]
      exact hschema
  · have hbatchRows : j.plan.batchRows ≠ 0 := by
      rw [hsize]
      exact Nat.ne_of_gt (Config.batchRows_pos hvalid)
    rw [List.drop_zero] at howing hsound
    obtain ⟨hended, hshown, hkept⟩ := shownRows_of_owing howing hsound hbatchRows
      (fun hne => by
        rw [houtput]
        exact hjoin.fields_ne_nil (Config.conditions_ne_nil hvalid) hne) hends
    obtain ⟨hending, hpart⟩ := Supply.probedPart_of_ended hended
    rw [hpart] at hjoin hshown
    refine ⟨hbuildEnding, ?_, ?_, .probed hending keys hjoin⟩
    · rw [hshown, houtput]
      rfl
    · rw [hkept, hschema]
      rfl

end Operator
end HashJoin
