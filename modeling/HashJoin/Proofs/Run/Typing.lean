import HashJoin.Proofs.Probe.Lacking
import HashJoin.Proofs.Run.Conforming
import HashJoin.Proofs.Run.Padding

/-!
# The types of the output

Every batch that an operator shows is what it claims to be, and claims the one schema that the operator
has had since it was known: the columns of the build side and then those of the probe side, where the
scalar columns of a side that rows may lack are widened to take NULL. So a scalar column that excludes
NULL never has to take an absent cell, and the zero that it would take for one is never written.

## Main definitions

* `Operator.Lacks` — the writers that a pull writes rows to that lack a side.
* `Operator.Typed` — an operator whose output has these types.

## Main results

* `widened_of_lacks` — a side that is lacking has been widened.
* `lacks_of_bare` — a row that lacks its build side.
* `written_of_standing` — a batch has no other rows that lack a side.
* `typed_of_run` — **every sequence of calls leads to a typed operator.**
-/

namespace HashJoin

open BatchSource

/-! ### Widened columns -/

namespace ColumnSpec

/-- The column takes an absent cell without a value of its own: it is NULL, or a record of absent cells. -/
def TakesAbsent (c : ColumnSpec) : Prop := c.isRecord = true ∨ c.nullable = true

theorem takesAbsent_widen (c : ColumnSpec) : c.widen.TakesAbsent := by
  cases c with
  | scalar name type nullable => exact .inr rfl
  | record name fields nullable => exact .inl rfl

end ColumnSpec

theorem OutputSchema.takesAbsent_of_mem_sideFields {side : Option Schema} {c : ColumnSpec}
    (h : c ∈ sideFields side true) : c.TakesAbsent := by
  cases side with
  | none => cases h
  | some schema =>
    obtain ⟨c', -, rfl⟩ := List.mem_map.mp h
    exact ColumnSpec.takesAbsent_widen c'

namespace Stage

/-- What is left of the output while it is being made. -/
def probe? : Stage → Option Probe
  | probing p => some p
  | unstarted | done | failed => none

theorem eq_of_probe? {s : Stage} {p : Probe} (h : s.probe? = some p) : s = .probing p := by
  cases s with
  | probing q =>
    cases h
    rfl
  | unstarted | done | failed => cases h

end Stage

namespace Operator

variable {P B : Type} [BatchSource P] [BatchSource B] {config : Config} {probe : P} {build : B}
  {op : Operator P B} {side : Side} {w : RowWriter}

/-! ### Rows that lack a side -/

/-- The next pull of an operator writes a row to this writer that lacks a side. No other call writes
rows. -/
inductive Lacks (op : Operator P B) : Side → RowWriter → Prop
  /-- The first pull makes the first output batch. -/
  | first {started : Operator P B} {p : Probe} {side : Side} {w : RowWriter}
      (hstage : op.stage = .unstarted) (hstart : op.start = (.ok (), started))
      (hprobing : started.stage = .probing p)
      (h : p.OutputLacks started.side.table started.side.store started.side.ledger started.probe
        started.metrics side w) : Lacks op side w
  /-- Every other pull makes one more output batch. -/
  | output {p : Probe} {side : Side} {w : RowWriter} (hstage : op.stage = .probing p)
      (h : p.OutputLacks op.side.table op.side.store op.side.ledger op.probe op.metrics side w) :
      Lacks op side w

/-- A side that is lacking has been widened. -/
theorem widened_of_probing {used stored : List Batch} {ending : Option JoinError}
    {probeSchema buildSchema : Option Schema} {keys : JoinKeys} {made : Nat} {p : Probe}
    (h : Probing config probe build used stored ending probeSchema buildSchema keys made op)
    (hstage : op.stage = .probing p)
    (hlacks : p.OutputLacks op.side.table op.side.store op.side.ledger op.probe op.metrics side w) :
    ∀ builder ∈ w.on side, builder.spec.TakesAbsent := by
  obtain ⟨j, ⟨p', batches, hstage', htable, hstore, hready, hleft⟩, hsound, houtput, -⟩ := h.owes.owing
  cases hstage.symm.trans hstage'
  rw [htable, hstore] at hlacks
  rw [← hleft] at hsound
  obtain ⟨⟨r, hr, hnone⟩, rows, hwriter⟩ := Probe.pads_of_outputLacks hready hsound hlacks
  rw [hleft] at hr
  obtain ⟨hlacksBuild, hlacksProbe⟩ := NestedLoop.keeps_of_mem_rows (List.mem_of_mem_drop hr)
  have hspecs : (w.on side).map Column.Builder.spec =
      (OutputSchema.ofSides buildSchema probeSchema config.joinType).on side := by
    rw [hwriter.spec_on, houtput]
  intro builder hbuilder
  have hmem := List.mem_map_of_mem (f := Column.Builder.spec) hbuilder
  rw [hspecs] at hmem
  cases side with
  | build =>
    have hkeeps : config.joinType.keepsProbe = true := by
      rw [← JoinType.keepsProbe_reached config.joinType ending]
      exact hlacksBuild hnone
    rw [OutputSchema.on, OutputSchema.buildSpecs_ofSides, hkeeps] at hmem
    exact OutputSchema.takesAbsent_of_mem_sideFields hmem
  | probe =>
    have hkeeps : config.joinType.keepsBuild = true := JoinType.keepsBuild_of_reached (hlacksProbe hnone)
    rw [OutputSchema.on, OutputSchema.probeSpecs_ofSides, hkeeps] at hmem
    exact OutputSchema.takesAbsent_of_mem_sideFields hmem

/-- A side that is lacking has been widened, in any state of a run. -/
theorem widened_of_lacks (hprobe : Reliable probe) (hbuild : Reliable build)
    (h : Standing config probe build op) (hlacks : op.Lacks side w) :
    ∀ builder ∈ w.on side, builder.spec.TakesAbsent := by
  cases h with
  | unstarted =>
    cases hlacks with
    | first _ hstart hprobing hlacks =>
      rcases start_of_reliable config hprobe hbuild with ⟨_, _, hfails, -⟩ | ⟨op', hstart', -, hend⟩
      · cases hstart.symm.trans hfails
      · cases hstart.symm.trans hstart'
        rcases hend with ⟨hdone, -⟩ | ⟨-, _, _, _, _, _, _, howes⟩
        · cases hprobing.symm.trans hdone
        · exact widened_of_probing howes hprobing hlacks
    | output hstage => cases hstage
  | probing h =>
    obtain ⟨p, hstage⟩ := h.stage
    cases hlacks with
    | first hnew => cases hnew.symm.trans hstage
    | output hstage hlacks => exact widened_of_probing h hstage hlacks
  | finished hterminal =>
    cases hlacks with
    | first hstage =>
      rw [hstage] at hterminal
      cases hterminal
    | output hstage =>
      rw [hstage] at hterminal
      cases hterminal

/-- Without build rows the probe row whose turn it is lacks its build side, if it is kept. -/
theorem lacks_of_bare {p : Probe} {b : Batch} (hstage : op.stage = .probing p)
    (hbare : op.side.table = none) (hrows : p.plan.batchRows ≠ 0)
    (hkept : p.plan.joinType.keepsProbe = true) (hphase : p.cursor.phase = .probing)
    (hcurrent : p.current = some b) (hmore : p.cursor.row < b.rowCount)
    (hfresh : p.cursor.rowMatched = false) (hchain : p.cursor.chain = .unstarted) :
    op.Lacks .build (.ofSchema p.plan.output) := by
  have hroom : ¬ p.plan.batchRows ≤ 0 := mt Nat.le_zero.mp hrows
  let frame : ProbeFrame := ⟨p.plan, op.side.table, op.side.store, b⟩
  have hbegin : frame.beginRow p.cursor = { p.cursor with hash := 0, chain := .exhausted } := by
    simp only [ProbeFrame.beginRow, hchain, ProbeFrame.lookUp, frame, hbare]
  refine .output hstage (.input hrows hphase (.current hcurrent (.row hmore ?_ ?_)))
  · exact decide_eq_false hroom
  · show frame.ContinueLacks (frame.beginRow p.cursor) _ _
    rw [hbegin]
    exact .complete (by rintro _ ⟨⟩) ⟨hfresh, hkept, decide_eq_false hroom⟩

/-! ### The rows of a batch -/

/-- An output batch that is shown has no other rows that lack a side. -/
theorem written_of_pullOutput {p : Probe} {b : Batch} (hclear : op.current = none)
    (h : (op.pullOutput p).2.current = some b) :
    ∃ w, RowWriter.Written
      (p.OutputLacks op.side.table op.side.store op.side.ledger op.probe op.metrics .build)
      (p.OutputLacks op.side.table op.side.store op.side.ledger op.probe op.metrics .probe)
      (.ofSchema p.plan.output) w ∧ w.finish = .ok b := by
  rcases hout : p.nextOutput op.side.table op.side.store op.side.ledger op.probe op.metrics with
    ⟨result, q, ledger, source, metrics⟩
  rw [pullOutput_eq hout] at h
  rcases result with e | _ | batch
  · rw [deliver, fail, current_tearDown, current_release_of_none (by exact hclear)] at h
    cases h
  · rw [deliver, finish, current_tearDown, current_release_of_none (by exact hclear)] at h
    cases h
  · obtain rfl : batch = b := Option.some.inj h
    exact Probe.written_nextOutput hout

theorem written_of_standing {b : Batch} (hprobe : Reliable probe) (hbuild : Reliable build)
    (h : Standing config probe build op) (hcurrent : op.next.2.current = some b) :
    ∃ output w, RowWriter.Written (op.Lacks .build) (op.Lacks .probe) (.ofSchema output) w ∧
      w.finish = .ok b := by
  cases h with
  | unstarted =>
    rcases start_of_reliable config hprobe hbuild with ⟨e, op', hstart, -⟩ | ⟨op', hstart, hclear, hend⟩
    · have hnone : (op'.fail e).current = none := by
        rw [fail, current_tearDown]
        exact current_release_of_none (current_of_failed_start hstart)
      rw [next_of_failed_start rfl hstart] at hcurrent
      cases hnone.symm.trans hcurrent
    · rw [next_of_start rfl hstart, showFirst] at hcurrent
      rcases hend with ⟨hdone, -⟩ | ⟨-, _, _, _, _, _, _, hprobing⟩
      · rw [hdone] at hcurrent
        cases hclear.symm.trans hcurrent
      · obtain ⟨p, hstage⟩ := hprobing.stage
        rw [hstage] at hcurrent
        obtain ⟨w, hwritten, hfinish⟩ := written_of_pullOutput hclear hcurrent
        exact ⟨_, w, hwritten.mono (fun _ hw => .first rfl hstart hstage hw)
          (fun _ hw => .first rfl hstart hstage hw), hfinish⟩
  | probing h =>
    obtain ⟨p, hstage⟩ := h.stage
    rw [next_of_probing hstage] at hcurrent
    obtain ⟨w, hwritten, hfinish⟩ := written_of_pullOutput rfl hcurrent
    exact ⟨_, w, hwritten.mono (fun _ hw => .output hstage hw) (fun _ hw => .output hstage hw), hfinish⟩
  | finished hterminal hclear =>
    rw [next_of_terminal hterminal] at hcurrent
    cases hclear.symm.trans hcurrent

/-! ### Runs -/

/-- An operator whose output has the types of its sources: its next batch, its schema, and the columns
that take absent cells. -/
structure Typed (config : Config) (probe : P) (build : B) (op : Operator P B) : Prop where
  /-- The batch of the next pull is what it claims to be: its columns have as many rows as it says at
  every depth, of the types of their specifications, and no NULL where it is excluded. -/
  batch : ∀ b, op.next.2.current = some b → b.WellFormed
  /-- It claims the schema of the operator. -/
  announced : ∀ b, op.next.2.current = some b → op.next.2.outputSchema = some b.schema
  /-- That schema is made of those of the sources. -/
  columns : ∀ b, op.next.2.current = some b → ∃ used stored ending probeSchema buildSchema,
    Streams probe build used stored ending probeSchema buildSchema ∧
      b.schema.fields = OutputSchema.sideFields buildSchema config.joinType.keepsProbe ++
        OutputSchema.sideFields probeSchema config.joinType.keepsBuild
  /-- It never changes once it is known. -/
  fixed : ∀ schema, op.outputSchema = some schema → ∀ calls, (op.run calls).outputSchema = some schema
  /-- The batch of the next pull is made of rows that are written one by one. Whichever of them lacks a side
  is written to a writer that `Lacks` knows of. -/
  written : ∀ b, op.next.2.current = some b → ∃ output w,
    RowWriter.Written (op.Lacks .build) (op.Lacks .probe) (.ofSchema output) w ∧ w.finish = .ok b
  /-- No scalar column that excludes NULL takes an absent cell in the next pull. -/
  absent : ∀ side w, op.Lacks side w → ∀ builder ∈ w.on side, builder.spec.TakesAbsent

/-- **Every sequence of calls leads to a typed operator.** Take a configuration that can be run and two
sources that have what they report, however they stall, end or fail. Every batch that the operator shows is
what it claims to be, and claims the one schema that the operator has from then on: the columns of the
build source, widened if the kind of join keeps probe rows without a match, and those of the probe
source, widened if it keeps build rows without a match. A row that lacks a side is only ever written to
columns there that hold records or admit NULL. -/
theorem typed_of_run (hnew : create? config probe build = .ok op) (hprobe : Reliable probe)
    (hbuild : Reliable build) (calls : List Call) : Typed config probe build (op.run calls) := by
  have hvalid := (create?_eq_ok_iff.mp hnew).1
  have hstands := standing_run hnew hprobe hbuild calls
  have hbatch : ∀ b, (op.run calls).next.2.current = some b →
      ∃ used stored ending probeSchema buildSchema rows,
        Streams probe build used stored ending probeSchema buildSchema ∧
        let output := OutputSchema.ofSides buildSchema probeSchema config.joinType
        Probe.Shows output b rows ∧ (op.run calls).next.2.outputSchema = some output.schema := by
    intro b hcurrent
    cases answers_of_standing hvalid hprobe hbuild hstands.2 with
    | ended _ hnone => cases hnone.symm.trans hcurrent
    | failed _ hnone => cases hnone.symm.trans hcurrent
    | finished _ hnone hnext =>
      rw [hnext, hnone] at hcurrent
      cases hcurrent
    | batch b' _ hshown _ _ hshows _ hnext =>
      obtain rfl : b' = b := Option.some.inj (hshown.symm.trans hcurrent)
      exact ⟨_, _, _, _, _, _, hnext.streams, hshows, hnext.owes.schema⟩
  constructor
  case batch =>
    intro b hcurrent
    obtain ⟨_, _, _, _, _, _, -, hshows, -⟩ := hbatch b hcurrent
    exact hshows.wellFormed
  case announced =>
    intro b hcurrent
    obtain ⟨_, _, _, _, _, _, -, hshows, hschema⟩ := hbatch b hcurrent
    rw [hschema, hshows.schema]
  case columns =>
    intro b hcurrent
    obtain ⟨used, stored, ending, probeSchema, buildSchema, _, hstreams, hshows, -⟩ := hbatch b hcurrent
    refine ⟨used, stored, ending, probeSchema, buildSchema, hstreams, ?_⟩
    rw [hshows.schema]
    rfl
  case fixed => exact fun schema hschema => outputSchema_run hvalid hprobe hbuild hstands hschema
  case written => exact fun b hcurrent => written_of_standing hprobe hbuild hstands.2 hcurrent
  case absent => exact fun side w hlacks => widened_of_lacks hprobe hbuild hstands.2 hlacks

/-- A left join over a build source without batches that announces an integer that excludes NULL, in
output batches of one row: the first batch of two probe rows is out. The second will lack its build side
too, and the column of that integer takes NULL. -/
theorem typed_of_run_bare :
    let column (name : String) (values : Array Int) : Column :=
      .fixed (.scalar name (.int .bits64) true) (.ofList [true, true]) ⟨.ints .bits64 values, 32⟩
    let two : Batch := ⟨2, 2, [column "k" #[7, 8]], none⟩
    let spec (name : String) (nullable : Bool) : ColumnSpec := .scalar name (.int .bits64) nullable
    let config : Config :=
      { Config.ofConditions .left [⟨"k", "k", .equals⟩] with minBuckets := 1, batchRows := 1 }
    let probe : Script := .ofSteps "probe" [.batch two] none
    let build : Script := .ofSteps "build" [] (some ⟨[spec "k" true, spec "v" false]⟩)
    ∃ op b w, create? config probe build = .ok op ∧ (op.run [.next]).next.2.current = some b ∧
      b.schema = ⟨[spec "k" true, spec "v" true, spec "k" true]⟩ ∧
      (op.run [.next]).Lacks .build w ∧
      w.build.map Column.Builder.spec = [spec "k" true, spec "v" true] ∧
      Typed config probe build (op.run [.next]) := by
  intro column two spec config probe build
  have hvalid : config.fault? = none := Option.isNone_iff_eq_none.mp (by decide +kernel)
  have hnew : create? config probe build = .ok (ofSources config probe build) :=
    create?_eq_ok_iff.mpr ⟨hvalid, rfl⟩
  have hprobe : Reliable probe := by
    refine Script.reliable fun b hb => ?_
    rw [List.mem_singleton.mp hb]
    exact ⟨⟨⟨by decide +kernel, nofun⟩, rfl, rfl⟩, trivial⟩
  have hbuild : Reliable build := Script.reliable (by rintro _ ⟨⟩)
  have hshown : ((ofSources config probe build).run [.next]).next.2.current.any (fun b =>
      b.schema == ⟨[spec "k" true, spec "v" true, spec "k" true]⟩) = true := by decide +kernel
  obtain ⟨b, hcurrent, hschema⟩ := (Option.any_eq_true _ _).mp hshown
  -- the second probe row waits for its turn
  have hwaits : (((ofSources config probe build).run [.next]).stage.probe?.any fun p =>
      decide (p.plan.batchRows = 1 ∧ p.plan.joinType = .left ∧
        p.plan.output.buildSpecs = [spec "k" true, spec "v" true] ∧ p.cursor.phase = .probing ∧
        p.cursor.rowMatched = false ∧ p.cursor.chain = .unstarted) &&
      p.current.any fun b => decide (p.cursor.row < b.rowCount)) = true := by decide +kernel
  obtain ⟨p, hprobing, hwaits⟩ := (Option.any_eq_true _ _).mp hwaits
  rw [Bool.and_eq_true, decide_eq_true_eq] at hwaits
  obtain ⟨⟨hrows, hkind, hspecs, hphase, hfresh, hchain⟩, hwaiting⟩ := hwaits
  obtain ⟨waiting, hwaiting, hmore⟩ := (Option.any_eq_true _ _).mp hwaiting
  have hbare : ((ofSources config probe build).run [.next]).side.table = none :=
    Option.isNone_iff_eq_none.mp (by decide +kernel)
  have hlacks := lacks_of_bare (Stage.eq_of_probe? hprobing) hbare (by rw [hrows]; decide) (by rw [hkind]; rfl) hphase hwaiting
    (of_decide_eq_true hmore) hfresh hchain
  exact ⟨_, b, _, hnew, hcurrent, eq_of_beq hschema, hlacks,
    (Column.Builder.map_spec_ofSpecs _).trans hspecs, typed_of_run hnew hprobe hbuild [.next]⟩

end Operator
end HashJoin
