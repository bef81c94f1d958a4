import HashJoin.Proofs.Run.Standing

/-!
# The side that a row lacks

An output row that lacks a side has absent cells in its place. Scalar columns are widened to take NULL,
and records that exclude NULL become records of absent cells. A scalar below such records keeps what its
own column says, so that it is zero and not NULL if that column excludes NULL: this is where, and the
only place where, a missing side holds a value.

## Main definitions

* `Value.holdsScalar` — whether a cell holds a scalar at any depth.
* `ColumnSpec.requiresScalar` — whether an absent cell of a column does.
* `Schema.requiresScalar` — whether an absent side of a row does.

## Main results

* `holdsScalar_absent` — absent cells hold a scalar exactly where one is required.
* `padding_of_next` — **so do the missing sides of all rows that an operator shows.**
* `padding_zero` — a missing side with a zero in it.
-/

namespace HashJoin

open BatchSource

/-! ### Scalars in cells -/

namespace Value

mutual

/-- Whether the cell holds a scalar, itself or at any depth of its record. -/
def holdsScalar : Value → Bool
  | null => false
  | record cells => anyHoldsScalar cells
  | integer _ | float _ | text _ | blob _ => true

/-- Whether some of the cells hold a scalar. -/
def anyHoldsScalar : List Value → Bool
  | [] => false
  | v :: vs => holdsScalar v || anyHoldsScalar vs

end

end Value

/-! ### Absent cells -/

theorem ScalarType.holdsScalar_zero (t : ScalarType) : t.zero.holdsScalar = true := by
  cases t <;> rfl

namespace ColumnSpec

open Value

mutual

/-- Whether a cell of the column holds a scalar even if it is absent: a scalar that excludes NULL, or a
record that excludes NULL and has a field of which that is true. -/
def requiresScalar : ColumnSpec → Bool
  | scalar _ _ nullable => !nullable
  | record _ fields nullable => !nullable && anyRequiresScalar fields

/-- Whether some of the columns hold a scalar even in absent cells. -/
def anyRequiresScalar : List ColumnSpec → Bool
  | [] => false
  | c :: cs => requiresScalar c || anyRequiresScalar cs

end

mutual

/-- Absent cells hold a scalar exactly where one is required. -/
theorem holdsScalar_absent (c : ColumnSpec) : (absent c).holdsScalar = c.requiresScalar := by
  match c with
  | scalar _ t nullable =>
    cases nullable with
    | true => rfl
    | false => exact t.holdsScalar_zero
  | record _ fields nullable =>
    cases nullable with
    | true => rfl
    | false => exact anyHoldsScalar_absentAll fields

theorem anyHoldsScalar_absentAll (cs : List ColumnSpec) :
    anyHoldsScalar (absentAll cs) = anyRequiresScalar cs := by
  match cs with
  | [] => rfl
  | c :: cs =>
    show ((absent c).holdsScalar || anyHoldsScalar (absentAll cs)) = _
    rw [holdsScalar_absent c, anyHoldsScalar_absentAll cs]
    rfl

end

/-- Only records require a scalar once a column is widened. -/
theorem requiresScalar_widen (c : ColumnSpec) :
    c.widen.requiresScalar = (c.isRecord && c.requiresScalar) := by
  cases c <;> rfl

theorem anyRequiresScalar_widen (cs : List ColumnSpec) :
    anyRequiresScalar (cs.map widen) = cs.any fun c => c.isRecord && c.requiresScalar := by
  induction cs with
  | nil => rfl
  | cons c cs ih =>
    show (c.widen.requiresScalar || anyRequiresScalar (cs.map widen)) = _
    rw [requiresScalar_widen, ih]
    rfl

end ColumnSpec

/-- Whether a row that lacks the side of this schema holds a scalar there: a column of records that
exclude NULL has a scalar that excludes NULL, in such records only. -/
def Schema.requiresScalar (schema : Schema) : Bool :=
  schema.fields.any fun c => c.isRecord && c.requiresScalar

/-! ### Rows that lack a side -/

namespace NestedLoop

variable {P B : Type} {isMatch : P → B → Bool} {joinType : JoinType}

/-- A row lacks a side only if the kind of join keeps rows of the other one without a match. -/
theorem keeps_of_mem_rows {probe : List P} {build : List B} {r : JoinedRow P B}
    (h : r ∈ rows isMatch joinType probe build) : (r.build = none → joinType.keepsProbe = true) ∧
      (r.probe = none → joinType.keepsBuild = true) := by
  rcases List.mem_append.mp h with h | h
  · obtain ⟨p, -, h⟩ := List.mem_flatMap.mp h
    unfold probedBy at h
    split at h
    · split at h
      · next hkeeps =>
        obtain rfl := List.mem_singleton.mp h
        exact ⟨fun _ => hkeeps, nofun⟩
      · cases h
    · obtain ⟨b, -, rfl⟩ := List.mem_map.mp h
      exact ⟨nofun, nofun⟩
  · split at h
    · next hkeeps =>
      obtain ⟨b, -, rfl⟩ := List.mem_map.mp h
      exact ⟨nofun, fun _ => hkeeps⟩
    · cases h

end NestedLoop

theorem JoinType.keepsBuild_of_reached {joinType : JoinType} {ending : Option JoinError}
    (h : (joinType.reached ending).keepsBuild = true) : joinType.keepsBuild = true := by
  cases ending with
  | none => exact h
  | some e =>
    have hnone : (joinType.reached (some e)).keepsBuild = false :=
      keepsBuild_reached (Option.some_ne_none e)
    rw [hnone] at h
    cases h

namespace OutputSchema

open Value ColumnSpec

variable {build probe : Option Schema} {joinType : JoinType} {r : JoinedRow BatchRow BatchRow}

/-- The widened columns of a side require a scalar where the schema of the side does. -/
theorem anyRequiresScalar_sideFields (side : Option Schema) :
    anyRequiresScalar (sideFields side true) = side.any Schema.requiresScalar := by
  cases side with
  | none => rfl
  | some schema => exact anyRequiresScalar_widen schema.fields

/-- A row without a build side holds a scalar there exactly where one is required. -/
theorem anyHoldsScalar_take_rowOf (hkeeps : joinType.keepsProbe = true) (hr : r.build = none) :
    let output := ofSides build probe joinType
    anyHoldsScalar ((output.rowOf r).take output.buildWidth) = build.any Schema.requiresScalar := by
  intro output
  have hspecs : output.buildSpecs = sideFields build true := by
    rw [buildSpecs_ofSides, hkeeps]
  have hwidth : output.buildWidth = (absentAll output.buildSpecs).length := by
    rw [length_absentAll, buildSpecs_ofSides]
    rfl
  rw [rowOf, hr, sideCells, hwidth, List.take_left, anyHoldsScalar_absentAll, hspecs,
    anyRequiresScalar_sideFields]

/-- A row without a probe side holds a scalar there exactly where one is required. -/
theorem anyHoldsScalar_drop_rowOf (hkeeps : joinType.keepsBuild = true) (hr : r.probe = none)
    (hbuild : ∀ b, r.build = some b → build = some b.1.schema) (hside : r.build ≠ none) :
    let output := ofSides build probe joinType
    anyHoldsScalar ((output.rowOf r).drop output.buildWidth) = probe.any Schema.requiresScalar := by
  intro output
  have hspecs : output.probeSpecs = sideFields probe true := by
    rw [probeSpecs_ofSides, hkeeps]
  obtain ⟨b, hb⟩ := Option.ne_none_iff_exists'.mp hside
  have hwidth : output.buildWidth = (sideCells output.buildSpecs (some b)).length := by
    show (sideFields build joinType.keepsProbe).length = (Column.rowAt b.2 b.1.columns).length
    rw [hbuild b hb, length_sideFields, Column.length_rowAt]
    exact List.length_map _
  rw [rowOf, hr, hb, hwidth, List.drop_left]
  show anyHoldsScalar (absentAll output.probeSpecs) = _
  rw [anyHoldsScalar_absentAll, hspecs, anyRequiresScalar_sideFields]

end OutputSchema

namespace Operator

variable {P B : Type} [BatchSource P] [BatchSource B] {config : Config} {probe : P} {build : B}
  {op : Operator P B}

/-- **The missing sides of the rows that an operator shows hold a scalar exactly where one is
required.** Take a configuration that can be run and two sources that have what they report. Whatever is
done to the operator, the batch of its next pull consists of rows of the nested loop over what the sources
deliver, and the cells of a side that such a row lacks are NULL, or records with nothing but NULL in them,
unless the schema of that side has a scalar that excludes NULL in records that exclude NULL. -/
theorem padding_of_next (hnew : create? config probe build = .ok op) (hprobe : Reliable probe)
    (hbuild : Reliable build) (calls : List Call) {b : Batch}
    (hcurrent : (op.run calls).next.2.current = some b) :
    ∃ used stored ending probeSchema buildSchema, ∃ rows : List Joined,
      Streams probe build used stored ending probeSchema buildSchema ∧
      rows <:+: reachedRows config used stored ending ∧
      let output := OutputSchema.ofSides buildSchema probeSchema config.joinType
      b.rows = rows.map output.rowOf ∧ ∀ r ∈ rows,
        (r.build = none → Value.anyHoldsScalar ((output.rowOf r).take output.buildWidth) =
          buildSchema.any Schema.requiresScalar) ∧
        (r.probe = none → Value.anyHoldsScalar ((output.rowOf r).drop output.buildWidth) =
          probeSchema.any Schema.requiresScalar) := by
  have hvalid := (create?_eq_ok_iff.mp hnew).1
  have hstanding := (standing_run hnew hprobe hbuild calls).2
  cases answers_of_standing hvalid hprobe hbuild hstanding with
  | ended _ hnone =>
    rw [hcurrent] at hnone
    cases hnone
  | failed _ hnone =>
    rw [hcurrent] at hnone
    cases hnone
  | finished _ hnone hnext =>
    rw [hnext, hnone] at hcurrent
    cases hcurrent
  | @batch used stored ending probeSchema buildSchema _ made b' _ hshown _ _ hshows _ hnext =>
    obtain rfl : b' = b := Option.some.inj (hshown.symm.trans hcurrent)
    have hpiece : ((reachedRows config used stored ending).drop made).take config.batchRows <:+:
        reachedRows config used stored ending :=
      (List.take_prefix _ _).isInfix.trans (List.drop_suffix _ _).isInfix
    refine ⟨used, stored, ending, probeSchema, buildSchema, _, hnext.streams, hpiece, hshows.rows, ?_⟩
    intro r hr
    have hmem : r ∈ reachedRows config used stored ending := hpiece.subset hr
    obtain ⟨hlacksBuild, hlacksProbe⟩ := NestedLoop.keeps_of_mem_rows hmem
    obtain ⟨hstored, -, hside⟩ := NestedLoop.sides_of_mem_rows hmem
    refine ⟨?_, ?_⟩
    · intro hnone
      refine OutputSchema.anyHoldsScalar_take_rowOf ?_ hnone
      rw [← JoinType.keepsProbe_reached config.joinType ending]
      exact hlacksBuild hnone
    · intro hnone
      refine OutputSchema.anyHoldsScalar_drop_rowOf
        (JoinType.keepsBuild_of_reached (hlacksProbe hnone)) hnone
        (fun b hb => hnext.joining.buildRows b (hstored b hb)) ?_
      intro hnil
      rw [hnil, hnone] at hside
      rcases hside with hside | hside
      · cases hside
      · cases hside

/-- A left join whose build rows have a record that excludes NULL with an integer that may be NULL, and
whose probe row has no match: the record is there, and the integer is NULL. -/
theorem padding_of_next_null :
    let key (value : Int) : Column :=
      .fixed (.scalar "k" (.int .bits64) true) (.ofList [true]) ⟨.ints .bits64 #[value], 32⟩
    let field : Column := .fixed (.scalar "x" (.int .bits64) true) (.ofList [true])
      ⟨.ints .bits64 #[5], 32⟩
    let group : Column := .record (.record "s" [field.spec] false) (.ofList [true]) 1 [field]
    let config : Config := { Config.ofConditions .left [⟨"k", "k", .equals⟩] with minBuckets := 1 }
    let probe : Script := .ofSteps "probe" [.batch ⟨1, 1, [key 7], none⟩] none
    let build : Script := .ofSteps "build" [.batch ⟨1, 1, [key 9, group], none⟩] none
    ∃ op b, create? config probe build = .ok op ∧ op.next.2.current = some b ∧
      b.rows == [[.null, .record [.null], .integer 7]] ∧
      ∃ used stored ending probeSchema buildSchema, ∃ rows : List Joined,
        Streams probe build used stored ending probeSchema buildSchema ∧
        rows <:+: reachedRows config used stored ending ∧
        let output := OutputSchema.ofSides buildSchema probeSchema config.joinType
        b.rows = rows.map output.rowOf ∧ ∀ r ∈ rows,
          (r.build = none → Value.anyHoldsScalar ((output.rowOf r).take output.buildWidth) =
            buildSchema.any Schema.requiresScalar) ∧
          (r.probe = none → Value.anyHoldsScalar ((output.rowOf r).drop output.buildWidth) =
            probeSchema.any Schema.requiresScalar) := by
  intro key field group config probe build
  have hvalid : config.fault? = none := Option.isNone_iff_eq_none.mp (by decide +kernel)
  have hnew : create? config probe build = .ok (ofSources config probe build) :=
    create?_eq_ok_iff.mpr ⟨hvalid, rfl⟩
  have hprobe : Reliable probe := by
    refine Script.reliable fun b hb => ?_
    rw [List.mem_singleton.mp hb]
    exact ⟨⟨⟨by decide +kernel, nofun⟩, rfl, rfl⟩, trivial⟩
  have hbuild : Reliable build := by
    refine Script.reliable fun b hb => ?_
    rw [List.mem_singleton.mp hb]
    refine ⟨⟨⟨by decide +kernel, nofun⟩, rfl, rfl⟩, ⟨⟨by decide +kernel, ?_⟩, rfl, rfl, rfl,
      ⟨⟨by decide +kernel, nofun⟩, rfl, rfl⟩, trivial⟩, trivial⟩
    intro _ row hrow
    obtain rfl := Nat.lt_one_iff.mp hrow
    decide +kernel
  have hshown : ((ofSources config probe build).next.2.current.any fun b =>
      b.rows == [[.null, .record [.null], .integer 7]]) = true := by decide +kernel
  obtain ⟨b, hcurrent, hrows⟩ := (Option.any_eq_true _ _).mp hshown
  exact ⟨_, b, hnew, hcurrent, hrows, padding_of_next hnew hprobe hbuild [] hcurrent⟩

/-- The same join, but for an integer that excludes NULL: the row has no build side, and holds a zero
there. -/
theorem padding_zero :
    let key (value : Int) : Column :=
      .fixed (.scalar "k" (.int .bits64) true) (.ofList [true]) ⟨.ints .bits64 #[value], 32⟩
    let field : Column := .fixed (.scalar "x" (.int .bits64) false) (.ofList [true])
      ⟨.ints .bits64 #[5], 32⟩
    let group : Column := .record (.record "s" [field.spec] false) (.ofList [true]) 1 [field]
    let config : Config := { Config.ofConditions .left [⟨"k", "k", .equals⟩] with minBuckets := 1 }
    let probe : Script := .ofSteps "probe" [.batch ⟨1, 1, [key 7], none⟩] none
    let build : Script := .ofSteps "build" [.batch ⟨1, 1, [key 9, group], none⟩] none
    ((joinedRows config probe.stream build.stream).map fun r => r.build.isNone) = [true] ∧
      ∃ op b, create? config probe build = .ok op ∧ op.next.2.current = some b ∧
        b.rows == [[.null, .record [.integer 0], .integer 7]] := by
  intro key field group config probe build
  have hvalid : config.fault? = none := Option.isNone_iff_eq_none.mp (by decide +kernel)
  have hnew : create? config probe build = .ok (ofSources config probe build) :=
    create?_eq_ok_iff.mpr ⟨hvalid, rfl⟩
  have hshown : ((ofSources config probe build).next.2.current.any fun b =>
      b.rows == [[.null, .record [.integer 0], .integer 7]]) = true := by decide +kernel
  obtain ⟨b, hcurrent, hrows⟩ := (Option.any_eq_true _ _).mp hshown
  exact ⟨by decide +kernel, _, b, hnew, hcurrent, hrows⟩

end Operator
end HashJoin
