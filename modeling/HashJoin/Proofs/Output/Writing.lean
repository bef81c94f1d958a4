import HashJoin.NestedLoop
import HashJoin.Proofs.Column.Building
import HashJoin.RowWriter

/-!
# Writing rows

A writer that has taken some rows of a join can take one more, as long as its payloads have room, and
finishes as the batch of those rows: the cells of the build side, then those of the probe side, and
absent cells for a side that is missing.

## Main definitions

* `OutputSchema.cells`, `OutputSchema.rowOf` — the cells of one side, and the output row.
* `RowWriter.Holds` — a writer that has taken some rows.

## Main results

* `append_of_holds` — one more row.
* `finish_of_holds` — the batch of all rows.
-/

namespace HashJoin

namespace Column

mutual

/-- Whether no texts and no bytes are stored, at any depth. -/
def isFixed : Column → Bool
  | fixed .. => true
  | bytes .. => false
  | record _ _ _ children => areFixed children

/-- Whether no texts and no bytes are stored in some columns. -/
def areFixed : List Column → Bool
  | [] => true
  | c :: cs => isFixed c && areFixed cs

end

mutual

theorem cellSize_of_isFixed {c : Column} (h : isFixed c = true) (row : Nat) (path : List Nat) :
    cellSize row c path = 0 := by
  match c, path with
  | fixed .., [] => rfl
  | fixed .., _ :: _ => rfl
  | record .., [] => rfl
  | record _ _ _ children, i :: path => exact cellSizeIn_of_areFixed h row i path

theorem cellSizeIn_of_areFixed {cs : List Column} (h : areFixed cs = true) (row i : Nat)
    (path : List Nat) : cellSizeIn row cs i path = 0 := by
  match cs, i with
  | [], _ => rfl
  | c :: _, 0 => exact cellSize_of_isFixed (Bool.and_eq_true_iff.mp h).1 row path
  | _ :: cs, i + 1 => exact cellSizeIn_of_areFixed (Bool.and_eq_true_iff.mp h).2 row i path

end

end Column

/-! ### Output rows -/

/-- The cells that one side contributes to a row. -/
def sideCells (specs : List ColumnSpec) : Option BatchRow → List Value
  | some (batch, row) => batch.row row
  | none => ColumnSpec.absentAll specs

/-- The bytes that one side contributes to the text or binary column at a path. -/
def sideSize (path : List Nat) : Option BatchRow → Nat
  | some (batch, row) => batch.cellSize row path
  | none => 0

/-- The bytes that the sides of some rows contribute to the column. -/
def sidesSize (path : List Nat) : List (Option BatchRow) → Nat
  | [] => 0
  | side :: sides => sideSize path side + sidesSize path sides

theorem sidesSize_append (path : List Nat) (sides sides' : List (Option BatchRow)) :
    sidesSize path (sides ++ sides') = sidesSize path sides + sidesSize path sides' := by
  induction sides with
  | nil => rw [List.nil_append, sidesSize, Nat.zero_add]
  | cons side sides ih => rw [List.cons_append, sidesSize, sidesSize, ih, Nat.add_assoc]

theorem sidesSize_of_zero {path : List Nat} {sides : List (Option BatchRow)}
    (h : ∀ side ∈ sides, sideSize path side = 0) : sidesSize path sides = 0 := by
  induction sides with
  | nil => rfl
  | cons side sides ih =>
    rw [sidesSize, h side List.mem_cons_self, Nat.zero_add]
    exact ih fun side' hside => h side' (List.mem_cons_of_mem _ hside)

namespace OutputSchema

/-- The columns of the build side. -/
def buildSpecs (o : OutputSchema) : List ColumnSpec := o.schema.fields.take o.buildWidth

/-- The columns of the probe side. -/
def probeSpecs (o : OutputSchema) : List ColumnSpec := o.schema.fields.drop o.buildWidth

/-- The output row of a joined row. -/
def rowOf (o : OutputSchema) (r : JoinedRow BatchRow BatchRow) : Row :=
  sideCells o.buildSpecs r.build ++ sideCells o.probeSpecs r.probe

end OutputSchema

/-- A row of well-formed columns that can be taken as the given ones. -/
structure BatchRow.Fits (specs : List ColumnSpec) (r : BatchRow) : Prop where
  /-- The columns. -/
  columns : Column.WellFormedAll r.1.rowCount r.1.columns
  /-- The row is in them. -/
  row : r.2 < r.1.rowCount
  /-- What they claim to be. -/
  admits : ColumnSpec.AdmitsAll specs (r.1.columns.map Column.spec)

/-! ### One side -/

section Side

open Column Column.Builder

variable {specs : List ColumnSpec} {builders : List Builder} {sides : List (Option BatchRow)}

/-- The builders have taken the cells of some rows. -/
structure SideHolds (specs : List ColumnSpec) (builders : List Builder)
    (sides : List (Option BatchRow)) : Prop where
  /-- They have as many rows. -/
  sound : SoundAll sides.length builders
  /-- They build the given columns. -/
  spec : builders.map Builder.spec = specs
  /-- Every row. -/
  value : ∀ row side, sides[row]? = some side →
    rowAt row (toColumns builders) = sideCells specs side
  /-- The bytes of all rows. -/
  payload : ∀ i path, payloadSizeIn (toColumns builders) i path = sidesSize (i :: path) sides

theorem sideHolds_ofSpecs (specs : List ColumnSpec) : SideHolds specs (ofSpecs specs) [] :=
  ⟨sound_ofSpecs specs, map_spec_ofSpecs specs, nofun, payloadSizeIn_ofSpecs specs⟩

/-- Builders that have grown by the cells of a side. -/
theorem sideHolds_grown {builders' : List Builder} {side : Option BatchRow}
    (h : SideHolds specs builders sides)
    (hgrown : GrownAll sides.length builders builders' (sideCells specs side)
      fun i path => sideSize (i :: path) side) : SideHolds specs builders' (sides ++ [side]) := by
  refine ⟨?_, hgrown.spec.trans h.spec, ?_, ?_⟩
  · rw [List.length_append]
    exact hgrown.sound
  · intro row side' hside
    rcases getElem?_concat hside with ⟨hlt, hside⟩ | ⟨rfl, rfl⟩
    · rw [hgrown.value row (Nat.le_of_lt hlt), if_neg (Nat.ne_of_lt hlt), h.value row side' hside]
    · rw [hgrown.value _ (Nat.le_refl _), if_pos rfl]
  · intro i path
    rw [hgrown.payload, h.payload, sidesSize_append]
    rfl

/-- The cells of a side are taken, unless some payload has no room for them. -/
theorem writeSide_of_holds {side : Option BatchRow} (h : SideHolds specs builders sides)
    (hfits : ∀ r, side = some r → r.Fits specs) :
    (∃ builders', RowWriter.writeSide builders side = (.ok (), builders') ∧
      SideHolds specs builders' (sides ++ [side])) ∨
      Full (RowWriter.writeSide builders side) fun path => sidesSize path (sides ++ [side]) := by
  cases side with
  | none =>
    refine .inl ⟨_, rfl, sideHolds_grown h ?_⟩
    have hgrown := grown_pushAbsentAll builders h.sound
    rw [h.spec] at hgrown
    exact hgrown
  | some r =>
    obtain ⟨batch, row⟩ := r
    have hr := hfits _ rfl
    rcases grown_pushFromAll hr.row builders batch.columns h.sound hr.columns
      (by rw [h.spec]; exact hr.admits) with ⟨builders', hpush, hgrown⟩ | ⟨hrefused, ⟨i, path⟩, hfull⟩
    · exact .inl ⟨builders', hpush, sideHolds_grown h hgrown⟩
    · refine .inr ⟨hrefused, i :: path, ?_⟩
      rw [sidesSize_append, ← h.payload]
      exact hfull

end Side

/-! ### Both sides -/

/-- Rows whose text and binary cells fit into one payload for each output column. -/
structure PayloadsFit (rows : List (JoinedRow BatchRow BatchRow)) : Prop where
  /-- The build columns. -/
  build : ∀ path, sidesSize path (rows.map JoinedRow.build) ≤ Slices.maxOffset
  /-- The probe columns. -/
  probe : ∀ path, sidesSize path (rows.map JoinedRow.probe) ≤ Slices.maxOffset

theorem PayloadsFit.initial {rows all : List (JoinedRow BatchRow BatchRow)}
    (h : PayloadsFit all) (hrows : rows <+: all) : PayloadsFit rows := by
  obtain ⟨rest, rfl⟩ := hrows
  refine ⟨?_, ?_⟩
  · intro path
    have := h.build path
    rw [List.map_append, sidesSize_append] at this
    omega
  · intro path
    have := h.probe path
    rw [List.map_append, sidesSize_append] at this
    omega

/-- Rows without texts and bytes fit, however many they are. -/
theorem payloadsFit_of_zero {rows : List (JoinedRow BatchRow BatchRow)}
    (hbuild : ∀ r ∈ rows, ∀ path, sideSize path r.build = 0)
    (hprobe : ∀ r ∈ rows, ∀ path, sideSize path r.probe = 0) : PayloadsFit rows := by
  have hzero : ∀ (sideOf : JoinedRow BatchRow BatchRow → Option BatchRow) path,
      (∀ r ∈ rows, sideSize path (sideOf r) = 0) →
        sidesSize path (rows.map sideOf) ≤ Slices.maxOffset := by
    intro sideOf path hsize
    rw [sidesSize_of_zero fun side hside => ?_]
    · exact Nat.zero_le _
    · obtain ⟨r, hr, rfl⟩ := List.mem_map.mp hside
      exact hsize r hr
  exact ⟨fun path => hzero _ path fun r hr => hbuild r hr path,
    fun path => hzero _ path fun r hr => hprobe r hr path⟩

/-- Whether the rows of both sides belong to batches without texts and bytes. -/
def JoinedRow.isFixed (r : JoinedRow BatchRow BatchRow) : Bool :=
  (r.build.all fun b => Column.areFixed b.1.columns) &&
    r.probe.all fun p => Column.areFixed p.1.columns

theorem payloadsFit_of_isFixed {rows : List (JoinedRow BatchRow BatchRow)}
    (h : ∀ r ∈ rows, r.isFixed = true) : PayloadsFit rows := by
  have hzero : ∀ (side : Option BatchRow) path,
      (side.all fun b => Column.areFixed b.1.columns) = true → sideSize path side = 0 := by
    intro side path hfixed
    cases side with
    | none => rfl
    | some b =>
      cases path with
      | nil => rfl
      | cons i path => exact Column.cellSizeIn_of_areFixed hfixed b.2 i path
  refine payloadsFit_of_zero ?_ ?_
  · intro r hr path
    exact hzero _ path (Bool.and_eq_true_iff.mp (h r hr)).1
  · intro r hr path
    exact hzero _ path (Bool.and_eq_true_iff.mp (h r hr)).2

/-- A joined row of rows that the output can take. -/
structure RowFits (o : OutputSchema) (r : JoinedRow BatchRow BatchRow) : Prop where
  /-- The build row. -/
  build : ∀ b, r.build = some b → b.Fits o.buildSpecs
  /-- The probe row. -/
  probe : ∀ p, r.probe = some p → p.Fits o.probeSpecs

namespace RowWriter

open Column Column.Builder

variable {o : OutputSchema} {w : RowWriter} {rows : List (JoinedRow BatchRow BatchRow)}

/-- The writer has taken some joined rows. -/
structure Holds (w : RowWriter) (o : OutputSchema) (rows : List (JoinedRow BatchRow BatchRow)) :
    Prop where
  /-- The build columns. -/
  build : SideHolds o.buildSpecs w.build (rows.map JoinedRow.build)
  /-- The probe columns. -/
  probe : SideHolds o.probeSpecs w.probe (rows.map JoinedRow.probe)
  /-- The number of rows. -/
  count : w.rows = rows.length

theorem holds_ofSchema (o : OutputSchema) : (ofSchema o).Holds o [] :=
  ⟨sideHolds_ofSpecs _, sideHolds_ofSpecs _, rfl⟩

/-- A joined row is taken, unless some payload has no room for it. -/
theorem append_of_holds {r : JoinedRow BatchRow BatchRow} (h : w.Holds o rows) (hr : RowFits o r) :
    (∃ w', w.append r.build r.probe = (.ok (), w') ∧ w'.Holds o (rows ++ [r])) ∨
      ((∃ spec w', spec.holdsBytes = true ∧ w.append r.build r.probe = (.error (.payload spec), w')) ∧
        ¬ PayloadsFit (rows ++ [r])) := by
  obtain ⟨build, probe, count⟩ := w
  rcases writeSide_of_holds h.build hr.build with
    ⟨build', hwrite, hbuild⟩ | ⟨⟨spec, build', hspec, hwrite⟩, path, hfull⟩
  · rcases writeSide_of_holds h.probe hr.probe with
      ⟨probe', hwrite', hprobe⟩ | ⟨⟨spec, probe', hspec, hwrite'⟩, path, hfull⟩
    · refine .inl ⟨⟨build', probe', count + 1⟩, ?_, ⟨?_, ?_, ?_⟩⟩
      · simp only [append, hwrite, hwrite']
      · rw [List.map_append]
        exact hbuild
      · rw [List.map_append]
        exact hprobe
      · rw [List.length_append]
        exact congrArg (· + 1) h.count
    · refine .inr ⟨⟨spec, ⟨build', probe', count⟩, hspec, by simp only [append, hwrite, hwrite']⟩, ?_⟩
      intro hfits
      have := hfits.probe path
      rw [List.map_append] at this
      exact Nat.not_le_of_lt hfull this
  · refine .inr ⟨⟨spec, ⟨build', probe, count⟩, hspec, by simp only [append, hwrite]⟩, ?_⟩
    intro hfits
    have := hfits.build path
    rw [List.map_append] at this
    exact Nat.not_le_of_lt hfull this

theorem toColumns_append (bs bs' : List Builder) :
    toColumns (bs ++ bs') = toColumns bs ++ toColumns bs' := by
  induction bs with
  | nil => rfl
  | cons b bs ih => rw [List.cons_append, toColumns, toColumns, ih, List.cons_append]

theorem rowAt_append (row : Nat) (cs cs' : List Column) :
    rowAt row (cs ++ cs') = rowAt row cs ++ rowAt row cs' := by
  induction cs with
  | nil => rfl
  | cons c cs ih => rw [List.cons_append, rowAt, rowAt, ih, List.cons_append]

theorem length_of_wellFormed {n : Nat} : ∀ {c : Column}, c.WellFormed n → c.length = n
  | .fixed .., h => h.2.1
  | .bytes _ _ _ slices, h => by
    show slices.offsets.size - 1 = n
    rw [h.2.1.size]
    rfl
  | .record .., h => h.2.1

/-- Well-formed columns of one length make a batch. -/
theorem ofColumns_of_wellFormed {n : Nat} {cs : List Column} (h : WellFormedAll n cs)
    (hne : cs ≠ []) : Batch.ofColumns cs = .ok ⟨n, n, cs, none⟩ := by
  rw [wellFormedAll_iff] at h
  have hcount : (cs.head?.map Column.length).getD 0 = n := by
    cases cs with
    | nil => exact absurd rfl hne
    | cons c cs => exact length_of_wellFormed (h c List.mem_cons_self)
  have hfind : (cs.find? fun c => c.length != n || c.validity.length != n) = none := by
    refine List.find?_eq_none.mpr fun c hc => ?_
    simp [length_of_wellFormed (h c hc), (suits_of_wellFormed (h c hc)).length]
  simp only [Batch.ofColumns, hcount, hfind]

/-- The writer finishes as the batch of the rows that it has taken. -/
theorem finish_of_holds (h : w.Holds o rows) (hne : o.schema.fields ≠ []) :
    ∃ batch, w.finish = .ok batch ∧ batch.WellFormed ∧ batch.rowCount = rows.length ∧
      batch.schema = o.schema ∧ batch.rows = rows.map o.rowOf := by
  obtain ⟨build, probe, count⟩ := w
  have hsound : WellFormedAll rows.length (toColumns (build ++ probe)) := by
    have hb := wellFormedAll_toColumns build h.build.sound
    have hp := wellFormedAll_toColumns probe h.probe.sound
    rw [List.length_map] at hb hp
    rw [toColumns_append, wellFormedAll_iff]
    intro c hc
    rcases List.mem_append.mp hc with hc | hc
    · exact wellFormedAll_iff.mp hb c hc
    · exact wellFormedAll_iff.mp hp c hc
  have hspecs : (toColumns (build ++ probe)).map Column.spec = o.schema.fields := by
    rw [map_spec_toColumns, List.map_append, h.build.spec, h.probe.spec]
    exact List.take_append_drop o.buildWidth o.schema.fields
  have hcolumns : toColumns (build ++ probe) ≠ [] := by
    intro hnil
    rw [hnil] at hspecs
    exact hne hspecs.symm
  refine ⟨⟨rows.length, rows.length, toColumns (build ++ probe), none⟩, ?_, ⟨rfl, hsound⟩, rfl, ?_, ?_⟩
  · simp only [finish, finishAll_eq]
    exact ofColumns_of_wellFormed hsound hcolumns
  · exact congrArg Schema.mk hspecs
  · refine List.ext_getElem (by simp [Batch.rows]) ?_
    intro row hrow hrow'
    rw [List.length_map] at hrow'
    have hbuild := h.build.value row _ (List.getElem?_eq_getElem (by simpa using hrow'))
    have hprobe := h.probe.value row _ (List.getElem?_eq_getElem (by simpa using hrow'))
    simp only [Batch.rows, List.getElem_map, List.getElem_range, Batch.row, toColumns_append,
      rowAt_append, hbuild, hprobe, OutputSchema.rowOf]

end RowWriter

end HashJoin
