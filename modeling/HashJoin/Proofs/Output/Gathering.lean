import HashJoin.Proofs.Column.Copying
import HashJoin.Proofs.Join.Streams
import Mathlib.Data.List.Induction

/-!
# Gathering rows

A writer is given joined rows one after another, and the batch that it finishes as has these rows in
that order. Cells of a side that is there are stored as they were in its batch, and a missing side has
absent cells. Only a payload that has no room left ends this early. How many rows the writer has
reserved room for makes no difference.

## Main definitions

* `RowWriter.reserving` — a writer with room for some rows.
* `RowWriter.appendAll`, `RowWriter.gather` — the writer, and the batch, of some rows.
* `Batch.Gathers` — batches of given joined rows.
* `RowWriter.StopsAt` — a row that found a payload full.

## Main results

* `copies_append` — one more row.
* `appendAll_ofSchema` — all rows, or those before the first that is refused.
* `gather_faithful` — the batch of all rows.
-/

namespace HashJoin

/-! ### Reserved room -/

namespace Column.Builder

mutual

/-- The empty builder of a column, with room for some rows. Texts and byte sequences have none, since
nothing is known of their sizes. -/
def reserving (room : Nat) : ColumnSpec → Builder
  | .scalar name (.int w) nullable =>
    fixed (.scalar name (.int w) nullable) (.reserving room) (.ints w (.emptyWithCapacity room))
  | .scalar name (.float .single) nullable =>
    fixed (.scalar name (.float .single) nullable) (.reserving room) (.singles (.emptyWithCapacity room))
  | .scalar name (.float .double) nullable =>
    fixed (.scalar name (.float .double) nullable) (.reserving room) (.doubles (.emptyWithCapacity room))
  | .scalar name .binary nullable =>
    bytes (.scalar name .binary nullable) (.reserving room) .binary .empty
  | .scalar name .text nullable => bytes (.scalar name .text nullable) (.reserving room) .text .empty
  | .record name fields nullable =>
    record (.record name fields nullable) (.reserving room) (reservingAll room fields)

/-- The empty builders of a sequence of columns, with room for some rows. -/
def reservingAll (room : Nat) : List ColumnSpec → List Builder
  | [] => []
  | c :: cs => reserving room c :: reservingAll room cs

end

mutual

theorem reserving_eq (room : Nat) : ∀ c : ColumnSpec, reserving room c = ofSpec c
  | .scalar _ (.int _) _ => rfl
  | .scalar _ (.float .single) _ => rfl
  | .scalar _ (.float .double) _ => rfl
  | .scalar _ .binary _ => rfl
  | .scalar _ .text _ => rfl
  | .record name fields nullable => by
    rw [reserving, reservingAll_eq room fields]
    rfl

theorem reservingAll_eq (room : Nat) : ∀ cs : List ColumnSpec, reservingAll room cs = ofSpecs cs
  | [] => rfl
  | c :: cs => by rw [reservingAll, reserving_eq room c, reservingAll_eq room cs, ofSpecs]

end

end Column.Builder

namespace RowWriter

/-- The writer without rows, with room for some. -/
def reserving (output : OutputSchema) (room : Nat) : RowWriter where
  build := Column.Builder.reservingAll room output.buildSpecs
  probe := Column.Builder.reservingAll room output.probeSpecs
  rows := 0

/-- Room makes no difference. -/
theorem reserving_eq (output : OutputSchema) (room : Nat) : reserving output room = ofSchema output := by
  rw [reserving, Column.Builder.reservingAll_eq, Column.Builder.reservingAll_eq]
  rfl

/-! ### Many rows -/

/-- Writes joined rows, up to the first that is refused. -/
def appendAll (w : RowWriter) : List (JoinedRow BatchRow BatchRow) → Except FormatError RowWriter
  | [] => .ok w
  | r :: rows =>
    match w.append r.build r.probe with
    | (.ok (), w) => w.appendAll rows
    | (.error e, _) => .error e

theorem appendAll_append (w : RowWriter) (rows more : List (JoinedRow BatchRow BatchRow)) :
    w.appendAll (rows ++ more) = w.appendAll rows >>= fun w => w.appendAll more := by
  induction rows generalizing w with
  | nil => rfl
  | cons r rows ih =>
    rw [List.cons_append, appendAll, appendAll]
    rcases w.append r.build r.probe with ⟨⟨⟩ | ⟨⟩, w'⟩
    · rfl
    · exact ih w'

/-- The batch of some joined rows. -/
def gather (output : OutputSchema) (room : Nat) (rows : List (JoinedRow BatchRow BatchRow)) :
    Except FormatError Batch := do
  let w ← (reserving output room).appendAll rows
  w.finish

end RowWriter

/-! ### One side -/

theorem ColumnSpec.length_eq_of_admitsAll : ∀ {as bs : List ColumnSpec}, AdmitsAll as bs →
    as.length = bs.length
  | [], [], _ => rfl
  | _ :: _, _ :: _, h => congrArg (· + 1) (length_eq_of_admitsAll h.2)

section Side

open Column Column.Builder

variable {specs : List ColumnSpec} {builders builders' : List Builder} {sides : List (Option BatchRow)}
  {side : Option BatchRow}

/-- The builders have stored the cells of some rows as they were, and addressed all their bytes. -/
structure SideCopies (builders : List Builder) (sides : List (Option BatchRow)) : Prop where
  /-- Every row. -/
  stored : ∀ row r, sides[row]? = some (some r) →
    storedIn row (toColumns builders) = r.1.storedRow r.2
  /-- Every payload. -/
  room : ∀ i path, payloadSizeIn (toColumns builders) i path ≤ Slices.maxOffset

theorem sideCopies_ofSpecs (specs : List ColumnSpec) : SideCopies (ofSpecs specs) [] := by
  refine ⟨nofun, fun i path => ?_⟩
  rw [payloadSizeIn_ofSpecs]
  exact Nat.zero_le _

/-- Builders that have stored one more row. -/
theorem sideCopies_stored {cells : List StoredCell} (h : SideCopies builders sides)
    (hstores : StoresAll sides.length builders builders' cells)
    (hcells : ∀ r, side = some r → cells = r.1.storedRow r.2)
    (hroom : ∀ i path, payloadSizeIn (toColumns builders') i path ≤ Slices.maxOffset) :
    SideCopies builders' (sides ++ [side]) := by
  refine ⟨?_, hroom⟩
  intro row r hside
  rcases getElem?_concat hside with ⟨hlt, hside⟩ | ⟨rfl, hlast⟩
  · rw [hstores row (Nat.le_of_lt hlt), if_neg (Nat.ne_of_lt hlt), h.stored row r hside]
  · rw [hstores _ (Nat.le_refl _), if_pos rfl, hcells r hlast.symm]

/-- The cells of a side that was written are stored as they were. -/
theorem sideCopies_writeSide (hholds : SideHolds specs builders sides) (h : SideCopies builders sides)
    (hfits : ∀ r, side = some r → r.Fits specs)
    (hwrite : RowWriter.writeSide builders side = (.ok (), builders')) :
    SideCopies builders' (sides ++ [side]) := by
  cases side with
  | none =>
    cases hwrite
    obtain ⟨cells, hstores⟩ := stores_pushAbsentAll builders hholds.sound
    refine sideCopies_stored h hstores nofun fun i path => ?_
    rw [(grown_pushAbsentAll builders hholds.sound).payload, Nat.add_zero]
    exact h.room i path
  | some r =>
    have hlength : builders.length = r.1.columns.length := by
      have := ColumnSpec.length_eq_of_admitsAll (hfits r rfl).admits
      rw [← hholds.spec, List.length_map, List.length_map] at this
      exact this
    refine sideCopies_stored h (stores_pushFromAll builders builders' _ hholds.sound hlength hwrite) ?_
      (payloadSizeIn_le_of_pushFromAll builders builders' _ hwrite h.room)
    rintro r' ⟨⟩
    rfl

end Side

/-! ### Both sides -/

namespace RowWriter

open Column Column.Builder

variable {o : OutputSchema} {w w' : RowWriter} {rows : List (JoinedRow BatchRow BatchRow)}
  {r : JoinedRow BatchRow BatchRow}

/-- The writer has stored some joined rows. -/
structure Copies (w : RowWriter) (rows : List (JoinedRow BatchRow BatchRow)) : Prop where
  /-- The build columns. -/
  build : SideCopies w.build (rows.map JoinedRow.build)
  /-- The probe columns. -/
  probe : SideCopies w.probe (rows.map JoinedRow.probe)

theorem copies_ofSchema (o : OutputSchema) : (ofSchema o).Copies [] :=
  ⟨sideCopies_ofSpecs _, sideCopies_ofSpecs _⟩

/-- One more row. -/
theorem copies_append (hholds : w.Holds o rows) (h : w.Copies rows) (hr : RowFits o r)
    (happend : w.append r.build r.probe = (.ok (), w')) : w'.Copies (rows ++ [r]) := by
  obtain ⟨build, probe, count⟩ := w
  simp only [append] at happend
  split at happend
  · cases happend
  · next build' hbuild =>
    split at happend
    · cases happend
    · next probe' hprobe =>
      cases happend
      refine ⟨?_, ?_⟩
      · rw [List.map_append]
        exact sideCopies_writeSide hholds.build h.build hr.build hbuild
      · rw [List.map_append]
        exact sideCopies_writeSide hholds.probe h.probe hr.probe hprobe

/-- All bytes of rows that were written fit. -/
theorem payloadsFit_of_copies (hholds : w.Holds o rows) (h : w.Copies rows) : PayloadsFit rows := by
  have hfits : ∀ {specs builders sides}, SideHolds specs builders sides → SideCopies builders sides →
      ∀ path, sidesSize path sides ≤ Slices.maxOffset := by
    intro specs builders sides hside hcopies path
    cases path with
    | nil =>
      rw [sidesSize_of_zero fun side _ => by rcases side with - | - <;> rfl]
      exact Nat.zero_le _
    | cons i path =>
      rw [← hside.payload]
      exact hcopies.room i path
  exact ⟨hfits hholds.build h.build, hfits hholds.probe h.probe⟩

/-- Of some rows, those before one are written, and then a payload has no room for that one. -/
structure StopsAt (w : RowWriter) (rows before : List (JoinedRow BatchRow BatchRow))
    (r : JoinedRow BatchRow BatchRow) (spec : ColumnSpec) : Prop where
  /-- It is the row behind them. -/
  place : before ++ [r] <+: rows
  /-- All bytes of the rows before it fit. -/
  fits : PayloadsFit before
  /-- Its own do not. -/
  full : ¬ PayloadsFit (before ++ [r])
  /-- The column whose payload is full holds texts or byte sequences. -/
  column : spec.holdsBytes = true
  /-- The rows before it are written, and it is refused. -/
  refused : ∃ w', w.appendAll before = .ok w' ∧ (w'.append r.build r.probe).1 = .error (.payload spec)
  /-- This ends the run. -/
  stopped : w.appendAll rows = .error (.payload spec)

/-- All rows are written, unless some payload has no room for one of them. -/
theorem appendAll_ofSchema (hrows : ∀ r ∈ rows, RowFits o r) :
    (∃ w, (ofSchema o).appendAll rows = .ok w ∧ w.Holds o rows ∧ w.Copies rows) ∨
      ∃ before r spec, (ofSchema o).StopsAt rows before r spec := by
  -- on the rows from the last one on, so that the writer has always started out empty
  induction rows using List.reverseRecOn with
  | nil => exact .inl ⟨_, rfl, holds_ofSchema o, copies_ofSchema o⟩
  | append_singleton rows r ih =>
    rcases ih fun r' hr' => hrows r' (List.mem_append_left _ hr') with
      ⟨w, hw, hholds, hcopies⟩ | ⟨before, r', spec, hstop⟩
    · have hr : RowFits o r := hrows r (List.mem_append_right _ List.mem_cons_self)
      have hlast : (ofSchema o).appendAll (rows ++ [r]) = w.appendAll [r] := by
        rw [appendAll_append, hw]
        rfl
      rcases append_of_holds hholds hr with ⟨w', happend, hholds'⟩ | ⟨⟨spec, w', hspec, happend⟩, hfull⟩
      · refine .inl ⟨w', ?_, hholds', copies_append hholds hcopies hr happend⟩
        rw [hlast, appendAll, happend]
        rfl
      · refine .inr ⟨rows, r, spec, List.prefix_refl _, payloadsFit_of_copies hholds hcopies, hfull,
          hspec, ⟨w, hw, by rw [happend]⟩, ?_⟩
        rw [hlast, appendAll, happend]
    · refine .inr ⟨before, r', spec, hstop.place.trans (List.prefix_append _ _), hstop.fits, hstop.full,
        hstop.column, hstop.refused, ?_⟩
      rw [appendAll_append, hstop.stopped]
      rfl

/-! ### The batch -/

theorem storedIn_append (row : Nat) (cs cs' : List Column) :
    storedIn row (cs ++ cs') = storedIn row cs ++ storedIn row cs' := by
  induction cs with
  | nil => rfl
  | cons c cs ih => rw [List.cons_append, storedIn, storedIn, ih, List.cons_append]

theorem length_storedIn (row : Nat) (cs : List Column) : (storedIn row cs).length = cs.length := by
  induction cs with
  | nil => rfl
  | cons c cs ih => rw [storedIn, List.length_cons, List.length_cons, ih]

end RowWriter

/-- The batch of some joined rows. -/
structure Batch.Gathers (batch : Batch) (o : OutputSchema)
    (rows : List (JoinedRow BatchRow BatchRow)) : Prop where
  /-- It is dense, and its columns are what they claim to be. -/
  formed : batch.WellFormed
  /-- It has the output columns. -/
  schema : batch.schema = o.schema
  /-- It has as many rows. -/
  rowCount : batch.rowCount = rows.length
  /-- It has room for no more. -/
  capacity : batch.capacity = rows.length
  /-- Its rows are the joined ones, with absent cells for sides that are missing. -/
  values : batch.rows = rows.map o.rowOf
  /-- The cells of a build row are stored as they were. -/
  build : ∀ row r b, rows[row]? = some r → r.build = some b →
    (batch.storedRow row).take o.buildWidth = b.1.storedRow b.2
  /-- The cells of a probe row are stored as they were. -/
  probe : ∀ row r p, rows[row]? = some r → r.probe = some p →
    (batch.storedRow row).drop o.buildWidth = p.1.storedRow p.2

namespace RowWriter

open Column Column.Builder

variable {o : OutputSchema} {w : RowWriter} {rows : List (JoinedRow BatchRow BatchRow)} {batch : Batch}

theorem columns_of_finish (h : w.finish = .ok batch) :
    batch.columns = toColumns (w.build ++ w.probe) ∧ batch.capacity = batch.rowCount := by
  rw [finish, finishAll_eq] at h
  change Batch.ofColumns _ = .ok batch at h
  simp only [Batch.ofColumns] at h
  split at h
  · cases h
  · cases h
    exact ⟨rfl, rfl⟩

/-- The batch of the rows that a writer has taken and stored. -/
theorem finish_of_copies (hholds : w.Holds o rows) (h : w.Copies rows) (hne : o.schema.fields ≠ [])
    (hwidth : o.buildWidth ≤ o.schema.width) :
    ∃ batch, w.finish = .ok batch ∧ batch.Gathers o rows := by
  obtain ⟨batch, hfinish, hformed, hcount, hschema, hvalues⟩ := finish_of_holds hholds hne
  obtain ⟨hcolumns, hcapacity⟩ := columns_of_finish hfinish
  have hbuildWidth : (toColumns w.build).length = o.buildWidth := by
    have := congrArg List.length (map_spec_toColumns w.build)
    rw [hholds.build.spec, List.length_map, OutputSchema.buildSpecs, List.length_take] at this
    rw [this]
    exact Nat.min_eq_left hwidth
  have hstored : ∀ row, batch.storedRow row =
      storedIn row (toColumns w.build) ++ storedIn row (toColumns w.probe) := by
    intro row
    rw [Batch.storedRow, hcolumns, toColumns_append, storedIn_append]
  refine ⟨batch, hfinish, hformed, hschema, hcount, hcapacity.trans hcount, hvalues, ?_, ?_⟩
  · intro row r b hrow hb
    rw [hstored, List.take_left' ((length_storedIn _ _).trans hbuildWidth)]
    refine h.build.stored row b ?_
    rw [List.getElem?_map, hrow, Option.map_some, hb]
  · intro row r p hrow hp
    rw [hstored, List.drop_left' ((length_storedIn _ _).trans hbuildWidth)]
    refine h.probe.stored row p ?_
    rw [List.getElem?_map, hrow, Option.map_some, hp]

end RowWriter

/-- A row of well-formed columns that comes under a schema. It need not be an active one. -/
structure BatchRow.ComesUnder (schema : Option Schema) (r : BatchRow) : Prop where
  /-- The columns. -/
  columns : Column.WellFormedAll r.1.rowCount r.1.columns
  /-- The row is in them. -/
  row : r.2 < r.1.rowCount
  /-- The schema. -/
  schema : schema = some r.1.schema

namespace RowWriter

variable {build probe : Option Schema} {joinType : JoinType} {r : JoinedRow BatchRow BatchRow}
  {rows : List (JoinedRow BatchRow BatchRow)}

theorem rowFits_ofSides (hbuild : ∀ b, r.build = some b → b.ComesUnder build)
    (hprobe : ∀ p, r.probe = some p → p.ComesUnder probe) :
    RowFits (.ofSides build probe joinType) r := by
  refine ⟨?_, ?_⟩
  · intro b hb
    obtain ⟨hcolumns, hrow, rfl⟩ := hbuild b hb
    refine ⟨hcolumns, hrow, ?_⟩
    rw [OutputSchema.buildSpecs_ofSides]
    exact Joining.admitsAll_sideFields b.1 _
  · intro p hp
    obtain ⟨hcolumns, hrow, rfl⟩ := hprobe p hp
    refine ⟨hcolumns, hrow, ?_⟩
    rw [OutputSchema.probeSpecs_ofSides]
    exact Joining.admitsAll_sideFields p.1 _

/-- **Joined rows are gathered faithfully.** Let rows of well-formed batches be joined in any order, a
side of each of them there or missing. If the bytes of every output column can be addressed, then all
are written, and the batch that the writer finishes as has the output columns and exactly these rows:
what a build or a probe row stores is stored there, and a missing side has absent cells. Otherwise the
rows before the first one without room are written, and that one is refused. The room that was
reserved has no part in it. -/
theorem gather_faithful (build probe : Option Schema) (joinType : JoinType) (room : Nat)
    (rows : List (JoinedRow BatchRow BatchRow))
    (hfields : (OutputSchema.ofSides build probe joinType).schema.fields ≠ [])
    (hbuild : ∀ r ∈ rows, ∀ b, r.build = some b → b.ComesUnder build)
    (hprobe : ∀ r ∈ rows, ∀ p, r.probe = some p → p.ComesUnder probe) :
    let o := OutputSchema.ofSides build probe joinType
    (PayloadsFit rows → ∃ batch, gather o room rows = .ok batch ∧ batch.Gathers o rows) ∧
      (¬ PayloadsFit rows → ∃ before r spec, (reserving o room).StopsAt rows before r spec) ∧
      ∀ other, gather o other rows = gather o room rows := by
  intro o
  have hfits : ∀ r ∈ rows, RowFits o r := fun r hr => rowFits_ofSides (hbuild r hr) (hprobe r hr)
  have hwidth : o.buildWidth ≤ o.schema.width := by
    show _ ≤ (_ ++ _ : List ColumnSpec).length
    rw [List.length_append]
    exact Nat.le_add_right _ _
  refine ⟨?_, ?_, ?_⟩
  · intro hroom
    rcases appendAll_ofSchema hfits with ⟨w, hw, hholds, hcopies⟩ | ⟨before, r, spec, hstop⟩
    · obtain ⟨batch, hfinish, hgathers⟩ := finish_of_copies hholds hcopies hfields hwidth
      refine ⟨batch, ?_, hgathers⟩
      rw [gather, reserving_eq, hw]
      exact hfinish
    · exact absurd (hroom.initial hstop.place) hstop.full
  · intro hfull
    rw [reserving_eq]
    rcases appendAll_ofSchema hfits with ⟨w, -, hholds, hcopies⟩ | hstop
    · exact absurd (payloadsFit_of_copies hholds hcopies) hfull
    · exact hstop
  · intro other
    rw [gather, gather, reserving_eq, reserving_eq]

/-- A row of both sides, one that lacks a build side with a NULL column and a record that excludes
NULL, and one that lacks its probe side; the stored single is a NaN with bits of its own. -/
theorem gather_faithful_lacking :
    let nan : Binary32 := .ofMagnitude true 0x7fc00001
    let single : Column := .fixed (.scalar "x" (.float .single) false) (.ofList [true])
      ⟨.singles #[nan], 32⟩
    let inner : Column := .fixed (.scalar "i" (.int .bits16) false) (.ofList [true])
      ⟨.ints .bits16 #[5], 32⟩
    let pair : Column := .record (.record "r" [inner.spec] false) (.ofList [true]) 1 [inner]
    let key : Column := .fixed (.scalar "k" (.int .bits64) true) (.ofList [true, false])
      ⟨.ints .bits64 #[7, 0], 32⟩
    let build : Batch := ⟨1, 1, [single, pair], none⟩
    let probe : Batch := ⟨2, 2, [key], none⟩
    let o := OutputSchema.ofSides (some build.schema) (some probe.schema) .full
    ∃ batch, gather o 9 [⟨some (build, 0), some (probe, 1)⟩, ⟨none, some (probe, 0)⟩,
        ⟨some (build, 0), none⟩] = .ok batch ∧
      batch.rows[1]? = some [.null, .record [.integer 0], .integer 7] ∧
      (batch.storedRow 2).take 2 = [.single nan, .record [.integer 5]] := by
  intro nan single inner pair key build probe o
  have hbuild : build.WellFormed := by
    refine ⟨rfl, ⟨⟨rfl, ?_⟩, rfl, rfl⟩, ⟨⟨rfl, ?_⟩, rfl, rfl, rfl, ⟨⟨rfl, ?_⟩, rfl, rfl⟩, trivial⟩,
      trivial⟩
    all_goals
      rintro - row hrow
      obtain rfl : row = 0 := Nat.lt_one_iff.mp hrow
      rfl
  have hprobe : probe.WellFormed := ⟨rfl, ⟨⟨rfl, nofun⟩, rfl, rfl⟩, trivial⟩
  obtain ⟨hgathered, -, -⟩ := gather_faithful (some build.schema) (some probe.schema) .full 9
    [⟨some (build, 0), some (probe, 1)⟩, ⟨none, some (probe, 0)⟩, ⟨some (build, 0), none⟩] nofun
    (by
      intro r hr b hb
      simp only [List.mem_cons, List.not_mem_nil, or_false] at hr
      rcases hr with rfl | rfl | rfl <;> cases hb <;> exact ⟨hbuild.columns, by decide, rfl⟩)
    (by
      intro r hr p hp
      simp only [List.mem_cons, List.not_mem_nil, or_false] at hr
      rcases hr with rfl | rfl | rfl <;> cases hp <;> exact ⟨hprobe.columns, by decide, rfl⟩)
  obtain ⟨batch, hbatch, hgathers⟩ := hgathered (payloadsFit_of_isFixed (by
    intro r hr
    simp only [List.mem_cons, List.not_mem_nil, or_false] at hr
    rcases hr with rfl | rfl | rfl <;> rfl))
  refine ⟨batch, hbatch, ?_, ?_⟩
  · rw [hgathers.values]
    rfl
  · have hwidth : o.buildWidth = 2 := rfl
    have hstored : build.storedRow 0 = [.single nan, .record [.integer 5]] := rfl
    rw [← hwidth, ← hstored]
    exact hgathers.build 2 _ _ rfl rfl

end RowWriter
end HashJoin
