import HashJoin.Proofs.Column.Accepting

/-!
# Batches of rows

A batch can be made of rows if they are no more than its capacity, each row has a cell for each column,
the columns take the cells, and the bytes of each text or binary column can be addressed. It then holds
these rows, but for numbers in columns of floats, which are floats of their format. Otherwise it is the
first offending row that is reported.

## Main definitions

* `Acceptable` — rows that columns can store.
* `Offends` — the first row that columns cannot store, and why.
* `Batch.Restores` — batches of given rows.

## Main results

* `Batch.pushRows_of_holds` — the rows are stored, up to the first that offends.
* `Batch.ofRows_exact` — which rows make a batch, what it holds, and what is reported otherwise.
-/

namespace HashJoin

/-! ### Rows that are taken -/

/-- The bytes of some rows in the text or binary column at a path. -/
def rowsBytes : List Row → Nat → List Nat → Nat
  | [], _, _ => 0
  | cells :: rows, i, path => Value.bytesIn cells i path + rowsBytes rows i path

theorem rowsBytes_append (rows rows' : List Row) (i : Nat) (path : List Nat) :
    rowsBytes (rows ++ rows') i path = rowsBytes rows i path + rowsBytes rows' i path := by
  induction rows with
  | nil => rw [List.nil_append, rowsBytes, Nat.zero_add]
  | cons cells rows ih => rw [List.cons_append, rowsBytes, rowsBytes, ih, Nat.add_assoc]

theorem rowsBytes_singleton (cells : Row) (i : Nat) (path : List Nat) :
    rowsBytes [cells] i path = Value.bytesIn cells i path := rfl

/-- Rows that columns can store. -/
structure Acceptable (specs : List ColumnSpec) (rows : List Row) : Prop where
  /-- Each has a cell for each column. -/
  width : ∀ cells ∈ rows, cells.length = specs.length
  /-- The columns take the cells. -/
  takes : ∀ cells ∈ rows, ColumnSpec.takesAll specs cells = true
  /-- The bytes of all rows can be addressed. -/
  room : ∀ i path, rowsBytes rows i path ≤ Slices.maxOffset

/-- Why a row cannot be stored, behind rows of given bytes: first its width counts, then its cells from
left to right. -/
def rowFault? (specs : List ColumnSpec) (row : Nat) (cells : Row) (used : Nat → List Nat → Nat) :
    Option FormatError :=
  if cells.length ≠ specs.length then some (.rowWidth row cells.length specs.length)
  else ColumnSpec.faultIn? row specs cells used

variable {specs : List ColumnSpec} {rows : List Row} {cells : Row} {e e' : FormatError}

theorem Acceptable.initial {rows' : List Row} (h : Acceptable specs rows) (hrows : rows' <+: rows) :
    Acceptable specs rows' := by
  obtain ⟨rest, rfl⟩ := hrows
  refine ⟨fun cells hcells => h.width cells (List.mem_append_left _ hcells),
    fun cells hcells => h.takes cells (List.mem_append_left _ hcells), fun i path => ?_⟩
  have := h.room i path
  rw [rowsBytes_append] at this
  omega

theorem acceptable_nil (specs : List ColumnSpec) : Acceptable specs [] :=
  ⟨nofun, nofun, fun _ _ => Nat.zero_le _⟩

/-- One more row can be stored if there is no reason against it. -/
theorem rowFault?_eq_none_iff (h : Acceptable specs rows) (row : Nat) :
    rowFault? specs row cells (rowsBytes rows) = none ↔ Acceptable specs (rows ++ [cells]) := by
  have hbytes : ∀ i path, rowsBytes (rows ++ [cells]) i path =
      rowsBytes rows i path + Value.bytesIn cells i path := by
    intro i path
    rw [rowsBytes_append, rowsBytes_singleton]
  rw [rowFault?]
  by_cases hwidth : cells.length = specs.length
  · rw [if_neg (not_not_intro hwidth), ColumnSpec.faultIn?_eq_none_iff hwidth h.room]
    constructor
    · rintro ⟨htakes, hroom⟩
      refine ⟨?_, ?_, fun i path => by rw [hbytes]; exact hroom i path⟩
      · intro cells' hcells
        rcases List.mem_append.mp hcells with hcells | hcells
        · exact h.width cells' hcells
        · rw [List.mem_singleton.mp hcells]
          exact hwidth
      · intro cells' hcells
        rcases List.mem_append.mp hcells with hcells | hcells
        · exact h.takes cells' hcells
        · rw [List.mem_singleton.mp hcells]
          exact htakes
    · intro hall
      exact ⟨hall.takes cells (List.mem_append_right _ List.mem_cons_self),
        fun i path => by rw [← hbytes]; exact hall.room i path⟩
  · rw [if_pos hwidth]
    exact iff_of_false nofun fun hall =>
      hwidth (hall.width cells (List.mem_append_right _ List.mem_cons_self))

/-! ### Rows that are refused -/

/-- The first of some rows that cannot be stored, and why. -/
structure OffendsAt (specs : List ColumnSpec) (rows before : List Row) (cells : Row) (e : FormatError) :
    Prop where
  /-- It is the row behind others. -/
  place : before ++ [cells] <+: rows
  /-- Those can be stored. -/
  acceptable : Acceptable specs before
  /-- It cannot. -/
  fault : rowFault? specs before.length cells (rowsBytes before) = some e

/-- Some row cannot be stored, and the first one cannot for the given reason. -/
def Offends (specs : List ColumnSpec) (rows : List Row) (e : FormatError) : Prop :=
  ∃ before cells, OffendsAt specs rows before cells e

theorem OffendsAt.not_acceptable {before : List Row} (h : OffendsAt specs rows before cells e) :
    ¬ Acceptable specs rows := by
  intro hall
  have := (rowFault?_eq_none_iff h.acceptable before.length).mpr (hall.initial h.place)
  rw [h.fault] at this
  cases this

/-- No rows that can be stored reach as far as the first that cannot. -/
theorem OffendsAt.length_le {before before' : List Row} {cells' : Row}
    (h : OffendsAt specs rows before cells e) (h' : OffendsAt specs rows before' cells' e') :
    before'.length ≤ before.length := by
  refine Nat.le_of_not_lt fun hlonger => ?_
  have hinitial : before ++ [cells] <+: before' := by
    refine List.prefix_of_prefix_length_le h.place ((List.prefix_append _ _).trans h'.place) ?_
    rw [List.length_append]
    exact hlonger
  have hself : OffendsAt specs before' before cells e := ⟨hinitial, h.acceptable, h.fault⟩
  exact hself.not_acceptable h'.acceptable

/-- There is only one first row that cannot be stored, and only one reason. -/
theorem Offends.eq (h : Offends specs rows e) (h' : Offends specs rows e') : e = e' := by
  obtain ⟨before, cells, h⟩ := h
  obtain ⟨before', cells', h'⟩ := h'
  have hlength : (before ++ [cells]).length = (before' ++ [cells']).length := by
    rw [List.length_append, List.length_append, Nat.le_antisymm (h'.length_le h) (h.length_le h')]
    rfl
  have hsame : before ++ [cells] = before' ++ [cells'] :=
    (List.prefix_of_prefix_length_le h.place h'.place (Nat.le_of_eq hlength)).eq_of_length hlength
  obtain ⟨rfl, hcells⟩ := List.append_inj' hsame rfl
  obtain rfl := (List.cons.inj hcells).1
  have hfault := h.fault
  rw [h'.fault] at hfault
  exact (Option.some.inj hfault).symm

namespace Batch

open Column Column.Builder

/-! ### Storing rows -/

/-- The builders have stored some rows. -/
structure TableHolds (specs : List ColumnSpec) (builders : List Builder) (rows : List Row) : Prop where
  /-- They have as many. -/
  sound : SoundAll rows.length builders
  /-- They build the given columns. -/
  spec : builders.map Builder.spec = specs
  /-- Every row. -/
  value : ∀ row cells, rows[row]? = some cells →
    rowAt row (toColumns builders) = ColumnSpec.convertedAll specs cells
  /-- The bytes of all rows. -/
  payload : payloadSizeIn (toColumns builders) = rowsBytes rows
  /-- The columns can store them. -/
  acceptable : Acceptable specs rows

theorem tableHolds_ofSpecs (specs : List ColumnSpec) : TableHolds specs (ofSpecs specs) [] := by
  refine ⟨sound_ofSpecs specs, map_spec_ofSpecs specs, nofun, ?_, acceptable_nil specs⟩
  funext i path
  exact payloadSizeIn_ofSpecs specs i path

variable {builders builders' : List Builder}

/-- Builders that have grown by a row. -/
theorem tableHolds_grown (h : TableHolds specs builders rows)
    (hcells : Acceptable specs (rows ++ [cells]))
    (hgrown : GrownAll rows.length builders builders' (ColumnSpec.convertedAll specs cells)
      (Value.bytesIn cells)) : TableHolds specs builders' (rows ++ [cells]) := by
  refine ⟨?_, hgrown.spec.trans h.spec, ?_, ?_, hcells⟩
  · rw [List.length_append]
    exact hgrown.sound
  · intro row cells' hrow
    rcases getElem?_concat hrow with ⟨hlt, hrow⟩ | ⟨rfl, rfl⟩
    · rw [hgrown.value row (Nat.le_of_lt hlt), if_neg (Nat.ne_of_lt hlt), h.value row cells' hrow]
    · rw [hgrown.value _ (Nat.le_refl _), if_pos rfl]
  · funext i path
    rw [hgrown.payload, h.payload, rowsBytes_append, rowsBytes_singleton]

/-- One row is stored, or the columns cannot store it. -/
theorem pushAll_of_holds (h : TableHolds specs builders rows) (hwidth : cells.length = specs.length) :
    (∃ builders', pushAll rows.length builders cells = (.ok (), builders') ∧
      TableHolds specs builders' (rows ++ [cells])) ∨
    ∃ e builders', pushAll rows.length builders cells = (.error e, builders') ∧
      rowFault? specs rows.length cells (rowsBytes rows) = some e := by
  have hbuilders : cells.length = builders.length := by
    rw [hwidth, ← h.spec, List.length_map]
  have hanswers := pushAll_of_sound rows.length builders cells h.sound hbuilders
  rw [h.spec, h.payload] at hanswers
  have hfault : ColumnSpec.faultIn? rows.length specs cells (rowsBytes rows) =
      rowFault? specs rows.length cells (rowsBytes rows) := by
    rw [rowFault?, if_neg (not_not_intro hwidth)]
  rw [hfault] at hanswers
  rcases hanswers with ⟨builders', hnone, hpush, hgrown⟩ | ⟨e, builders', hsome, hpush⟩
  · have hall := (rowFault?_eq_none_iff h.acceptable rows.length).mp hnone
    exact .inl ⟨builders', hpush, tableHolds_grown h hall hgrown⟩
  · exact .inr ⟨e, builders', hpush, hsome⟩

/-- The rows are stored, up to the first that the columns cannot store. -/
theorem pushRows_of_holds (more : List Row) (h : TableHolds specs builders rows) :
    (∃ builders', pushRows specs.length builders rows.length more = .ok builders' ∧
      TableHolds specs builders' (rows ++ more)) ∨
    ∃ e, pushRows specs.length builders rows.length more = .error e ∧ Offends specs (rows ++ more) e := by
  induction more generalizing builders rows with
  | nil =>
    rw [List.append_nil]
    exact .inl ⟨builders, rfl, h⟩
  | cons cells more ih =>
    have hplace : rows ++ [cells] <+: rows ++ cells :: more :=
      ⟨more, (List.append_cons rows cells more).symm⟩
    rw [pushRows]
    by_cases hwidth : cells.length = specs.length
    · rw [if_neg (not_not_intro hwidth)]
      rcases pushAll_of_holds h hwidth with ⟨builders', hpush, h'⟩ | ⟨e, builders', hpush, hfault⟩
      · have hrest := ih h'
        rw [List.length_append, ← List.append_cons] at hrest
        rw [hpush]
        exact hrest
      · rw [hpush]
        exact .inr ⟨e, rfl, rows, cells, hplace, h.acceptable, hfault⟩
    · rw [if_pos hwidth]
      exact .inr ⟨_, rfl, rows, cells, hplace, h.acceptable, if_pos hwidth⟩

/-! ### The batch -/

/-- The batch of some rows. -/
structure Restores (batch : Batch) (specs : List ColumnSpec) (rows : List Row) (capacity : Nat) :
    Prop where
  /-- It is dense, and its columns are what they claim to be. -/
  formed : batch.WellFormed
  /-- It has the given columns. -/
  schema : batch.schema = ⟨specs⟩
  /-- It has as many rows. -/
  rowCount : batch.rowCount = rows.length
  /-- It has the given capacity. -/
  capacity : batch.capacity = capacity
  /-- Its rows are the given ones, but for numbers in columns of floats. -/
  rows : batch.rows = rows.map (ColumnSpec.convertedAll specs)

theorem restores_of_holds (h : TableHolds specs builders rows) (capacity : Nat) :
    (⟨rows.length, capacity, toColumns builders, none⟩ : Batch).Restores specs rows capacity := by
  refine ⟨⟨rfl, wellFormedAll_toColumns builders h.sound⟩, ?_, rfl, rfl, ?_⟩
  · rw [schema, map_spec_toColumns, h.spec]
  · refine List.ext_getElem (by simp [Batch.rows]) fun row _ hrow => ?_
    rw [List.length_map] at hrow
    simp only [Batch.rows, List.getElem_map, List.getElem_range, Batch.row]
    exact h.value row _ (List.getElem?_eq_getElem hrow)

/-- Why a batch cannot be made of some rows. -/
inductive Refuses (specs : List ColumnSpec) (rows : List Row) (capacity : Nat) : FormatError → Prop
  /-- They are more than the capacity. -/
  | capacity (h : capacity < rows.length) : Refuses specs rows capacity (.rowCount rows.length capacity)
  /-- They are not, but some row cannot be stored, and the first one cannot for the given reason. -/
  | row {e : FormatError} (h : rows.length ≤ capacity) (hrow : Offends specs rows e) :
    Refuses specs rows capacity e

/-- Either the rows can be stored, and make a batch, or they cannot, and the reason is reported. -/
theorem ofRows_cases (specs : List ColumnSpec) (rows : List Row) (capacity : Nat) :
    (rows.length ≤ capacity ∧ Acceptable specs rows ∧
      ∃ batch, ofRows rows specs capacity = .ok batch ∧ batch.Restores specs rows capacity) ∨
    ∃ e, Refuses specs rows capacity e ∧ ofRows rows specs capacity = .error e := by
  rcases Nat.lt_or_ge capacity rows.length with hmore | hcapacity
  · exact .inr ⟨_, .capacity hmore, if_pos hmore⟩
  · rw [ofRows, if_neg (Nat.not_lt_of_le hcapacity)]
    rcases pushRows_of_holds rows (tableHolds_ofSpecs specs) with
      ⟨builders, hpush, hholds⟩ | ⟨e, hpush, hoffends⟩
    · refine .inl ⟨hcapacity, hholds.acceptable, _, ?_, restores_of_holds hholds capacity⟩
      rw [← List.length_nil, hpush]
      show (finishAll _ _ >>= _) = _
      rw [finishAll_eq]
      rfl
    · refine .inr ⟨e, .row hcapacity hoffends, ?_⟩
      rw [← List.length_nil, hpush]
      rfl

theorem Refuses.not_acceptable {capacity : Nat} (h : Refuses specs rows capacity e) :
    ¬ (rows.length ≤ capacity ∧ Acceptable specs rows) := by
  rintro ⟨hcapacity, hall⟩
  cases h with
  | capacity hmore => exact Nat.not_le_of_lt hmore hcapacity
  | row _ hrow =>
    obtain ⟨before, cells, hrow⟩ := hrow
    exact hrow.not_acceptable hall

/-- There is only one reason. -/
theorem Refuses.eq {capacity : Nat} (h : Refuses specs rows capacity e)
    (h' : Refuses specs rows capacity e') : e = e' := by
  cases h with
  | capacity hmore =>
    cases h' with
    | capacity _ => rfl
    | row hcapacity _ => exact absurd hcapacity (Nat.not_le_of_lt hmore)
  | row hcapacity hrow =>
    cases h' with
    | capacity hmore => exact absurd hcapacity (Nat.not_le_of_lt hmore)
    | row _ hrow' => exact hrow.eq hrow'

/-- **Rows make a batch exactly if they can be stored.** They have to be no more than the capacity, each
with a cell for each column, which the column takes, and the bytes of no text or binary column, at any
depth, may be more than can be addressed. The batch is dense, has the given columns, and holds the given
rows, but for numbers in columns of floats, which are floats of their format. Otherwise the reason is
reported: too many rows, or else what is wrong with the first row that cannot be stored. -/
theorem ofRows_exact (specs : List ColumnSpec) (rows : List Row) (capacity : Nat) :
    ((∃ batch, ofRows rows specs capacity = .ok batch) ↔
      rows.length ≤ capacity ∧ Acceptable specs rows) ∧
    (∀ batch, ofRows rows specs capacity = .ok batch → batch.Restores specs rows capacity) ∧
    ∀ e, ofRows rows specs capacity = .error e ↔ Refuses specs rows capacity e := by
  rcases ofRows_cases specs rows capacity with
    ⟨hcapacity, hall, batch, hmade, hrestores⟩ | ⟨e, hrefuses, herror⟩
  · refine ⟨iff_of_true ⟨batch, hmade⟩ ⟨hcapacity, hall⟩, ?_, fun e => ?_⟩
    · intro batch' hmade'
      rw [hmade] at hmade'
      cases hmade'
      exact hrestores
    · rw [hmade]
      exact iff_of_false nofun fun hrefuses => hrefuses.not_acceptable ⟨hcapacity, hall⟩
  · rw [herror]
    refine ⟨iff_of_false nofun hrefuses.not_acceptable, nofun, fun e' => ?_⟩
    constructor
    · rintro ⟨⟩
      exact hrefuses
    · intro hrefuses'
      rw [hrefuses.eq hrefuses']

/-- An integer in a column of singles, a record with a text, and a missing record. A fourth row is
refused for the text that it lacks. -/
theorem ofRows_exact_mixed :
    let text : ColumnSpec := .scalar "t" .text false
    let specs : List ColumnSpec := [.scalar "x" (.float .single) false, .record "r" [text] true]
    let rows : List Row := [[.integer 1, .record [.text "a"]], [.float .zero, .null]]
    (∃ batch, ofRows rows specs 2 = .ok batch ∧ batch.rows =
      [[.float (.ofInt 1), .record [.text "a"]], [.float .zero, .null]]) ∧
      Refuses specs (rows ++ [[.integer 2, .record [.null]]]) 3 (.nullValue text) := by
  intro text specs rows
  obtain ⟨-, hmade, -⟩ := ofRows_exact specs rows 2
  obtain ⟨-, -, hrefused⟩ := ofRows_exact specs (rows ++ [[.integer 2, .record [.null]]]) 3
  have hone : (Binary.ofInt 1 : Binary32).convert = (.ofInt 1 : Binary64) := by decide +kernel
  have hzero : ((Binary.zero : Binary64).convert : Binary32).convert = (.zero : Binary64) := by
    decide +kernel
  refine ⟨⟨_, rfl, (hmade _ rfl).rows.trans ?_⟩, (hrefused _).mp rfl⟩
  simp only [specs, rows, List.map_cons, List.map_nil, ColumnSpec.convertedAll, ColumnSpec.converted,
    ScalarType.converted, hone, hzero]
  rfl

end Batch
end HashJoin
