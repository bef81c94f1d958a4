import HashJoin.Proofs.Column.Accepting

/-!
# Refused rows

A row can be refused when part of it was already taken. A text or byte sequence that the payload has
no room for leaves its bytes there, and a record whose field refuses leaves the cells that the fields
before have taken. No row reads the bytes, but the cells stand in the place of the next row.

## Main definitions

* `Column.Builder.Call` — the calls that append a row, and what each appends.
* `Column.Builder.strays` — whether a refused call leaves cells behind.
* `Column.Builder.surplus` — the cells that stand in fields behind the last row of their record.
* `Column.Builder.Usable` — builders that any calls have led to, refused ones included.

## Main results

* `Slices.push_outgrown` — bytes that stay behind make the payload refuse all that comes later.
* `effect_perform` — a call appends its row, or leaves all rows as they were; cells stay behind exactly
  if it strays.
-/

namespace HashJoin

/-! ### Byte sequences -/

namespace Slices

variable {s s' : Slices} {n : Nat} {data : ByteArray} {spec : ColumnSpec}

/-- There is a sequence for each of `n` rows. The last one ends the payload, unless the payload has
outgrown the offsets. -/
structure Usable (s : Slices) (n : Nat) : Prop where
  /-- One offset more than there are rows. -/
  size : s.offsets.size = n + 1
  /-- The offsets ascend. -/
  ascending : ∀ row < n, s.offsets.getD row 0 ≤ s.offsets.getD (row + 1) 0
  /-- The last offset is within the payload. -/
  bounded : s.offsets.getD n 0 ≤ s.payload.size
  /-- It ends the payload. -/
  last : s.payload.size ≤ maxOffset → s.offsets.getD n 0 = s.payload.size

theorem WellFormed.usable (h : s.WellFormed n) : s.Usable n :=
  ⟨h.size, h.ascending, Nat.le_of_eq h.last, fun _ => h.last⟩

theorem Usable.wellFormed (h : s.Usable n) (hroom : s.payload.size ≤ maxOffset) : s.WellFormed n :=
  ⟨h.size, h.ascending, h.last hroom⟩

theorem Usable.le_size (h : s.Usable n) {row : Nat} (hrow : row ≤ n) :
    s.offsets.getD row 0 ≤ s.payload.size :=
  Nat.le_trans (getD_le_last h.ascending hrow) h.bounded

/-- The slices `s'` are `s` with one more sequence. -/
structure Appended (n : Nat) (s s' : Slices) (data : ByteArray) : Prop where
  /-- There is one for each row. -/
  usable : s'.Usable (n + 1)
  /-- The new sequence, and those before. -/
  get : ∀ row ≤ n, s'.get row = if row = n then data else s.get row

/-- The slices `s'` have the sequences of `s`. -/
structure Retained (n : Nat) (s s' : Slices) : Prop where
  /-- There is one for each row. -/
  usable : s'.Usable n
  /-- The sequences. -/
  get : ∀ row < n, s'.get row = s.get row

/-- A sequence is appended if the payload has room for it. Otherwise its bytes stay behind. -/
theorem push_cases (s : Slices) (data : ByteArray) (spec : ColumnSpec) :
    (s.payload.size + data.size ≤ maxOffset ∧ s.push data spec = (.ok (), s.added data)) ∨
      (maxOffset < s.payload.size + data.size ∧
        s.push data spec = (.error (.payload spec), s.outgrown data)) := by
  rcases Nat.lt_or_ge maxOffset (s.payload.size + data.size) with hfull | hroom
  · exact .inr ⟨hfull, push_of_full spec hfull⟩
  · exact .inl ⟨hroom, push_of_fits hroom⟩

/-- A payload that was outgrown once takes no further sequence, not even one that there was room for. -/
theorem push_outgrown (hfull : maxOffset < s.payload.size + data.size) (other : ByteArray)
    (spec : ColumnSpec) : ((s.outgrown data).push other spec).1 = .error (.payload spec) := by
  rcases push_cases (s.outgrown data) other spec with ⟨hroom, -⟩ | ⟨-, hpush⟩
  · have hsize : (s.outgrown data).payload.size = s.payload.size + data.size := ByteArray.size_append
    omega
  · rw [hpush]

theorem appended_added (h : s.Usable n) (hroom : s.payload.size + data.size ≤ maxOffset) :
    Appended n s (s.added data) data := by
  have hformed : s.WellFormed n := h.wellFormed (by omega)
  refine ⟨(wellFormed_added hformed data).usable, ?_⟩
  intro row hrow
  exact get_added hformed data hrow

theorem retained_outgrown (h : s.Usable n) (hfull : maxOffset < s.payload.size + data.size) :
    Retained n s (s.outgrown data) := by
  have hsize : (s.outgrown data).payload.size = s.payload.size + data.size := ByteArray.size_append
  have hbounded := h.bounded
  refine ⟨⟨h.size, h.ascending, ?_, ?_⟩, ?_⟩
  · show s.offsets.getD n 0 ≤ _
    omega
  · intro hroom
    omega
  · intro row hrow
    exact get_append data (h.le_size (Nat.le_of_lt hrow)) (h.le_size hrow)

/-- An empty sequence starts and ends where the one before ends. -/
theorem appended_pushEmpty (h : s.Usable n) : Appended n s s.pushEmpty .empty := by
  have hlast : s.offsets.back?.getD 0 = s.offsets.getD n 0 := by
    rw [Array.back?_eq_getElem?, h.size, Array.getD_eq_getD_getElem?]
    rfl
  have hpush : s.pushEmpty = ⟨s.offsets.push (s.offsets.getD n 0), s.payload⟩ := by
    simp only [pushEmpty, hlast]
  have hold : ∀ row ≤ n, (s.offsets.push (s.offsets.getD n 0)).getD row 0 = s.offsets.getD row 0 := by
    intro row hrow
    rw [getD_push, if_neg (by rw [h.size]; omega)]
  have hnew : (s.offsets.push (s.offsets.getD n 0)).getD (n + 1) 0 = s.offsets.getD n 0 := by
    rw [getD_push, if_pos h.size.symm]
  rw [hpush]
  refine ⟨⟨?_, ?_, ?_, ?_⟩, ?_⟩
  · rw [Array.size_push, h.size]
  · intro row hrow
    rcases Nat.lt_or_eq_of_le (Nat.le_of_lt_succ hrow) with hlt | rfl
    · rw [hold row (Nat.le_of_lt hlt), hold (row + 1) hlt]
      exact h.ascending row hlt
    · exact Nat.le_of_eq ((hold row (Nat.le_refl _)).trans hnew.symm)
  · rw [hnew]
    exact h.bounded
  · rw [hnew]
    exact h.last
  · intro row hrow
    simp only [get, hold row hrow]
    split
    · next heq => rw [heq, hnew, ByteArray.extract_same]
    · next hne => rw [hold (row + 1) (by omega)]

end Slices

namespace Column.Builder

/-! ### Calls -/

/-- A call that appends a row. -/
inductive Call
  /-- A value, with the number to report. -/
  | value (value : Value) (row : Nat)
  /-- NULL. -/
  | null
  /-- An absent row. -/
  | absent
  /-- A row of another column. -/
  | copy (source : Column) (row : Nat)

namespace Call

/-- What the call appends to a column. -/
def cell (spec : ColumnSpec) : Call → Value
  | .value x _ => spec.converted x
  | .null => .null
  | .absent => spec.absent
  | .copy source row => source.valueAt row

/-- What calls append, one to each column of a sequence. -/
def cells (specs : List ColumnSpec) (calls : List Call) : List Value :=
  List.zipWith (fun spec call => call.cell spec) specs calls

/-- The calls that the fields of a record get, one after the other, before the call itself is granted.
There are none if it is refused at once, and none if it cannot be refused. -/
def parts (spec : ColumnSpec) (fields : Nat) : Call → List Call
  | .value (.record values) row => if values.length = fields then values.map (.value · row) else []
  | .copy (.record s w length columns) row =>
    if excludes spec (.record s w length columns) row then []
    else if fields = columns.length then columns.map (.copy · row) else []
  | _ => []

end Call

/-- Appends the row of a call. -/
def perform (b : Builder) : Call → Except FormatError Unit × Builder
  | .value value row => b.push row value
  | .null => b.pushNull
  | .absent => (.ok (), b.pushAbsent)
  | .copy source row => b.pushFrom row source

/-- Makes one call to each builder, up to the first that refuses. -/
def performIn : List Builder → List Call → Except FormatError Unit × List Builder
  | b :: bs, call :: calls =>
    match b.perform call with
    | (.ok (), b) =>
      let (result, bs) := performIn bs calls
      (result, b :: bs)
    | (.error e, b) => (.error e, b :: bs)
  | bs, _ => (.ok (), bs)

mutual

/-- Whether a call is refused after some field of a record, at some depth, has taken its cell. -/
def strays : Builder → Call → Bool
  | fixed .., _ | bytes .., _ => false
  | record s _ children, call => straysIn children (call.parts s children.length)

/-- Whether calls to the fields of a record stray: some field refuses behind one that took its cell, or
the call to the first one strays. -/
def straysIn : List Builder → List Call → Bool
  | b :: bs, call :: calls =>
    match b.perform call with
    | (.ok (), _) => !(performIn bs calls).1.isOk
    | (.error _, _) => strays b call
  | _, _ => false

end

theorem pushAll_eq (row : Nat) : ∀ (bs : List Builder) (values : List Value),
    pushAll row bs values = performIn bs (values.map (.value · row))
  | [], values => by cases values <;> rfl
  | b :: bs, [] => rfl
  | b :: bs, value :: values => by
    rw [pushAll, List.map_cons, performIn, pushAll_eq row bs values]
    rfl

theorem pushFromAll_eq (row : Nat) : ∀ (bs : List Builder) (columns : List Column),
    pushFromAll row bs columns = performIn bs (columns.map (.copy · row))
  | [], columns => by cases columns <;> rfl
  | b :: bs, [] => rfl
  | b :: bs, c :: columns => by
    rw [pushFromAll, List.map_cons, performIn, pushFromAll_eq row bs columns]
    rfl

theorem Call.cells_value (row : Nat) : ∀ {specs : List ColumnSpec} {values : List Value},
    values.length = specs.length →
    cells specs (values.map (.value · row)) = ColumnSpec.convertedAll specs values
  | [], [], _ => rfl
  | spec :: _, x :: _, h => congrArg (spec.converted x :: ·) (cells_value row (Nat.succ.inj h))

theorem Call.cells_copy (row : Nat) : ∀ {specs : List ColumnSpec} {columns : List Column},
    columns.length = specs.length → cells specs (columns.map (.copy · row)) = rowAt row columns
  | [], [], _ => rfl
  | _ :: _, c :: _, h => congrArg (c.valueAt row :: ·) (cells_copy row (Nat.succ.inj h))

/-! ### Usable builders -/

mutual

/-- The cells of the fields of records, at every depth, that stand behind the last row of their
record. -/
def surplus : Builder → Nat
  | fixed .. | bytes .. => 0
  | record _ v children => surplusIn v.length children

/-- The cells of fields that stand behind `n` rows, and those at any depth in them. -/
def surplusIn (n : Nat) : List Builder → Nat
  | [] => 0
  | b :: bs => b.length - n + surplus b + surplusIn n bs

end

mutual

/-- The builder has a cell for each row, and in the fields of records one at least. -/
def Usable : Builder → Prop
  | fixed s v cells => v.Clear ∧ cells.length = v.length ∧ s.scalarType? = some cells.type
  | bytes s v kind slices => v.Clear ∧ slices.Usable v.length ∧ s.scalarType? = some kind.type
  | record s v children =>
    v.Clear ∧ s.isRecord = true ∧ children.map spec = s.fields ∧ UsableIn v.length children

/-- The builders have a cell at least for each of `n` rows. -/
def UsableIn (n : Nat) : List Builder → Prop
  | [] => True
  | b :: bs => Usable b ∧ n ≤ b.length ∧ UsableIn n bs

end

mutual

/-- A new builder has no rows, and no cells. -/
theorem usable_ofSpec : ∀ c : ColumnSpec, (ofSpec c).Usable
  | .scalar _ (.int _) _ => ⟨Validity.clear_empty, rfl, rfl⟩
  | .scalar _ (.float .single) _ => ⟨Validity.clear_empty, rfl, rfl⟩
  | .scalar _ (.float .double) _ => ⟨Validity.clear_empty, rfl, rfl⟩
  | .scalar _ .binary _ => ⟨Validity.clear_empty, Slices.wellFormed_empty.usable, rfl⟩
  | .scalar _ .text _ => ⟨Validity.clear_empty, Slices.wellFormed_empty.usable, rfl⟩
  | .record _ fields _ => ⟨Validity.clear_empty, rfl, map_spec_ofSpecs fields, usableIn_ofSpecs fields⟩

theorem usableIn_ofSpecs : ∀ cs : List ColumnSpec, UsableIn 0 (ofSpecs cs)
  | [] => trivial
  | c :: cs => ⟨usable_ofSpec c, Nat.zero_le _, usableIn_ofSpecs cs⟩

end

theorem length_ofSpec (c : ColumnSpec) : (ofSpec c).length = 0 := by
  cases c with
  | scalar name t nullable => cases t <;> rfl
  | record name fields nullable => rfl

mutual

theorem surplus_ofSpec : ∀ c : ColumnSpec, (ofSpec c).surplus = 0
  | .scalar _ (.int _) _ | .scalar _ (.float _) _ | .scalar _ .binary _ | .scalar _ .text _ => rfl
  | .record _ fields _ => surplusIn_ofSpecs fields

theorem surplusIn_ofSpecs : ∀ cs : List ColumnSpec, surplusIn 0 (ofSpecs cs) = 0
  | [] => rfl
  | c :: cs => by rw [ofSpecs, surplusIn, length_ofSpec, surplus_ofSpec c, surplusIn_ofSpecs cs]

end

/-! ### One more row -/

/-- The builder `b'` is `b` with one more row. The row holds `value` if no cell stood in its place. -/
structure Appended (b b' : Builder) (value : Value) : Prop where
  /-- It is usable. -/
  usable : b'.Usable
  /-- It builds the same column. -/
  spec : b'.spec = b.spec
  /-- There is one more row. -/
  length : b'.length = b.length + 1
  /-- The rows before. -/
  earlier : ∀ row < b.length, b'.toColumn.valueAt row = b.toColumn.valueAt row
  /-- The new row. -/
  value : b.surplus = 0 → b'.toColumn.valueAt b.length = value
  /-- As many cells stand behind the last row. -/
  surplus : b'.surplus = b.surplus

/-- The builders `bs'` are `bs` with one more cell each, behind `n` rows. -/
structure AppendedIn (n : Nat) (bs bs' : List Builder) (values : List Value) : Prop where
  /-- They are usable. -/
  usable : UsableIn (n + 1) bs'
  /-- They build the same columns. -/
  spec : bs'.map Builder.spec = bs.map Builder.spec
  /-- The rows before. -/
  earlier : ∀ row < n, rowAt row (toColumns bs') = rowAt row (toColumns bs)
  /-- The new row. -/
  value : surplusIn n bs = 0 → rowAt n (toColumns bs') = values
  /-- As many cells stand behind the last row. -/
  surplus : surplusIn (n + 1) bs' = surplusIn n bs

theorem appendedIn_nil (n : Nat) : AppendedIn n [] [] [] :=
  ⟨trivial, rfl, fun _ _ => rfl, fun _ => rfl, rfl⟩

theorem appendedIn_cons {n : Nat} {b b' : Builder} {bs bs' : List Builder} {value : Value}
    {values : List Value} (hn : n ≤ b.length) (hb : Appended b b' value)
    (hbs : AppendedIn n bs bs' values) : AppendedIn n (b :: bs) (b' :: bs') (value :: values) := by
  have hlength := hb.length
  refine ⟨⟨hb.usable, by omega, hbs.usable⟩, ?_, ?_, ?_, ?_⟩
  · rw [List.map_cons, List.map_cons, hb.spec, hbs.spec]
  · intro row hrow
    rw [toColumns, toColumns, rowAt, rowAt, hb.earlier row (Nat.lt_of_lt_of_le hrow hn),
      hbs.earlier row hrow]
  · intro hsurplus
    rw [surplusIn] at hsurplus
    obtain rfl : n = b.length := by omega
    rw [toColumns, rowAt, hb.value (by omega), hbs.value (by omega)]
  · rw [surplusIn, surplusIn, hb.surplus, hbs.surplus]
    omega

section

variable {s : ColumnSpec} {v : Validity} {valid : Bool}

theorem appended_fixed {cells cells' : Cells} {value : Value} (h : (fixed s v cells).Usable)
    (htype : cells'.type = cells.type) (hlength : cells'.length = cells.length + 1)
    (hvalue : ∀ row, cells'.valueAt row = if row = cells.length then value else cells.valueAt row) :
    Appended (fixed s v cells) (fixed s (v.push valid) cells') (if valid then value else .null) := by
  obtain ⟨hclear, hcells, hspec⟩ := h
  have hrow : ∀ row, (fixed s (v.push valid) cells').toColumn.valueAt row =
      if row = v.length then if valid then value else .null
      else (fixed s v cells).toColumn.valueAt row :=
    fun row => valueAt_fixed_push hclear valid (hcells ▸ hvalue row)
  refine ⟨⟨Validity.clear_push hclear valid, ?_, ?_⟩, rfl, Validity.length_push v valid, ?_, ?_, rfl⟩
  · rw [hlength, hcells, Validity.length_push]
  · rw [htype, hspec]
  · intro row hlt
    exact (hrow row).trans (if_neg (Nat.ne_of_lt hlt))
  · intro _
    exact (hrow v.length).trans (if_pos rfl)

theorem appended_bytes {kind : BytesKind} {slices slices' : Slices} {data : ByteArray}
    (h : (bytes s v kind slices).Usable) (hslices : slices.Appended v.length slices' data) :
    Appended (bytes s v kind slices) (bytes s (v.push valid) kind slices')
      (if valid then kind.value data else .null) := by
  obtain ⟨hclear, -, hspec⟩ := h
  have hrow : ∀ row ≤ v.length, (bytes s (v.push valid) kind slices').toColumn.valueAt row =
      if row = v.length then if valid then kind.value data else .null
      else (bytes s v kind slices).toColumn.valueAt row :=
    fun row hle => valueAt_bytes_push hclear valid (hslices.get row hle)
  refine ⟨⟨Validity.clear_push hclear valid, ?_, hspec⟩, rfl, Validity.length_push v valid, ?_, ?_, rfl⟩
  · rw [Validity.length_push]
    exact hslices.usable
  · intro row hlt
    exact (hrow row (Nat.le_of_lt hlt)).trans (if_neg (Nat.ne_of_lt hlt))
  · intro _
    exact (hrow v.length (Nat.le_refl _)).trans (if_pos rfl)

theorem appended_record {children children' : List Builder} {values : List Value}
    (h : (record s v children).Usable) (hchildren : AppendedIn v.length children children' values) :
    Appended (record s v children) (record s (v.push valid) children')
      (if valid then .record values else .null) := by
  obtain ⟨hclear, hrec, hspecs, -⟩ := h
  refine ⟨⟨Validity.clear_push hclear valid, hrec, hchildren.spec.trans hspecs, ?_⟩, rfl,
    Validity.length_push v valid, ?_, ?_, ?_⟩
  · rw [Validity.length_push]
    exact hchildren.usable
  · intro row hlt
    have hne : row ≠ v.length := Nat.ne_of_lt hlt
    have hold : rowAt row (toColumns children') =
        if row = v.length then values else rowAt row (toColumns children) :=
      (hchildren.earlier row hlt).trans (if_neg hne).symm
    exact (valueAt_record_push hclear valid hold).trans (if_neg hne)
  · intro hsurplus
    have hnew : rowAt v.length (toColumns children') =
        if v.length = v.length then values else rowAt v.length (toColumns children) :=
      (hchildren.value hsurplus).trans (if_pos rfl).symm
    exact (valueAt_record_push hclear valid hnew).trans (if_pos rfl)
  · show surplusIn (v.push valid).length children' = _
    rw [Validity.length_push]
    exact hchildren.surplus

end

/-! ### Refused rows -/

/-- The builder `b'` has the rows of `b`. If the refused call strayed, more cells stand behind the last
row. If not, it is `b` itself, unless a payload had no room. -/
structure Retained (e : FormatError) (stray : Bool) (b b' : Builder) : Prop where
  /-- It is usable. -/
  usable : b'.Usable
  /-- It builds the same column. -/
  spec : b'.spec = b.spec
  /-- There are as many rows. -/
  length : b'.length = b.length
  /-- The rows. -/
  rows : ∀ row < b.length, b'.toColumn.valueAt row = b.toColumn.valueAt row
  /-- Cells that stay behind. -/
  astray : stray = true → b.surplus < b'.surplus
  /-- No cells stay behind. -/
  level : stray = false → b'.surplus = b.surplus
  /-- Nothing stays behind. -/
  unchanged : stray = false → (∀ s, e ≠ .payload s) → b' = b

/-- The builders `bs'` have the first `n` rows of `bs`. -/
structure RetainedIn (n : Nat) (e : FormatError) (stray : Bool) (bs bs' : List Builder) : Prop where
  /-- They are usable. -/
  usable : UsableIn n bs'
  /-- They build the same columns. -/
  spec : bs'.map Builder.spec = bs.map Builder.spec
  /-- The rows. -/
  rows : ∀ row < n, rowAt row (toColumns bs') = rowAt row (toColumns bs)
  /-- Cells that stay behind. -/
  astray : stray = true → surplusIn n bs < surplusIn n bs'
  /-- No cells stay behind. -/
  level : stray = false → surplusIn n bs' = surplusIn n bs
  /-- Nothing stays behind. -/
  unchanged : stray = false → (∀ s, e ≠ .payload s) → bs' = bs

/-- Whether cells stay behind or not, none is taken away. -/
theorem le_of_astray {stray : Bool} {before after : Nat} (hmore : stray = true → before < after)
    (hsame : stray = false → after = before) : before ≤ after := by
  cases stray with
  | true => exact Nat.le_of_lt (hmore rfl)
  | false => exact Nat.le_of_eq (hsame rfl).symm

theorem retained_refl {b : Builder} (h : b.Usable) (e : FormatError) : Retained e false b b :=
  ⟨h, rfl, rfl, fun _ _ => rfl, nofun, fun _ => rfl, fun _ _ => rfl⟩

section

variable {n : Nat} {e : FormatError} {stray : Bool} {b b' : Builder} {bs bs' : List Builder}

/-- The first builder refused. -/
theorem retainedIn_head (h : UsableIn n (b :: bs)) (hb : Retained e stray b b') :
    RetainedIn n e stray (b :: bs) (b' :: bs) := by
  obtain ⟨-, hn, husable⟩ := h
  refine ⟨⟨hb.usable, by rw [hb.length]; exact hn, husable⟩, ?_, ?_, ?_, ?_, ?_⟩
  · rw [List.map_cons, List.map_cons, hb.spec]
  · intro row hrow
    rw [toColumns, toColumns, rowAt, rowAt, hb.rows row (Nat.lt_of_lt_of_le hrow hn)]
  · intro hstray
    have hmore := hb.astray hstray
    rw [surplusIn, surplusIn, hb.length]
    omega
  · intro hstray
    rw [surplusIn, surplusIn, hb.length, hb.level hstray]
  · intro hstray hroom
    rw [hb.unchanged hstray hroom]

/-- A builder refused behind one that took its cell. The cell stays behind. -/
theorem retainedIn_tail {value : Value} (h : UsableIn n (b :: bs)) (hb : Appended b b' value)
    (hbs : RetainedIn n e stray bs bs') : RetainedIn n e true (b :: bs) (b' :: bs') := by
  obtain ⟨-, hn, -⟩ := h
  have hlength := hb.length
  refine ⟨⟨hb.usable, by omega, hbs.usable⟩, ?_, ?_, ?_, nofun, nofun⟩
  · rw [List.map_cons, List.map_cons, hb.spec, hbs.spec]
  · intro row hrow
    rw [toColumns, toColumns, rowAt, rowAt, hb.earlier row (Nat.lt_of_lt_of_le hrow hn),
      hbs.rows row hrow]
  · intro _
    have hrest : surplusIn n bs ≤ surplusIn n bs' := le_of_astray hbs.astray hbs.level
    rw [surplusIn, surplusIn, hb.surplus]
    omega

theorem retained_bytes {s : ColumnSpec} {v : Validity} {kind : BytesKind} {slices slices' : Slices}
    (h : (bytes s v kind slices).Usable) (hslices : slices.Retained v.length slices') :
    Retained (.payload s) false (bytes s v kind slices) (bytes s v kind slices') := by
  obtain ⟨hclear, -, hspec⟩ := h
  refine ⟨⟨hclear, hslices.usable, hspec⟩, rfl, rfl, ?_, nofun, fun _ => rfl, ?_⟩
  · intro row hrow
    simp only [toColumn, valueAt, Slices.valueAt_eq, hslices.get row hrow]
  · intro _ hroom
    exact absurd rfl (hroom s)

theorem retained_record {s : ColumnSpec} {v : Validity} {children children' : List Builder}
    (h : (record s v children).Usable) (hchildren : RetainedIn v.length e stray children children') :
    Retained e stray (record s v children) (record s v children') := by
  obtain ⟨hclear, hrec, hspecs, -⟩ := h
  refine ⟨⟨hclear, hrec, hchildren.spec.trans hspecs, hchildren.usable⟩, rfl, rfl, ?_,
    hchildren.astray, hchildren.level, ?_⟩
  · intro row hrow
    simp only [toColumn, valueAt, hchildren.rows row hrow]
  · intro hstray hroom
    rw [hchildren.unchanged hstray hroom]

end

/-! ### Absent rows -/

mutual

theorem appended_pushBlank : ∀ (b : Builder) (valid : Bool), b.Usable →
    Appended b (b.pushBlank valid) (if valid then b.spec.blank else .null)
  | fixed s v cells, valid, h => by
    show Appended _ _ (if valid then s.blank else .null)
    rw [ColumnSpec.blank_of_type h.2.2]
    exact appended_fixed h (Cells.type_pushZero cells) (Cells.length_pushZero cells)
      (Cells.valueAt_pushZero cells)
  | bytes s v kind slices, valid, h => by
    show Appended _ _ (if valid then s.blank else .null)
    rw [ColumnSpec.blank_of_type h.2.2, kind.zero_type]
    exact appended_bytes h (Slices.appended_pushEmpty h.2.1)
  | record s v children, valid, h => by
    show Appended _ _ (if valid then s.blank else .null)
    rw [ColumnSpec.blank_of_isRecord h.2.1, ← h.2.2.1]
    exact appended_record h (appendedIn_pushAbsentAll children h.2.2.2)

/-- An absent cell in every field. -/
theorem appendedIn_pushAbsentAll {n : Nat} : ∀ bs : List Builder, UsableIn n bs →
    AppendedIn n bs (pushAbsentAll bs) (ColumnSpec.absentAll (bs.map spec))
  | [], _ => appendedIn_nil n
  | b :: bs, ⟨hb, hn, hbs⟩ => by
    have hfirst := appended_pushBlank b (!b.spec.nullable) hb
    rw [← ColumnSpec.absent_eq] at hfirst
    exact appendedIn_cons hn hfirst (appendedIn_pushAbsentAll bs hbs)

end

/-! ### The effect of a call -/

/-- A call to a builder, or some calls to the fields of a record, append a row, or are refused and leave
the rows as they were. -/
inductive Effect {α : Type} (stray : Bool) (Appends : α → Prop) (Retains : FormatError → α → Prop)
    (result : Except FormatError Unit × α) : Prop where
  /-- The call is granted. -/
  | granted (after : α) (hstray : stray = false) (hresult : result = (.ok (), after))
    (happended : Appends after)
  /-- It is refused. -/
  | refused (e : FormatError) (after : α) (hresult : result = (.error e, after))
    (hretained : Retains e after)

section

variable {s : ColumnSpec} {v : Validity}

theorem effect_pushNull (b : Builder) (h : b.Usable) :
    Effect false (Appended b · .null) (Retained · false b) b.pushNull := by
  unfold pushNull
  split
  · exact .granted _ rfl rfl (appended_pushBlank b false h)
  · exact .refused _ b rfl (retained_refl h _)

theorem effect_push_fixed {cells : Cells} (h : (fixed s v cells).Usable) (x : Value) (row : Nat) :
    Effect false (Appended (fixed s v cells) · (s.converted x)) (Retained · false (fixed s v cells))
      (push row (fixed s v cells) x) := by
  by_cases hnull : x = .null
  · rw [hnull, ColumnSpec.converted_null]
    exact effect_pushNull _ h
  · rw [push_fixed hnull, Cells.refusal?_eq cells s row 0, ColumnSpec.converted_of_type h.2.2]
    cases hfault : cells.type.fault? row s 0 x with
    | some e => exact .refused e _ rfl (retained_refl h e)
    | none =>
      exact .granted _ rfl rfl (appended_fixed h (Cells.type_pushValue cells x)
        (Cells.length_pushValue cells x) (Cells.valueAt_pushValue (ScalarType.takes_of_fault? hfault)))

/-- A sequence for a column of texts or byte sequences. -/
theorem effect_push_slices {kind : BytesKind} {slices : Slices} (h : (bytes s v kind slices).Usable)
    (valid : Bool) (data : ByteArray) :
    Effect false (Appended (bytes s v kind slices) · (if valid then kind.value data else .null))
      (Retained · false (bytes s v kind slices))
      (match slices.push data s with
        | (.ok (), slices) => (.ok (), bytes s (v.push valid) kind slices)
        | (.error e, slices) => (.error e, bytes s v kind slices)) := by
  rcases Slices.push_cases slices data s with ⟨hroom, hpush⟩ | ⟨hfull, hpush⟩
  · rw [hpush]
    exact .granted _ rfl rfl (appended_bytes h (Slices.appended_added h.2.1 hroom))
  · rw [hpush]
    exact .refused _ _ rfl (retained_bytes h (Slices.retained_outgrown h.2.1 hfull))

theorem effect_push_bytes : ∀ {kind : BytesKind} {slices : Slices}, (bytes s v kind slices).Usable →
    ∀ (x : Value) (row : Nat), Effect false (Appended (bytes s v kind slices) · (s.converted x))
      (Retained · false (bytes s v kind slices)) (push row (bytes s v kind slices) x)
  | _, _, h, .null, row => by
    rw [ColumnSpec.converted_null]
    exact effect_pushNull _ h
  | .binary, _, h, .blob data, row => by
    rw [ColumnSpec.converted_of_type h.2.2]
    exact effect_push_slices h true data
  | .text, _, h, .text t, row => by
    have htext : s.converted (.text t) = BytesKind.text.value t.toUTF8 := by
      rw [ColumnSpec.converted_of_type h.2.2, BytesKind.value, decode_toUTF8]
      rfl
    rw [htext]
    exact effect_push_slices h true t.toUTF8
  -- values of another kind
  | .binary, _, h, .integer _, _ | .binary, _, h, .float _, _ | .binary, _, h, .text _, _
  | .binary, _, h, .record _, _ | .text, _, h, .integer _, _ | .text, _, h, .float _, _
  | .text, _, h, .blob _, _ | .text, _, h, .record _, _ => .refused _ _ rfl (retained_refl h _)

theorem effect_pushFrom_fixed {cells : Cells} (h : (fixed s v cells).Usable) (row : Nat) :
    ∀ source : Column, Effect false (Appended (fixed s v cells) · (source.valueAt row))
      (Retained · false (fixed s v cells)) (pushFrom row (fixed s v cells) source)
  | .fixed s' w buffer => by
    rw [pushFrom]
    split
    · exact .refused _ _ rfl (retained_refl h _)
    · split
      · next halike =>
        exact .granted _ rfl rfl (appended_fixed h (Cells.type_pushCell cells buffer.cells row)
          (Cells.length_pushCell cells buffer.cells row)
          (Cells.valueAt_pushCell (Cells.type_eq_of_alike halike) row))
      · exact .refused _ _ rfl (retained_refl h _)
  | .bytes .. | .record .. => by
    simp only [pushFrom]
    split <;> exact .refused _ _ rfl (retained_refl h _)

theorem effect_pushFrom_bytes {kind : BytesKind} {slices : Slices} (h : (bytes s v kind slices).Usable)
    (row : Nat) : ∀ source : Column, Effect false (Appended (bytes s v kind slices) · (source.valueAt row))
      (Retained · false (bytes s v kind slices)) (pushFrom row (bytes s v kind slices) source)
  | .bytes s' w kind' others => by
    rw [pushFrom]
    split
    · exact .refused _ _ rfl (retained_refl h _)
    · split
      · next hkind =>
        rw [valueAt, Slices.valueAt_eq, ← hkind]
        exact effect_push_slices h (w.isValid row) (others.get row)
      · exact .refused _ _ rfl (retained_refl h _)
  | .fixed .. | .record .. => by
    simp only [pushFrom]
    split <;> exact .refused _ _ rfl (retained_refl h _)

/-- A record takes the cells of its fields, or is refused with them. -/
theorem effect_record {children : List Builder} {parts : List Call} {values : List Value}
    (h : (record s v children).Usable) (valid : Bool)
    (hparts : Effect (straysIn children parts) (AppendedIn v.length children · values)
      (RetainedIn v.length · (straysIn children parts) children) (performIn children parts)) :
    Effect (straysIn children parts)
      (Appended (record s v children) · (if valid then .record values else .null))
      (Retained · (straysIn children parts) (record s v children))
      (match performIn children parts with
        | (.ok (), children) => (.ok (), record s (v.push valid) children)
        | (.error e, children) => (.error e, record s v children)) := by
  rcases hparts with ⟨children', hstray, hresult, happended⟩ | ⟨e, children', hresult, hretained⟩
  · rw [hresult]
    exact .granted _ hstray rfl (appended_record h happended)
  · rw [hresult]
    exact .refused e _ rfl (retained_record h hretained)

end

theorem straysIn_nil (bs : List Builder) : straysIn bs [] = false := by
  cases bs <;> rfl

/-- A call that no field of a record gets does not stray. -/
theorem strays_of_parts {call : Call} (h : ∀ spec fields, call.parts spec fields = []) (b : Builder) :
    b.strays call = false := by
  cases b with
  | fixed s v cells => rfl
  | bytes s v kind slices => rfl
  | record s v children =>
    rw [strays, h]
    exact straysIn_nil children

mutual

/-- A call appends its row, or leaves all rows as they were. -/
theorem effect_perform : ∀ (b : Builder) (call : Call), b.Usable →
    Effect (b.strays call) (Appended b · (call.cell b.spec)) (Retained · (b.strays call) b)
      (b.perform call)
  | b, .null, h => by
    rw [strays_of_parts fun _ _ => rfl]
    exact effect_pushNull b h
  | b, .absent, h => by
    rw [strays_of_parts fun _ _ => rfl, Call.cell, ColumnSpec.absent_eq]
    exact .granted _ rfl rfl (appended_pushBlank b _ h)
  | fixed s v cells, .value x row, h => effect_push_fixed h x row
  | fixed s v cells, .copy source row, h => effect_pushFrom_fixed h row source
  | bytes s v kind slices, .value x row, h => effect_push_bytes h x row
  | bytes s v kind slices, .copy source row, h => effect_pushFrom_bytes h row source
  | record s v children, .value (.record values) row, h => by
    obtain ⟨-, hrec, hspecs, hchildren⟩ := id h
    show Effect _ (Appended _ · (s.converted (.record values))) _
      (push row (record s v children) (.record values))
    rw [strays, Call.parts, push, ColumnSpec.converted_of_isRecord hrec, ← hspecs]
    by_cases hwidth : values.length = children.length
    · have hcells : Call.cells (children.map spec) (values.map (.value · row)) =
          ColumnSpec.convertedAll (children.map spec) values :=
        Call.cells_value row (by rw [List.length_map, hwidth])
      have hlength : (values.map (Call.value · row)).length = children.length := by
        rw [List.length_map, hwidth]
      rw [if_pos hwidth, if_neg (not_not_intro hwidth), pushAll_eq, ← hcells]
      exact effect_record h true (effect_performIn children _ hchildren hlength)
    · rw [if_neg hwidth, if_pos hwidth, straysIn_nil]
      exact .refused _ _ rfl (retained_refl h _)
  | record s v children, .copy (.record s' w length columns) row, h => by
    show Effect _ (Appended _ · (valueAt row (.record s' w length columns))) _
      (pushFrom row (record s v children) (.record s' w length columns))
    rw [strays, Call.parts, pushFrom, valueAt]
    split
    · rw [straysIn_nil]
      exact .refused _ _ rfl (retained_refl h _)
    · by_cases hwidth : children.length = columns.length
      · have hcells : Call.cells (children.map spec) (columns.map (.copy · row)) = rowAt row columns :=
          Call.cells_copy row (by rw [List.length_map, hwidth])
        have hlength : (columns.map (Call.copy · row)).length = children.length := by
          rw [List.length_map, hwidth]
        rw [if_pos hwidth, if_neg (not_not_intro hwidth), pushFromAll_eq, ← hcells]
        exact effect_record h (w.isValid row) (effect_performIn children _ h.2.2.2 hlength)
      · rw [if_neg hwidth, if_pos hwidth, straysIn_nil]
        exact .refused _ _ rfl (retained_refl h _)
  | record s v children, .copy (.fixed ..) row, h | record s v children, .copy (.bytes ..) row, h => by
    rw [strays_of_parts fun _ _ => rfl, perform]
    simp only [pushFrom]
    split <;> exact .refused _ _ rfl (retained_refl h _)
  | record s v children, .value .null row, h => by
    rw [strays_of_parts fun _ _ => rfl, Call.cell, ColumnSpec.converted_null]
    exact effect_pushNull _ h
  | record s v children, .value (.integer _) row, h | record s v children, .value (.float _) row, h
  | record s v children, .value (.text _) row, h | record s v children, .value (.blob _) row, h => by
    rw [strays_of_parts fun _ _ => rfl]
    exact .refused _ _ rfl (retained_refl h _)

/-- The fields of a record take their cells, up to the first that refuses. -/
theorem effect_performIn {n : Nat} : ∀ (bs : List Builder) (calls : List Call), UsableIn n bs →
    calls.length = bs.length →
    Effect (straysIn bs calls) (AppendedIn n bs · (Call.cells (bs.map spec) calls))
      (RetainedIn n · (straysIn bs calls) bs) (performIn bs calls)
  | [], [], _, _ => .granted [] rfl rfl (appendedIn_nil n)
  | b :: bs, call :: calls, h, hlength => by
    obtain ⟨hb, hn, hbs⟩ := id h
    rw [straysIn, performIn]
    -- a refusal strays here only if the first builder has taken its cell
    rcases effect_perform b call hb with ⟨b', hstray, hresult, happended⟩ | ⟨e, b', hresult, hretained⟩
    · rw [hresult]
      rcases effect_performIn bs calls hbs (Nat.succ.inj hlength) with
        ⟨bs', hstrays, hresults, happendeds⟩ | ⟨e, bs', hresults, hretaineds⟩
      · rw [hresults]
        exact .granted (b' :: bs') rfl rfl (appendedIn_cons hn happended happendeds)
      · rw [hresults]
        exact .refused e (b' :: bs') rfl (retainedIn_tail h happended hretaineds)
    · rw [hresult]
      exact .refused e (b' :: bs) rfl (retainedIn_head h hretained)

end

end Column.Builder
end HashJoin
