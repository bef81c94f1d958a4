import HashJoin.Column

/-!
# Column builders

A builder is a column that still grows. Appending may be refused; the builder is then still there,
and what it holds afterwards is part of each operation's result. A refused scalar changes nothing. A
refused record keeps the cells that its first fields have already taken, so those fields are then
longer than the record.

## Main definitions

* `Column.Builder`, `Column.Builder.ofSpec` — builders, and the empty one for a column.
* `Column.Builder.pushNull`, `Column.Builder.pushAbsent`, `Column.Builder.push`,
  `Column.Builder.pushFrom` — the ways to append a row.
* `Column.Builder.finish` — the column that has been built.
-/

namespace HashJoin

/-! ### Growing the stored cells -/

namespace Cells

/-- No cells of the width of integers. -/
def noInts (width : IntWidth) : Cells := ints width #[]

/-- No cells of a floating-point format. -/
def noFloats : FloatWidth → Cells
  | .single => singles #[]
  | .double => doubles #[]

/-- The cells with a zero behind them. -/
def pushZero : Cells → Cells
  | ints width values => ints width (values.push 0)
  | singles values => singles (values.push .zero)
  | doubles values => doubles (values.push .zero)

/-- Why a present value cannot become a cell, if it cannot. Integers fit into integer cells of
sufficient width; integers and floats both fit into floating-point cells. -/
def refusal? (cells : Cells) (spec : ColumnSpec) (row : Nat) (value : Value) : Option FormatError :=
  match cells, value with
  | ints width _, .integer i => if width.holds i then none else some (.integerRange row spec i)
  | singles _, .integer _ => none
  | singles _, .float _ => none
  | doubles _, .integer _ => none
  | doubles _, .float _ => none
  | _, _ => some (.valueType row spec value)

/-- The cells with a value behind them, rounded to their format; a value that they refuse counts as
zero. -/
def pushValue : Cells → Value → Cells
  | ints width values, .integer i => ints width (values.push i)
  | singles values, .integer i => singles (values.push (.ofInt i))
  | singles values, .float x => singles (values.push x.convert)
  | doubles values, .integer i => doubles (values.push (.ofInt i))
  | doubles values, .float x => doubles (values.push x)
  | cells, _ => cells.pushZero

/-- Whether two sequences of cells are stored alike. -/
def alike : Cells → Cells → Bool
  | ints width _, ints width' _ => width == width'
  | singles _, singles _ => true
  | doubles _, doubles _ => true
  | _, _ => false

/-- The cells with one cell of others, stored alike, behind them. -/
def pushCell : Cells → Cells → Nat → Cells
  | ints width values, ints _ others, row => ints width (values.push (others.getD row 0))
  | singles values, singles others, row => singles (values.push (others.getD row .zero))
  | doubles values, doubles others, row => doubles (values.push (others.getD row .zero))
  | cells, _, _ => cells.pushZero

end Cells

namespace Slices

/-- The greatest offset. -/
def maxOffset : Nat := UInt32.size - 1

/-- The slices with an empty sequence behind them. -/
def pushEmpty : Slices → Slices
  | ⟨offsets, payload⟩ =>
    let last := offsets.back?.getD 0
    ⟨offsets.push last, payload⟩

/-- Appends a sequence. If the payload outgrows the offsets, the bytes stay but no row is added. -/
def push : Slices → ByteArray → ColumnSpec → Except FormatError Unit × Slices
  | ⟨offsets, payload⟩, bytes, spec =>
    let payload := payload ++ bytes
    if payload.size ≤ maxOffset then
      let size := payload.size
      (.ok (), ⟨offsets.push size, payload⟩)
    else (.error (.payload spec), ⟨offsets, payload⟩)

end Slices

/-! ### Builders -/

/-- A column that still grows. -/
inductive Column.Builder where
  /-- Fixed-width cells. -/
  | fixed (spec : ColumnSpec) (validity : Validity) (cells : Cells)
  /-- Texts or byte sequences. -/
  | bytes (spec : ColumnSpec) (validity : Validity) (kind : BytesKind) (slices : Slices)
  /-- Records, with one builder for each field. -/
  | record (spec : ColumnSpec) (validity : Validity) (children : List Column.Builder)

namespace Column.Builder

mutual

/-- The empty builder of a column. -/
def ofSpec : ColumnSpec → Builder
  | .scalar name (.int w) nullable => fixed (.scalar name (.int w) nullable) .empty (.noInts w)
  | .scalar name (.float w) nullable => fixed (.scalar name (.float w) nullable) .empty (.noFloats w)
  | .scalar name .binary nullable => bytes (.scalar name .binary nullable) .empty .binary .empty
  | .scalar name .text nullable => bytes (.scalar name .text nullable) .empty .text .empty
  | .record name fields nullable => record (.record name fields nullable) .empty (ofSpecs fields)

/-- The empty builders of a sequence of columns. -/
def ofSpecs : List ColumnSpec → List Builder
  | [] => []
  | c :: cs => ofSpec c :: ofSpecs cs

end

/-- The column that is built. -/
def spec : Builder → ColumnSpec
  | fixed s .. => s
  | bytes s .. => s
  | record s .. => s

/-- Which rows hold a value. -/
def validity : Builder → Validity
  | fixed _ v _ => v
  | bytes _ v .. => v
  | record _ v _ => v

/-- Number of rows appended. -/
def length (b : Builder) : Nat := b.validity.length

/-! ### Rows without a value -/

mutual

/-- Appends a row of zeros, marked as given. In a record every field becomes absent. -/
def pushBlank (valid : Bool) : Builder → Builder
  | fixed s v cells => fixed s (v.push valid) cells.pushZero
  | bytes s v kind slices => bytes s (v.push valid) kind slices.pushEmpty
  | record s v children => record s (v.push valid) (pushAbsentAll children)

/-- Appends an absent row to every builder: NULL where the column admits it, and otherwise a present
zero, or a present record of absent fields. -/
def pushAbsentAll : List Builder → List Builder
  | [] => []
  | b :: bs => pushBlank (!b.spec.nullable) b :: pushAbsentAll bs

end

/-- Appends an absent row: NULL if the column admits it, and otherwise a present zero, or a present
record of absent fields. -/
def pushAbsent (b : Builder) : Builder :=
  let valid := !b.spec.nullable
  b.pushBlank valid

/-- Appends NULL, unless the column excludes it. -/
def pushNull (b : Builder) : Except FormatError Unit × Builder :=
  if b.spec.nullable then (.ok (), b.pushBlank false)
  else
    let spec := b.spec
    (.error (.nullValue spec), b)

/-! ### Rows with a value -/

mutual

/-- Appends a value, converted to the column's type; `row` is the number to report. -/
def push (row : Nat) : Builder → Value → Except FormatError Unit × Builder
  | b, .null => b.pushNull
  | fixed s v cells, value =>
    match cells.refusal? s row value with
    | some e => (.error e, fixed s v cells)
    | none => (.ok (), fixed s (v.push true) (cells.pushValue value))
  | bytes s v .binary slices, .blob data =>
    match slices.push data s with
    | (.ok (), slices) => (.ok (), bytes s (v.push true) .binary slices)
    | (.error e, slices) => (.error e, bytes s v .binary slices)
  | bytes s v .text slices, .text t =>
    match slices.push t.toUTF8 s with
    | (.ok (), slices) => (.ok (), bytes s (v.push true) .text slices)
    | (.error e, slices) => (.error e, bytes s v .text slices)
  | record s v children, .record fields =>
    if fields.length ≠ children.length then
      (.error (.recordWidth row s fields.length), record s v children)
    else
      match pushAll row children fields with
      | (.ok (), children) => (.ok (), record s (v.push true) children)
      | (.error e, children) => (.error e, record s v children)
  | bytes s v kind slices, value => (.error (.valueType row s value), bytes s v kind slices)
  | record s v children, value => (.error (.valueType row s value), record s v children)

/-- Appends one value to each builder, up to the first that refuses. -/
def pushAll (row : Nat) : List Builder → List Value → Except FormatError Unit × List Builder
  | b :: bs, value :: values =>
    match push row b value with
    | (.ok (), b) =>
      let (result, bs) := pushAll row bs values
      (result, b :: bs)
    | (.error e, b) => (.error e, b :: bs)
  | bs, _ => (.ok (), bs)

end

/-! ### Rows of another column -/

/-- Whether a row of another column is NULL where the specification excludes it. -/
def excludes (spec : ColumnSpec) (source : Column) (row : Nat) : Bool :=
  !source.isValid row && !spec.nullable

mutual

/-- Appends a row of another column that is stored alike. -/
def pushFrom (row : Nat) : Builder → Column → Except FormatError Unit × Builder
  | fixed s v cells, source =>
    if excludes s source row then
      (.error (.nullSource s source.spec row), fixed s v cells)
    else
      match source with
      | .fixed _ w buffer =>
        if cells.alike buffer.cells then
          (.ok (), fixed s (v.push (w.isValid row)) (cells.pushCell buffer.cells row))
        else (.error (.sourceType s source.spec), fixed s v cells)
      | _ => (.error (.sourceType s source.spec), fixed s v cells)
  | bytes s v kind slices, source =>
    if excludes s source row then
      (.error (.nullSource s source.spec row), bytes s v kind slices)
    else
      match source with
      | .bytes _ w kind' others =>
        if kind = kind' then
          match slices.push (others.get row) s with
          | (.ok (), slices) => (.ok (), bytes s (v.push (w.isValid row)) kind slices)
          | (.error e, slices) => (.error e, bytes s v kind slices)
        else (.error (.sourceType s source.spec), bytes s v kind slices)
      | _ => (.error (.sourceType s source.spec), bytes s v kind slices)
  | record s v children, source =>
    if excludes s source row then
      (.error (.nullSource s source.spec row), record s v children)
    else
      match source with
      | .record _ w _ columns =>
        if children.length ≠ columns.length then
          (.error (.sourceWidth s columns.length), record s v children)
        else
          match pushFromAll row children columns with
          | (.ok (), children) => (.ok (), record s (v.push (w.isValid row)) children)
          | (.error e, children) => (.error e, record s v children)
      | _ => (.error (.sourceType s source.spec), record s v children)

/-- Appends a row of one column to each builder, up to the first that refuses. -/
def pushFromAll (row : Nat) : List Builder → List Column → Except FormatError Unit × List Builder
  | b :: bs, c :: cs =>
    match pushFrom row b c with
    | (.ok (), b) =>
      let (result, bs) := pushFromAll row bs cs
      (result, b :: bs)
    | (.error e, b) => (.error e, b :: bs)
  | bs, _ => (.ok (), bs)

end

/-! ### The finished column -/

mutual

/-- The column that has been built, its fixed-width buffers with the given alignment. -/
def finish (alignment : Nat) : Builder → Except FormatError Column
  | fixed s v cells => (AlignedCells.ofCells cells alignment).map (.fixed s v)
  | bytes s v kind slices => .ok (.bytes s v kind slices)
  | record s v children => (finishAll alignment children).map (.record s v v.length)

/-- The columns that have been built. -/
def finishAll (alignment : Nat) : List Builder → Except FormatError (List Column)
  | [] => .ok []
  | b :: bs => do
    let c ← finish alignment b
    let cs ← finishAll alignment bs
    return c :: cs

end

end Column.Builder

end HashJoin
