import HashJoin.Checked
import HashJoin.Key.Resolved
import HashJoin.RowWriter

/-!
# Checked rows

Reading a row takes indexes of its key columns, of the row in each of them, of the byte with its bit,
and of the offsets and the payload of a text; writing it takes the index of the byte for its bit. Here
is every operation on rows with all of them checked.

## Main definitions

* `Checked.isValid`, `Checked.pushBit` — a bit of a bitmap.
* `Checked.keyAt`, `Checked.hashRow`, `Checked.canMatch`, `Checked.keysEqual` — the key cells of rows.
* `Checked.pushFrom`, `Checked.pushBlank` — a row of a column, and one without a value.
* `Checked.openWriter`, `Checked.append` — a writer, and one more row of it.
* `Checked.resolve` — the key columns.
-/

namespace HashJoin
namespace Checked

open Column (Builder)

/-! ### Cells -/

/-- Whether a row has a value. -/
def isValid (v : Validity) (row : Nat) : Checked Bool :=
  if row < v.length then do
    let byte ← readAt .bits v.bytes (row / 8)
    return byte.toNat.testBit (row % 8)
  else return false

/-- The bitmap with one more row. It has to have a byte for it. -/
def pushBit (v : Validity) (valid : Bool) : Checked Validity := do
  let place := v.length / 8
  let grown := if place = v.bytes.size then v.bytes.push 0 else v.bytes
  let bytes ← if valid then modifyAt .bits grown place (· ||| Validity.bitOf v.length) else pure grown
  if covers : (v.length + 1 + 7) / 8 ≤ bytes.size then return ⟨bytes, v.length + 1, covers⟩
  else throw (.index .bits place bytes.size)

/-- The byte sequence of a row. -/
def sliceAt (s : Slices) (row : Nat) : Checked ByteArray := do
  let start ← readAt .offset s.offsets row
  let stop ← readAt .offset s.offsets (row + 1)
  cut s.payload start stop

/-- The key cell of a present fixed-width cell. -/
def cellKey (cells : Cells) (row : Nat) : Checked KeyCell :=
  match cells with
  | .ints _ values => return .integer (← readAt .row values row)
  | .singles values => return .float (← readAt .row values row).convert.canonical
  | .doubles values => return .float (← readAt .row values row).canonical

/-- The key cell of a row. -/
def keyAt (c : Column) (row : Nat) : Checked KeyCell := do
  if ← isValid c.validity row then
    match c with
    | .fixed _ _ buffer => cellKey buffer.cells row
    | .bytes _ _ _ slices => return .bytes (← sliceAt slices row)
    | .record .. => return .null
  else return .null

/-- The cells with one cell of others behind them. -/
def pushCell (cells others : Cells) (row : Nat) : Checked Cells :=
  match cells, others with
  | .ints width values, .ints _ others => return .ints width (values.push (← readAt .row others row))
  | .singles values, .singles others => return .singles (values.push (← readAt .row others row))
  | .doubles values, .doubles others => return .doubles (values.push (← readAt .row others row))
  | cells, _ => return cells.pushZero

/-! ### Keys -/

/-- The key cell of a row in a key column. -/
def cellOf (key : KeyColumn) (batch : Batch) (row : Nat) : Checked KeyCell := do
  keyAt (← nth .column batch.columns key.index) row

/-- The hash of a row by its key columns. -/
def hashRow (keys : List KeyColumn) (batch : Batch) (row : Nat) : Checked UInt32 := do
  let seed ← keys.foldlM (fun seed key => return (← cellOf key batch row).absorb Digest.xxh3 seed) hashSeed
  return foldWord seed

/-- Whether no key cell of a probe row is NULL, those aside whose comparator matches NULLs. The search
ends at the first one. -/
def canMatch (keys : JoinKeys) (batch : Batch) (row : Nat) : Checked Bool :=
  (keys.probe.zip keys.comparators).allM fun (key, comparator) =>
    if comparator.nullsEqual then return true
    else do
      let column ← nth .column batch.columns key.index
      isValid column.validity row

/-- Whether all key cells of a probe row and a build row match. The comparison ends at the first that do
not. -/
def keysEqual (keys : JoinKeys) (probe : Batch) (probeRow : Nat) (build : Batch) (buildRow : Nat) :
    Checked Bool :=
  ((keys.probe.zip keys.build).zip keys.comparators).allM fun ((p, b), comparator) => do
    let left ← cellOf p probe probeRow
    let right ← cellOf b build buildRow
    return left.equalUnder comparator right

/-- The key column that a condition names on one side. -/
def resolveColumn (side : Side) (schema : Schema) (c : Condition) :
    Checked (Except JoinError KeyColumn) :=
  let name := c.columnOn side
  match schema.indexOf? name with
  | none => return .error (.unsupported side (.missingKey name schema))
  | some index => do
    let spec ← nth .column schema.fields index
    match KeyFamily.ofSpec? spec with
    | none => return .error (.unsupported side (.recordKey spec))
    | some family => return .ok ⟨index, family⟩

/-- The key columns that conditions name on one side, up to the first fault. -/
def resolveColumns (side : Side) (schema : Schema) :
    List Condition → Checked (Except JoinError (List KeyColumn))
  | [] => return .ok []
  | c :: cs => do
    match ← resolveColumn side schema c with
    | .error e => return .error e
    | .ok key =>
      match ← resolveColumns side schema cs with
      | .error e => return .error e
      | .ok keys => return .ok (key :: keys)

/-- The key columns of one side, none if its schema is not known. -/
def resolveSide (side : Side) (schema : Option Schema) (conditions : List Condition) :
    Checked (Except JoinError (List KeyColumn)) :=
  match schema with
  | none => return .ok []
  | some schema => resolveColumns side schema conditions

/-- The key columns that conditions name. -/
def resolve (conditions : List Condition) (build probe : Option Schema) :
    Checked (Except JoinError JoinKeys) := do
  match ← resolveSide .build build conditions with
  | .error e => return .error e
  | .ok buildKeys =>
    match ← resolveSide .probe probe conditions with
    | .error e => return .error e
    | .ok probeKeys =>
      match JoinKeys.familyFault? conditions buildKeys probeKeys with
      | some fault => return .error fault
      | none => return .ok ⟨conditions.map Condition.comparator, buildKeys, probeKeys⟩

/-! ### Writing -/

mutual

/-- Appends a row of zeros, marked as given. In a record every field becomes absent. -/
def pushBlank (valid : Bool) : Builder → Checked Builder
  | .fixed s v cells => return .fixed s (← pushBit v valid) cells.pushZero
  | .bytes s v kind slices => return .bytes s (← pushBit v valid) kind slices.pushEmpty
  | .record s v children => do
    let children ← pushAbsentAll children
    return .record s (← pushBit v valid) children

/-- Appends an absent row to every builder. -/
def pushAbsentAll : List Builder → Checked (List Builder)
  | [] => return []
  | b :: bs => do
    let b ← pushBlank (!b.spec.nullable) b
    return b :: (← pushAbsentAll bs)

end

mutual

/-- Appends a row of another column that is stored alike. -/
def pushFrom (row : Nat) : Builder → Column → Checked (Except FormatError Unit × Builder)
  | .fixed s v cells, source => do
    let valid ← isValid source.validity row
    if !valid && !s.nullable then
      return (.error (.nullSource s source.spec row), .fixed s v cells)
    else
      match source with
      | .fixed _ _ buffer =>
        if cells.alike buffer.cells then
          let cells ← pushCell cells buffer.cells row
          return (.ok (), .fixed s (← pushBit v valid) cells)
        else return (.error (.sourceType s source.spec), .fixed s v cells)
      | _ => return (.error (.sourceType s source.spec), .fixed s v cells)
  | .bytes s v kind slices, source => do
    let valid ← isValid source.validity row
    if !valid && !s.nullable then
      return (.error (.nullSource s source.spec row), .bytes s v kind slices)
    else
      match source with
      | .bytes _ _ kind' others =>
        if kind = kind' then
          match slices.push (← sliceAt others row) s with
          | (.ok (), slices) => return (.ok (), .bytes s (← pushBit v valid) kind slices)
          | (.error e, slices) => return (.error e, .bytes s v kind slices)
        else return (.error (.sourceType s source.spec), .bytes s v kind slices)
      | _ => return (.error (.sourceType s source.spec), .bytes s v kind slices)
  | .record s v children, source => do
    let valid ← isValid source.validity row
    if !valid && !s.nullable then
      return (.error (.nullSource s source.spec row), .record s v children)
    else
      match source with
      | .record _ _ _ columns =>
        if children.length ≠ columns.length then
          return (.error (.sourceWidth s columns.length), .record s v children)
        else
          match ← pushFromAll row children columns with
          | (.ok (), children) => return (.ok (), .record s (← pushBit v valid) children)
          | (.error e, children) => return (.error e, .record s v children)
      | _ => return (.error (.sourceType s source.spec), .record s v children)

/-- Appends a row of one column to each builder, up to the first that refuses. -/
def pushFromAll (row : Nat) :
    List Builder → List Column → Checked (Except FormatError Unit × List Builder)
  | b :: bs, c :: cs => do
    match ← pushFrom row b c with
    | (.ok (), b) =>
      let (result, bs) ← pushFromAll row bs cs
      return (result, b :: bs)
    | (.error e, b) => return (.error e, b :: bs)
  | bs, _ => return (.ok (), bs)

end

/-- The writer without rows; the build columns come first. -/
def openWriter (output : OutputSchema) : Checked RowWriter := do
  let (build, probe) ← part .column output.schema.fields output.buildWidth
  return ⟨Builder.ofSpecs build, Builder.ofSpecs probe, 0⟩

/-- Writes one side of a row. -/
def writeSide (builders : List Builder) (source : Option BatchRow) :
    Checked (Except FormatError Unit × List Builder) :=
  match source with
  | some (batch, row) => pushFromAll row builders batch.columns
  | none => return (.ok (), ← pushAbsentAll builders)

/-- Writes a row; the build side comes first. -/
def append (w : RowWriter) (build probe : Option BatchRow) :
    Checked (Except FormatError Unit × RowWriter) := do
  match ← writeSide w.build build with
  | (.error e, builders) => return (.error e, { w with build := builders })
  | (.ok (), builders) =>
    let w := { w with build := builders }
    match ← writeSide w.probe probe with
    | (.error e, builders) => return (.error e, { w with probe := builders })
    | (.ok (), builders) => return (.ok (), { w with probe := builders, rows := w.rows + 1 })

end Checked
end HashJoin
