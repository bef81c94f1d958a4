import HashJoin.Decimal.Layout
import HashJoin.Text.Hex

/-!
# Cell values

A `Value` is what one cell of a row holds, whatever the width its column stores it in.

## Main definitions

* `Value`, `Row` — cells and rows.
* `Value.beq` — equality of cells, in which floats compare as numbers, so that a NaN differs from
  itself.
* `Value.render` — the text of a cell.
-/

namespace HashJoin

/-- The contents of a cell. -/
inductive Value where
  /-- No value. -/
  | null
  /-- An integer. -/
  | integer (i : Int)
  /-- A floating-point number. -/
  | float (x : Binary64)
  /-- A text. -/
  | text (s : String)
  /-- A sequence of bytes. -/
  | blob (bytes : ByteArray)
  /-- A record, with one value for each field. -/
  | record (fields : List Value)

instance : Inhabited Value := ⟨.null⟩

/-- A row has one value for each column. -/
abbrev Row := List Value

namespace Value

/-- Whether the cell holds no value. -/
def isNull : Value → Bool
  | null => true
  | _ => false

/-- The name of the kind of value. -/
def typeName : Value → String
  | null => "NULL"
  | integer _ => "INTEGER"
  | float _ => "FLOAT"
  | text _ => "TEXT"
  | blob _ => "BLOB"
  | record _ => "STRUCT"

mutual

/-- Equality of cells. -/
def beq : Value → Value → Bool
  | null, null => true
  | integer i, integer j => i == j
  | float x, float y => x == y
  | text s, text t => s == t
  | blob a, blob b => a == b
  | record fields, record others => beqAll fields others
  | _, _ => false

/-- Equality of two sequences of cells. -/
def beqAll : List Value → List Value → Bool
  | [], [] => true
  | v :: vs, u :: us => beq v u && beqAll vs us
  | _, _ => false

end

instance : BEq Value := ⟨beq⟩

mutual

/-- The text of a cell: texts stand in quotes without escapes, blobs in hexadecimal, and records in
braces. -/
def render : Value → String
  | null => "NULL"
  | integer i => toString i
  | float x => x.render .plain
  | text s => "'" ++ s ++ "'"
  | blob bytes => "x'" ++ Text.hex bytes ++ "'"
  | record fields => "\x7b" ++ ", ".intercalate (renderAll fields) ++ "\x7d"

/-- The texts of a sequence of cells. -/
def renderAll : List Value → List String
  | [] => []
  | v :: vs => render v :: renderAll vs

end

end Value

end HashJoin
