import HashJoin.Schema

/-!
# Key families

Key columns are compared by family: widths of integers mix, and so do formats of floats. Records
cannot be keys.

## Main definitions

* `KeyFamily`, `KeyFamily.ofSpec?`.
-/

namespace HashJoin

/-- A class of columns whose cells can be compared with each other. -/
inductive KeyFamily
  /-- Integers of any width. -/
  | integer
  /-- Floating-point numbers of any format. -/
  | float
  /-- Texts. -/
  | text
  /-- Sequences of bytes. -/
  | binary
  deriving DecidableEq

namespace KeyFamily

/-- The family of a scalar type. -/
def ofType : ScalarType → KeyFamily
  | .int _ => integer
  | .float _ => float
  | .text => text
  | .binary => binary

/-- The family of a column, unless it holds records. -/
def ofSpec? (c : ColumnSpec) : Option KeyFamily := c.scalarType?.map ofType

/-- The name of the family. -/
def name : KeyFamily → String
  | integer => "Integer"
  | float => "Float"
  | text => "Text"
  | binary => "Binary"

end KeyFamily

end HashJoin
