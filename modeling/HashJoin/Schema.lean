import HashJoin.Binary

/-!
# Column specifications and schemas

A column has a name, a type and a flag that says whether it admits NULL. Its type is a scalar one
or a record of further columns; only records have fields.

## Main definitions

* `IntWidth`, `ScalarType`, `ColumnSpec`, `Schema`.
* `Schema.indexOf?` — the position of the first column of a name.
* `ColumnSpec.widen` — the same column, admitting NULL.
* `ColumnSpec.render`, `Schema.render` — their texts.
-/

namespace HashJoin

/-! ### Types -/

/-- The widths of stored integers, all of them signed. -/
inductive IntWidth
  /-- Eight bits. -/
  | bits8
  /-- Sixteen bits. -/
  | bits16
  /-- Thirty-two bits. -/
  | bits32
  /-- Sixty-four bits. -/
  | bits64
  deriving DecidableEq

namespace IntWidth

/-- Bytes that one integer takes. -/
def byteSize : IntWidth → Nat
  | bits8 => 1
  | bits16 => 2
  | bits32 => 4
  | bits64 => 8

/-- The name of the type of integers of this width. -/
def typeName : IntWidth → String
  | bits8 => "Int8"
  | bits16 => "Int16"
  | bits32 => "Int32"
  | bits64 => "Int64"

/-- The least integer past the greatest one. -/
def limit : IntWidth → Int
  | bits8 => 128
  | bits16 => 32768
  | bits32 => 2147483648
  | bits64 => 9223372036854775808

/-- Whether the width holds an integer. -/
def holds (w : IntWidth) (i : Int) : Bool := -w.limit ≤ i && i < w.limit

end IntWidth

/-- The types of columns that are not records. -/
inductive ScalarType
  /-- Integers of one width. -/
  | int (w : IntWidth)
  /-- Floating-point numbers of one format. -/
  | float (w : FloatWidth)
  /-- Sequences of bytes. -/
  | binary
  /-- Texts. -/
  | text
  deriving DecidableEq

namespace ScalarType

/-- Whether the type is one of integers. -/
def isInteger : ScalarType → Bool
  | int _ => true
  | _ => false

/-- Whether the type is one of floating-point numbers. -/
def isFloat : ScalarType → Bool
  | float _ => true
  | _ => false

/-- The name of the type. -/
def name : ScalarType → String
  | int w => w.typeName
  | float .single => "Float32"
  | float .double => "Float64"
  | binary => "Binary"
  | text => "Text"

end ScalarType

/-! ### Columns -/

/-- What a schema says of one column. -/
inductive ColumnSpec where
  /-- A column of scalars. -/
  | scalar (name : String) (type : ScalarType) (nullable : Bool)
  /-- A column of records with the given fields. -/
  | record (name : String) (fields : List ColumnSpec) (nullable : Bool)

namespace ColumnSpec

mutual

/-- Decides whether two columns are specified alike, fields included. -/
def decEq : (a b : ColumnSpec) → Decidable (a = b)
  | scalar n t b, scalar m u c =>
    if h : n = m ∧ t = u ∧ b = c then isTrue (by rw [h.1, h.2.1, h.2.2])
    else isFalse fun e => by cases e; exact h ⟨rfl, rfl, rfl⟩
  | record n fs b, record m gs c =>
    match decEqAll fs gs with
    | isTrue e =>
      if h : n = m ∧ b = c then isTrue (by rw [e, h.1, h.2])
      else isFalse fun e => by cases e; exact h ⟨rfl, rfl⟩
    | isFalse e => isFalse fun h => by cases h; exact e rfl
  | scalar .., record .. => isFalse nofun
  | record .., scalar .. => isFalse nofun

/-- Decides whether two sequences of columns are specified alike. -/
def decEqAll : (as bs : List ColumnSpec) → Decidable (as = bs)
  | [], [] => isTrue rfl
  | a :: as, b :: bs =>
    match decEq a b, decEqAll as bs with
    | isTrue h, isTrue hs => isTrue (by rw [h, hs])
    | isFalse h, _ => isFalse fun e => h (List.cons.inj e).1
    | _, isFalse hs => isFalse fun e => hs (List.cons.inj e).2
  | [], _ :: _ => isFalse nofun
  | _ :: _, [] => isFalse nofun

end

instance : DecidableEq ColumnSpec := decEq

instance : Inhabited ColumnSpec := ⟨.record "" [] false⟩

/-- The name of the column. -/
def name : ColumnSpec → String
  | scalar n .. => n
  | record n .. => n

/-- Whether the column admits NULL. -/
def nullable : ColumnSpec → Bool
  | scalar _ _ b => b
  | record _ _ b => b

/-- The fields of a record, and none for a scalar. -/
def fields : ColumnSpec → List ColumnSpec
  | scalar .. => []
  | record _ fs _ => fs

/-- The type of a scalar column. -/
def scalarType? : ColumnSpec → Option ScalarType
  | scalar _ t _ => some t
  | record .. => none

/-- Whether the column holds records. -/
def isRecord (c : ColumnSpec) : Bool := c.scalarType?.isNone

/-- The name of the column's type, its fields left out. -/
def typeName : ColumnSpec → String
  | scalar _ t _ => t.name
  | record .. => "Struct"

/-- The column with the given flag in place of its own. -/
def withNullable : ColumnSpec → Bool → ColumnSpec
  | scalar n t _, b => scalar n t b
  | record n fs _, b => record n fs b

/-- The column as it is in rows that may lack this side: a scalar column then admits NULL. A record
keeps its own flag, since it can be present with absent fields. -/
def widen (c : ColumnSpec) : ColumnSpec := if c.isRecord then c else c.withNullable true

mutual

/-- The text of a column: name, type, fields in angle brackets, and a mark if NULL is excluded. -/
def render : ColumnSpec → String
  | scalar n t b => n ++ ":" ++ t.name ++ if b then "" else " NOT NULL"
  | record n fs b =>
    n ++ ":Struct<" ++ ", ".intercalate (renderAll fs) ++ ">" ++ if b then "" else " NOT NULL"

/-- The texts of a sequence of columns. -/
def renderAll : List ColumnSpec → List String
  | [] => []
  | c :: cs => render c :: renderAll cs

end

end ColumnSpec

/-! ### Schemas -/

/-- The columns of a batch, in order. -/
structure Schema where
  /-- The columns. -/
  fields : List ColumnSpec
  deriving DecidableEq

namespace Schema

/-- Number of columns. -/
def width (s : Schema) : Nat := s.fields.length

/-- The position of the first column of a name. -/
def indexOf? (s : Schema) (name : String) : Option Nat := s.fields.findIdx? (·.name == name)

/-- The column at a position. -/
def field? (s : Schema) (position : Nat) : Option ColumnSpec := s.fields[position]?

/-- The text of a schema. -/
def render (s : Schema) : String := "[" ++ ", ".intercalate (ColumnSpec.renderAll s.fields) ++ "]"

end Schema

end HashJoin
