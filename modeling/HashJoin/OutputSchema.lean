import HashJoin.Config
import HashJoin.Schema

/-!
# Output schemas

A joined row has the build columns first and the probe columns behind them. A side that some rows
lack has its scalar columns widened to take NULL.

## Main definitions

* `OutputSchema`, `OutputSchema.ofSides`.
-/

namespace HashJoin

/-- The columns of joined rows. -/
structure OutputSchema where
  /-- All columns. -/
  schema : Schema
  /-- How many of the first ones are build columns. -/
  buildWidth : Nat
  deriving DecidableEq

namespace OutputSchema

/-- The columns of one side, widened if rows may lack the side. A side whose schema never became
known has none. -/
def sideFields (side : Option Schema) (mayLack : Bool) : List ColumnSpec :=
  match side with
  | some schema => if mayLack then schema.fields.map ColumnSpec.widen else schema.fields
  | none => []

/-- The columns of the rows that a kind of join makes. -/
def ofSides (build probe : Option Schema) (joinType : JoinType) : OutputSchema :=
  let buildFields := sideFields build joinType.keepsProbe
  ⟨⟨buildFields ++ sideFields probe joinType.keepsBuild⟩, buildFields.length⟩

/-- How many columns behind the build columns are probe columns. -/
def probeWidth (o : OutputSchema) : Nat := o.schema.width - o.buildWidth

end OutputSchema

end HashJoin
