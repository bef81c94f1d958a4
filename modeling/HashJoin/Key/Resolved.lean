import HashJoin.Error.Join
import HashJoin.Key.Cell

/-!
# Resolved join keys

The conditions of a join name columns; once the schemas are known the names become positions. A side
whose schema is not known has no rows, so it needs no positions.

## Main definitions

* `JoinKeys`, `JoinKeys.resolve` — the key columns of both sides, from the conditions.
* `JoinKeys.hashBuild`, `JoinKeys.hashProbe` — the hashes of rows.
* `JoinKeys.canMatch` — whether a probe row has a key that can match at all.
* `JoinKeys.keysEqual` — whether a probe row and a build row match.
-/

namespace HashJoin

/-- The key columns of a join. -/
structure JoinKeys where
  /-- How each pair of cells is compared. -/
  comparators : List Comparator
  /-- The build side's key columns. -/
  build : List KeyColumn
  /-- The probe side's key columns. -/
  probe : List KeyColumn
  deriving DecidableEq

/-- The column that a condition names on a side. -/
def Condition.columnOn (c : Condition) : Side → String
  | .build => c.build
  | .probe => c.probe

/-- Whether two key cells match. -/
def KeyCell.equalUnder (comparator : Comparator) : KeyCell → KeyCell → Bool
  | null, null => comparator.nullsEqual
  | null, _ => false
  | _, null => false
  | a, b => a == b

namespace JoinKeys

/-- The key column that a condition names on one side. -/
def resolveColumn (side : Side) (schema : Schema) (c : Condition) : Except JoinError KeyColumn :=
  let name := c.columnOn side
  match schema.indexOf? name with
  | none => .error (.unsupported side (.missingKey name schema))
  | some index =>
    match schema.field? index with
    | none => .error (.unsupported side (.missingKey name schema))
    | some spec =>
      match KeyFamily.ofSpec? spec with
      | none => .error (.unsupported side (.recordKey spec))
      | some family => .ok ⟨index, family⟩

/-- The key columns of one side, none if its schema is not known. -/
def resolveSide (side : Side) (schema : Option Schema) (conditions : List Condition) :
    Except JoinError (List KeyColumn) :=
  match schema with
  | none => .ok []
  | some schema => conditions.mapM (resolveColumn side schema)

/-- The first condition whose columns belong to different families. -/
def familyFault? : List Condition → List KeyColumn → List KeyColumn → Option JoinError
  | c :: cs, b :: bs, p :: ps =>
    if b.family ≠ p.family then
      some (.unsupported .probe (.keyFamilies c.probe p.family c.build b.family))
    else familyFault? cs bs ps
  | _, _, _ => none

/-- The key columns that conditions name. The build side's faults come first, then the probe side's,
then those of the pairs. -/
def resolve (conditions : List Condition) (build probe : Option Schema) :
    Except JoinError JoinKeys := do
  let buildKeys ← resolveSide .build build conditions
  let probeKeys ← resolveSide .probe probe conditions
  match familyFault? conditions buildKeys probeKeys with
  | some fault => throw fault
  | none => return ⟨conditions.map Condition.comparator, buildKeys, probeKeys⟩

/-- The hash of a build row. -/
def hashBuild (keys : JoinKeys) (batch : Batch) (row : Nat) : UInt32 :=
  rowHash Digest.xxh3 keys.build batch row

/-- The hash of a probe row. -/
def hashProbe (keys : JoinKeys) (batch : Batch) (row : Nat) : UInt32 :=
  rowHash Digest.xxh3 keys.probe batch row

/-- Whether no key cell of a probe row is NULL, those aside whose comparator matches NULLs. -/
def canMatch (keys : JoinKeys) (batch : Batch) (row : Nat) : Bool :=
  (keys.probe.zip keys.comparators).all fun (key, comparator) =>
    comparator.nullsEqual || ((batch.column? key.index).any (·.isValid row))

/-- Whether all key cells of a probe row and a build row match. -/
def keysEqual (keys : JoinKeys) (probe : Batch) (probeRow : Nat) (build : Batch)
    (buildRow : Nat) : Bool :=
  ((keys.probe.zip keys.build).zip keys.comparators).all fun ((p, b), comparator) =>
    (p.cell probe probeRow).equalUnder comparator (b.cell build buildRow)

end JoinKeys

end HashJoin
