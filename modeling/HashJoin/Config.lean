import HashJoin.Decimal.Layout
import HashJoin.RowRef
import HashJoin.Text.Quoted

/-!
# Join configurations

A configuration names the kind of join, the pairs of key columns, and the sizes that govern memory
and output. Not every one can be run; the first fault in the order of the fields is reported.

## Main definitions

* `JoinType` — which rows without a match are kept.
* `Comparator`, `Condition` — how one pair of key columns is compared.
* `Config`, `Config.ofConditions` — configurations, and the defaults of their sizes.
* `Config.fault?` — why a configuration cannot be run.
-/

namespace HashJoin

/-- Which rows without a match are kept. -/
inductive JoinType
  /-- None. -/
  | inner
  /-- Those of the probe side. -/
  | left
  /-- Those of the build side. -/
  | right
  /-- Those of both sides. -/
  | full
  deriving DecidableEq

namespace JoinType

/-- Whether probe rows without a match are kept. -/
def keepsProbe : JoinType → Bool
  | left | full => true
  | inner | right => false

/-- Whether build rows without a match are kept. -/
def keepsBuild : JoinType → Bool
  | right | full => true
  | inner | left => false

end JoinType

/-- When two key cells match. -/
inductive Comparator
  /-- When both are present and equal. -/
  | equals
  /-- When they are equal, or when both are NULL. -/
  | notDistinct
  deriving DecidableEq

/-- Whether two NULL cells match. -/
def Comparator.nullsEqual : Comparator → Bool
  | equals => false
  | notDistinct => true

/-- One pair of key columns. -/
structure Condition where
  /-- The name of the column on the probe side. -/
  probe : String
  /-- The name of the column on the build side. -/
  build : String
  /-- How their cells are compared. -/
  comparator : Comparator
  deriving DecidableEq

/-- What governs one join. -/
structure Config where
  /-- Which rows without a match are kept. -/
  joinType : JoinType
  /-- The pairs of key columns, all of which have to match. -/
  conditions : List Condition
  /-- The least number of buckets that the table starts with. -/
  minBuckets : Nat
  /-- The entries for each bucket beyond which the table grows. -/
  loadFactor : Binary64
  /-- The most rows of an output batch. -/
  batchRows : Nat
  /-- The bytes that the join may reserve. -/
  memoryLimit : Nat
  deriving DecidableEq

/-- Why a configuration cannot be run. -/
inductive ConfigFault
  /-- There is no pair of key columns. -/
  | noConditions
  /-- A key column has an empty name. -/
  | emptyName (probe build : String)
  /-- The load factor is not a number above zero and up to one. -/
  | loadFactor (x : Binary64)
  /-- The number of buckets is zero or too large. -/
  | bucketCount (n : Nat)
  /-- The number of rows of an output batch is zero or too large. -/
  | batchRows (n : Nat)
  /-- A reason that someone else has put into words. -/
  | described (text : String)

namespace Config

/-- The largest number of buckets to start with. -/
def maxMinBuckets : Nat := 1073741824

/-- The bytes that a join may reserve unless it is told otherwise. -/
def defaultMemoryLimit : Nat := 20000000000

/-- The load factor of a join that is not told otherwise, three quarters. -/
def defaultLoadFactor : Binary64 := .ofQuotient false 3 4

/-- The configuration with default sizes. -/
def ofConditions (joinType : JoinType) (conditions : List Condition) : Config where
  joinType := joinType
  conditions := conditions
  minBuckets := 65536
  loadFactor := defaultLoadFactor
  batchRows := 4000
  memoryLimit := defaultMemoryLimit

/-- Whether a load factor is a number above zero and up to one. -/
def admitsLoadFactor (x : Binary64) : Bool := Binary.zero.lt x && x.le (.ofNat 1)

/-- The first fault of a configuration. -/
def fault? (c : Config) : Option ConfigFault :=
  if c.conditions.isEmpty then some .noConditions
  else match c.conditions.find? fun k => k.probe.isEmpty || k.build.isEmpty with
    | some k => some (.emptyName k.probe k.build)
    | none =>
      if !admitsLoadFactor c.loadFactor then some (.loadFactor c.loadFactor)
      else if c.minBuckets = 0 || maxMinBuckets < c.minBuckets then some (.bucketCount c.minBuckets)
      else if c.batchRows = 0 || maxBatchRows < c.batchRows then some (.batchRows c.batchRows)
      else none

end Config

/-- The wording of a fault. -/
def ConfigFault.message : ConfigFault → String
  | noConditions => "hash join requires at least one join condition"
  | emptyName probe build =>
    "join condition has an empty column name: probe=" ++ Text.quoted probe ++
      " build=" ++ Text.quoted build
  | loadFactor x => "load_factor must be in (0, 1], got " ++ x.render .plain
  | bucketCount n => s!"min_hash_table_size must be in 1..={Config.maxMinBuckets}, got {n}"
  | batchRows n => s!"output_batch_size must be in 1..={maxBatchRows}, got {n}"
  | described text => text

end HashJoin
