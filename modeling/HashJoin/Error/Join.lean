import HashJoin.Budget
import HashJoin.Config
import HashJoin.Error.Format
import HashJoin.Key.Family

/-!
# Join errors

Everything that can end a join. All of these errors are final: a join that meets one is over.

## Main definitions

* `Side` — the two inputs of a join.
* `InputFault`, `MemoryUse`, `InternalFault` — what was wrong, asked for, or contradictory.
* `JoinError`, `JoinError.message` — the errors and their wording.
* `JoinError.ofRefusal` — the error that a refused reservation becomes.
* `JoinError.report` — what an error shows of itself; errors with one report are the same.
-/

namespace HashJoin

/-- An input of a join. -/
inductive Side
  /-- The input whose rows are stored and looked up. -/
  | build
  /-- The input whose rows are streamed. -/
  | probe
  deriving DecidableEq

/-- The name of a side. -/
def Side.name : Side → String
  | build => "build"
  | probe => "probe"

/-- What is wrong with an input. -/
inductive InputFault
  /-- A batch has a selection. -/
  | selection
  /-- A build batch has more rows than can be addressed. -/
  | batchRows (rows : Nat)
  /-- There are more build batches than can be addressed. -/
  | batchCount
  /-- A key column is missing. -/
  | missingKey (column : String) (schema : Schema)
  /-- A key column holds records. -/
  | recordKey (column : ColumnSpec)
  /-- Two key columns belong to different families. -/
  | keyFamilies (probe : String) (probeFamily : KeyFamily) (build : String)
      (buildFamily : KeyFamily)
  /-- The table cannot number another row. -/
  | tableFull (entries : Nat)
  /-- A row cannot be addressed. -/
  | rowAddress (row : Nat)
  /-- A fault that someone else has put into words. -/
  | described (text : String)

/-- The wording of a fault of an input. -/
def InputFault.message : InputFault → String
  | selection => "batches with a selection vector are not supported"
  | batchRows rows => s!"build batch has {rows} rows, limit is {maxBatchRows}"
  | batchCount => "too many build batches for row addressing"
  | missingKey column schema => s!"join key column {column} not found in schema {schema.render}"
  | recordKey column => s!"join key column {column.render} has a type that cannot be compared"
  | keyFamilies probe probeFamily build buildFamily =>
    s!"join key {probe} ({probeFamily.name}) is not comparable with build key {build} " ++
      s!"({buildFamily.name})"
  | tableFull entries => s!"build side exceeds hash table capacity at {entries} entries"
  | rowAddress row => s!"row {row} is not addressable"
  | described text => text

/-- What memory was wanted for. -/
inductive MemoryUse
  /-- The first buckets of the table. -/
  | table
  /-- More room in the table. -/
  | entry
  /-- More room for row references. -/
  | link
  /-- A build batch. -/
  | batch
  /-- A use that someone else has put into words. -/
  | described (text : String)

/-- The name of a use of memory. -/
def MemoryUse.name : MemoryUse → String
  | table => "hash table allocation"
  | entry => "hash table put"
  | link => "match helper link"
  | batch => "build batch absorb"
  | described text => text

/-- A contradiction between the parts of a join. -/
inductive InternalFault
  /-- A new build schema after rows were stored under another one. -/
  | schemaFixed
  /-- A slot out of order. -/
  | slotOrder (expected slot : Nat)
  /-- A slot without a row. -/
  | unlinkedSlot (slot : Nat)
  /-- A reference to a row that is not stored. -/
  | danglingRow (ref : RowRef)
  /-- A batch that was announced and is not there. -/
  | missingBatch (side : Side)
  /-- A chain to walk without a table. -/
  | missingTable
  /-- A build batch without keys to insert its rows by. -/
  | unresolvedKeys
  /-- A build batch without a table to insert its rows into. -/
  | missingBuildTable
  /-- A probe row without a batch. -/
  | missingProbeBatch
  /-- Output to make without anything that makes it. -/
  | missingEngine
  /-- A pull while the build side is being filled. -/
  | pulledWhileBuilding
  /-- A contradiction that someone else has put into words. -/
  | described (text : String)

/-- The wording of a contradiction. -/
def InternalFault.message : InternalFault → String
  | schemaFixed => "build schema cannot change after batches were absorbed"
  | slotOrder expected slot => s!"match helper expected slot {expected}, got {slot}"
  | unlinkedSlot slot => s!"unlinked build slot {slot}"
  | danglingRow ref => s!"dangling build row reference {ref.render}"
  | missingBatch side => s!"{side.name} source reported a batch but had none"
  | missingTable => "probe chain without a hash table"
  | unresolvedKeys => "join keys unresolved after table creation"
  | missingBuildTable => "build batch without a hash table"
  | missingProbeBatch => "probe row requested without a probe batch"
  | missingEngine => "probing without a probe engine"
  | pulledWhileBuilding => "pulled while the build phase was running"
  | described text => text

/-- What ended a join. -/
inductive JoinError
  /-- A batch whose schema is not that of the batches before it. -/
  | schemaChanged (side : Side) (expected actual : Schema)
  /-- An input that a join cannot take. -/
  | unsupported (side : Side) (fault : InputFault)
  /-- A refused reservation. -/
  | outOfMemory (use : MemoryUse) (requested available : Nat)
  /-- The join was killed. -/
  | cancelled
  /-- A source failed. -/
  | sourceFailed (side : Side) (detail : String)
  /-- A configuration that cannot be run. -/
  | invalidConfig (fault : ConfigFault)
  /-- A batch that cannot be built. -/
  | format (error : FormatError)
  /-- A contradiction between the parts of a join. -/
  | internal (fault : InternalFault)

namespace JoinError

/-- The wording of an error. -/
def message : JoinError → String
  | schemaChanged side expected actual =>
    s!"{side.name} side schema changed: expected {expected.render}, got {actual.render}"
  | unsupported side fault => s!"unsupported {side.name} input: {fault.message}"
  | outOfMemory use requested available =>
    s!"out of memory during {use.name}: requested {requested} bytes, {available} available"
  | cancelled => "operation cancelled"
  | sourceFailed side detail => s!"{side.name} source failed: {detail}"
  | invalidConfig fault => s!"invalid configuration: {fault.message}"
  | format error => s!"batch format error: {error.message}"
  | internal fault => s!"internal error: {fault.message}"

/-- The error that a refused reservation becomes for whoever asked for the memory. -/
def ofRefusal (use : MemoryUse) (refusal : Refusal) : JoinError :=
  outOfMemory use refusal.requested refusal.available

/-- The input that an error speaks of. -/
def side? : JoinError → Option Side
  | schemaChanged side .. | unsupported side _ | sourceFailed side _ => some side
  | outOfMemory .. | cancelled | invalidConfig _ | format _ | internal _ => none

/-- Whether the join is over after an error; it is after every one. -/
def isFatal (_ : JoinError) : Bool := true

/-- What an error shows of itself. -/
structure Report where
  /-- The place of its kind in the list of kinds. -/
  kind : Nat
  /-- The input that it speaks of. -/
  side : Option Side
  /-- Its texts. -/
  texts : List String
  /-- Its amounts. -/
  amounts : List Nat
  deriving DecidableEq

/-- What an error shows of itself. -/
def report : JoinError → Report
  | schemaChanged side expected actual => ⟨0, some side, [expected.render, actual.render], []⟩
  | unsupported side fault => ⟨1, some side, [fault.message], []⟩
  | outOfMemory use requested available => ⟨2, none, [use.name], [requested, available]⟩
  | cancelled => ⟨3, none, [], []⟩
  | sourceFailed side detail => ⟨4, some side, [detail], []⟩
  | invalidConfig fault => ⟨5, none, [fault.message], []⟩
  | format error => ⟨6, none, [error.message], []⟩
  | internal fault => ⟨7, none, [fault.message], []⟩

/-- Whether two errors show the same of themselves. -/
def same (a b : JoinError) : Bool := a.report == b.report

end JoinError

end HashJoin
