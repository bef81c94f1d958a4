import HashJoin.Config
import HashJoin.Toml.Document

/-!
# Configurations as documents

A configuration can be written as a TOML document. The kind of join and the conditions are required;
the sizes have defaults, and keys that are not known are passed over.

## Main definitions

* `Config.ofEntries?` — the configuration in a table.
* `Config.read` — the configuration in a text, if it can be run.
-/

namespace HashJoin

namespace Config

open Toml

/-- The names of the kinds of join. -/
def joinTypeNames : List (String × JoinType) :=
  [("inner", .inner), ("INNER", .inner), ("left", .left), ("LEFT", .left),
    ("right", .right), ("RIGHT", .right), ("full", .full), ("FULL", .full)]

/-- The names of the comparators. -/
def comparatorNames : List (String × Comparator) :=
  [("equals", .equals), ("EQUALS", .equals), ("is_not_distinct_from", .notDistinct),
    ("IS_NOT_DISTINCT_FROM", .notDistinct)]

/-- The meaning of a name, which is given as a text, or as the one key of a table over a value with
nothing in it. -/
def ofName? {α : Type} (names : List (String × α)) : Toml.Value → Option α
  | .text s => names.lookup s
  | .table _ [(s, content)] => if content.isHollow then names.lookup s else none
  | _ => none

/-- The text of a value. -/
def text? : Toml.Value → Option String
  | .text s => some s
  | _ => none

/-- A number of things. -/
def count? : Toml.Value → Option Nat
  | .integer i => if 0 ≤ i then some i.toNat else none
  | _ => none

/-- A number with or without a fraction. -/
def number? : Toml.Value → Option Binary64
  | .integer i => some (.ofInt i)
  | .float x => some x
  | _ => none

/-- The value of a key that may go by several names, of which one at most may be used. The outer
layer tells whether that is so, the inner one whether there is a value. -/
def find? (entries : Entries) (names : List String) : Option (Option Toml.Value) :=
  match entries.filter (·.1 ∈ names) with
  | [] => some none
  | [(_, v)] => some (some v)
  | _ => none

/-- What is made of the value of a required key. -/
def required {α : Type} (entries : Entries) (names : List String) (f : Toml.Value → Option α) :
    Option α := do f (← (← find? entries names))

/-- What is made of the value of a key, or the default if there is none. -/
def withDefault {α : Type} (default : α) (entries : Entries) (names : List String)
    (f : Toml.Value → Option α) : Option α := do
  match ← find? entries names with
  | none => return default
  | some v => f v

/-- A condition: a table, or an array of its parts in order. -/
def condition? (v : Toml.Value) : Option Condition :=
  match v with
  | .table _ entries => do
    return ⟨← required entries ["probe", "left"] text?, ← required entries ["build", "right"] text?,
      ← withDefault .equals entries ["comparator"] (ofName? comparatorNames)⟩
  | _ => do
    match ← v.elements? with
    | [probe, build] => return ⟨← text? probe, ← text? build, .equals⟩
    | probe :: build :: comparator :: _ =>
      return ⟨← text? probe, ← text? build, ← ofName? comparatorNames comparator⟩
    | _ => none

/-- The configuration in a table. -/
def ofEntries? (entries : Entries) : Option Config := do
  let joinType ← required entries ["join_type"] (ofName? joinTypeNames)
  let conditions ← required entries ["conditions"] fun v => do (← v.elements?).mapM condition?
  let base := ofConditions joinType conditions
  return { base with
    minBuckets := ← withDefault base.minBuckets entries ["min_hash_table_size"] count?
    loadFactor := ← withDefault base.loadFactor entries ["load_factor"] number?
    batchRows := ← withDefault base.batchRows entries ["output_batch_size"] count?
    memoryLimit := ← withDefault base.memoryLimit entries ["memory_limit_bytes"] count? }

/-- Why a text is no configuration that can be run. -/
inductive ReadError
  /-- It is no document, or a document of another shape. -/
  | malformed
  /-- The configuration has a fault. -/
  | faulty (fault : ConfigFault)

/-- The configuration in a text, if it can be run. -/
def read (text : String) : Except ReadError Config :=
  match (Toml.read? text).bind ofEntries? with
  | none => .error .malformed
  | some config =>
    match config.fault? with
    | some fault => .error (.faulty fault)
    | none => .ok config

end Config

end HashJoin
