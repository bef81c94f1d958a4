import HashJoin.Binary

/-!
# TOML values

A TOML document is a table, whose keys name values. A table can be written down in pieces, by
headers and by dotted keys, and how a table came about governs which pieces may still be added.

## Main definitions

* `Value`, `Origin`, `Entries` — values, how a table came about, and what is in it.
* `Assignment`, `Entries.assign` — a key with a value, and its addition to a table.
* `Entries.descend` — a change further down, along a path of keys.
* `Entries.openTable`, `Entries.openElement` — the additions of a table under its header.
-/

namespace HashJoin.Toml

/-- How a table came about. -/
inductive Origin
  /-- It is written in braces, and complete. -/
  | inBraces
  /-- It has a header. -/
  | header
  /-- It is named only as a part of the headers of tables inside it. -/
  | parent
  /-- It is named only in dotted keys. -/
  | dotted
  deriving DecidableEq

/-- A value of a document. -/
inductive Value where
  /-- A text. -/
  | text (s : String)
  /-- An integer. -/
  | integer (i : Int)
  /-- A floating-point number. -/
  | float (x : Binary64)
  /-- A truth value. -/
  | boolean (b : Bool)
  /-- A date, a time, or both; nothing here asks which one. -/
  | moment
  /-- An array, written in brackets. -/
  | array (elements : List Value)
  /-- A table. -/
  | table (origin : Origin) (entries : List (String × Value))
  /-- An array of tables with headers. -/
  | tables (elements : List (List (String × Value)))

/-- What is in a table: keys and their values. -/
abbrev Entries := List (String × Value)

namespace Value

/-- The elements of an array of either kind. -/
def elements? : Value → Option (List Value)
  | array elements => some elements
  | tables elements => some (elements.map (table .header))
  | _ => none

/-- Whether the value is an array or a table with nothing in it. -/
def isHollow : Value → Bool
  | array elements => elements.isEmpty
  | table _ entries => entries.isEmpty
  | tables elements => elements.isEmpty
  | _ => false

end Value

/-- A key with its value; dotted keys have a path in front of the last one. -/
structure Assignment where
  /-- The keys in front of the last one. -/
  path : List String
  /-- The last key. -/
  key : String
  /-- The value. -/
  value : Value

namespace Entries

/-- The entries with a value in place of whatever a key had. -/
def put (entries : Entries) (key : String) (value : Value) : Entries :=
  entries.filter (·.1 != key) ++ [(key, value)]

/-- Changes the table at the end of a path. Tables that are missing on the way come about with the
given origin; of an array of tables the last one is meant. Only tables without a header of their own
can be changed through dotted keys. -/
def descend (missing : Origin) (change : Origin → Entries → Option Entries) :
    List String → Origin → Entries → Option Entries
  | [], origin, entries => change origin entries
  | key :: path, _, entries =>
    match entries.lookup key with
    | none => do return entries.put key (.table missing (← descend missing change path missing []))
    | some (.table origin inner) =>
      if origin = .inBraces || missing = .dotted && origin = .header then none
      else do return entries.put key (.table origin (← descend missing change path origin inner))
    | some (.tables elements) => do
      let inner ← descend missing change path .header (← elements.getLast?)
      return entries.put key (.tables (elements.dropLast ++ [inner]))
    | some _ => none

/-- Adds an assignment to a table. The key must be new; a dotted key has to end in a table that came
about through dotted keys. -/
def assign (entries : Entries) (a : Assignment) : Option Entries :=
  entries |> descend .dotted (fun origin inner =>
    if (origin == .dotted) == a.path.isEmpty || (inner.lookup a.key).isSome then none
    else some (inner.put a.key a.value)) a.path .header

/-- Adds assignments to a table, one after the other. -/
def assignAll (start : Entries) (assignments : List Assignment) : Option Entries :=
  assignments.foldlM assign start

/-- Adds a table under a header of its own. There may be no such table, unless it has so far been
named only as a part of other headers. -/
def openTable (entries : Entries) (path : List String) (key : String)
    (assignments : List Assignment) : Option Entries :=
  entries |> descend .parent (fun _ outer => do
    let start ← match outer.lookup key with
      | none => some []
      | some (.table .parent inner) => some inner
      | some _ => none
    return outer.put key (.table .header (← assignAll start assignments))) path .header

/-- Adds a table to an array of tables. -/
def openElement (entries : Entries) (path : List String) (key : String)
    (assignments : List Assignment) : Option Entries :=
  entries |> descend .parent (fun _ outer => do
    let elements ← match outer.lookup key with
      | none => some []
      | some (.tables elements) => some elements
      | some _ => none
    return outer.put key (.tables (elements ++ [← assignAll [] assignments]))) path .header

end Entries

end HashJoin.Toml
