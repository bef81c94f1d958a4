import HashJoin.Error.Format

/-!
# Selections

A selection lists the active rows of a batch, in the order in which they are read. An entry takes
sixteen bits.

## Main definitions

* `Selection` — the list of active rows.
* `Selection.identity` — the selection of all rows in order, if their numbers fit.
-/

namespace HashJoin

/-- The active rows of a batch. -/
structure Selection where
  /-- The row numbers, in reading order. -/
  rows : List UInt16
  deriving DecidableEq

namespace Selection

/-- Number of active rows. -/
def length (s : Selection) : Nat := s.rows.length

/-- Bytes that the entries take. -/
def byteSize (s : Selection) : Nat := 2 * s.length

/-- The selection of the first `rows` rows in order. The first number that does not fit into an
entry is reported. -/
def identity (rows : Nat) : Except FormatError Selection :=
  if rows ≤ UInt16.size then .ok ⟨(List.range rows).map UInt16.ofNat⟩
  else .error (.selectionEntry UInt16.size)

end Selection

end HashJoin
