import HashJoin.Proofs.Key.Agreement
import HashJoin.Proofs.Run.Completing
import Mathlib.Data.List.Basic

/-!
# The join, read off the cells

The nested loop that pulls show compares key cells, which is how the code reads a row. Where the keys can
be resolved, it is the nested loop over the cells as they are stored: a probe row and a build row match if
under every condition their cells hold the same integer, the same number or the same bytes, or are both
NULL where the condition matches NULLs. That nested loop knows nothing of normalised keys, hashes or tables.

## Main definitions

* `RowsAgree` — when two rows match under some conditions.
* `agreeingRows` — the rows of the join of two streams, by their stored cells.

## Main results

* `Joining.rows_eq`, `Joining.probed_eq` — the rows that probe rows make, and all rows, are those of the
  stored cells.
* `Joinable.joinedRows_eq` — and so is the join of two streams that can be joined.
* `Operator.shownRows_agreeing` — **a run that completes has shown the join by stored cells.**
-/

namespace HashJoin

/-! ### Deciding whether cells match -/

namespace StoredCell

/-- Whether no value is stored. -/
def isNull : StoredCell → Bool
  | null => true
  | integer _ | single _ | double _ | bytes .. | record _ => false

theorem isNull_iff {a : StoredCell} : a.isNull = true ↔ a = null := by
  cases a <;> simp [isNull]

instance (a b : StoredCell) : Decidable (a.SameValue b) := decidable_of_iff _ sameValue_iff.symm

instance (comparator : Comparator) (a b : StoredCell) : Decidable (a.AgreeUnder comparator b) :=
  decidable_of_iff (a.SameValue b ∨ a.isNull = true ∧ b.isNull = true ∧ comparator = .notDistinct) <| by
    rw [isNull_iff, isNull_iff]
    exact Iff.rfl

end StoredCell

instance (c : Condition) (p b : BatchRow) : Decidable (c.Agrees p b) :=
  decidable_of_iff (∃ x ∈ p.1.storedCell? c.probe p.2, ∃ y ∈ b.1.storedCell? c.build b.2,
      x.AgreeUnder c.comparator y) <| by
    constructor
    · rintro ⟨x, hx, y, hy, hagree⟩
      exact ⟨x, y, hx, hy, hagree⟩
    · rintro ⟨x, y, hx, hy, hagree⟩
      exact ⟨x, hx, y, hy, hagree⟩

/-! ### The nested loop -/

/-- A probe row and a build row match under all conditions, by the cells that they store. -/
def RowsAgree (conditions : List Condition) (p b : BatchRow) : Prop := ∀ c ∈ conditions, c.Agrees p b

instance (conditions : List Condition) (p b : BatchRow) : Decidable (RowsAgree conditions p b) :=
  inferInstanceAs (Decidable (∀ c ∈ conditions, c.Agrees p b))

/-- The rows of the join of two streams, by the cells that they store. -/
def agreeingRows (config : Config) (probe build : List Batch) : List (JoinedRow BatchRow BatchRow) :=
  NestedLoop.rows (fun p b => decide (RowsAgree config.conditions p b)) config.joinType
    (streamRows probe) (streamRows build)

namespace NestedLoop

variable {P B : Type} {isMatch isMatch' : P → B → Bool} {joinType : JoinType} {probe : List P}
  {build : List B}

/-- What rows are made by depends on how the rows at hand match. -/
theorem probed_ext (h : ∀ p ∈ probe, ∀ b ∈ build, isMatch p b = isMatch' p b) :
    probed isMatch joinType probe build = probed isMatch' joinType probe build := by
  refine List.flatMap_congr fun p hp => ?_
  rw [probedBy, probedBy, List.filter_congr (h p hp)]

theorem unmatched_ext (h : ∀ p ∈ probe, ∀ b ∈ build, isMatch p b = isMatch' p b) :
    unmatched isMatch probe build = unmatched isMatch' probe build := by
  refine List.filter_congr fun b hb => ?_
  rw [Bool.not_inj_iff, Bool.eq_iff_iff, List.any_eq_true, List.any_eq_true]
  refine exists_congr fun p => and_congr_right fun hp => ?_
  rw [h p hp b hb]

theorem rows_ext (h : ∀ p ∈ probe, ∀ b ∈ build, isMatch p b = isMatch' p b) :
    rows isMatch joinType probe build = rows isMatch' joinType probe build := by
  rw [rows, rows, probed_ext h, unmatched_ext h]

end NestedLoop

namespace Joining

variable {config : Config} {probe build : List Batch} {probeSchema buildSchema : Option Schema}
  {keys : JoinKeys} {p b : BatchRow}

/-- Rows of streams whose keys are resolved match just if the cells that they store do. -/
theorem rowsMatch_eq (h : Joining config probe build probeSchema buildSchema keys)
    (hp : p ∈ streamRows probe) (hb : b ∈ streamRows build) :
    rowsMatch config.conditions p b = decide (RowsAgree config.conditions p b) := by
  obtain ⟨hbuildKeys, hprobeKeys, -⟩ := JoinKeys.resolve_eq_ok (h.resolve_eq hb hp)
  rw [Bool.eq_iff_iff, rowsMatch, List.all_eq_true, decide_eq_true_iff, RowsAgree]
  refine forall₂_congr fun c hc => ?_
  obtain ⟨buildKey, hbuildKey⟩ := JoinKeys.exists_of_mapM_eq_ok hbuildKeys c hc
  obtain ⟨probeKey, hprobeKey⟩ := JoinKeys.exists_of_mapM_eq_ok hprobeKeys c hc
  exact JoinKeys.holds_iff_agrees (h.probeFormed p hp).typed (h.buildFormed b hb).typed hprobeKey
    hbuildKey

/-- The rows that the probe rows make are those of the stored cells. -/
theorem probed_eq (h : Joining config probe build probeSchema buildSchema keys) (kind : JoinType) :
    NestedLoop.probed (rowsMatch config.conditions) kind (streamRows probe) (streamRows build) =
      NestedLoop.probed (fun p b => decide (RowsAgree config.conditions p b)) kind (streamRows probe)
        (streamRows build) :=
  NestedLoop.probed_ext fun _ hp _ hb => h.rowsMatch_eq hp hb

/-- All rows of the join are those of the stored cells. -/
theorem rows_eq (h : Joining config probe build probeSchema buildSchema keys) :
    joinedRows config probe build = agreeingRows config probe build :=
  NestedLoop.rows_ext fun _ hp _ hb => h.rowsMatch_eq hp hb

end Joining

/-- The join of streams that can be joined is the join by the cells that they store. -/
theorem Joinable.joinedRows_eq {config : Config} {probe build : List Batch}
    {probeDeclared buildDeclared : Option Schema} {keys : JoinKeys}
    (h : Joinable config probe build probeDeclared buildDeclared keys) :
    joinedRows config probe build = agreeingRows config probe build := h.joining.rows_eq

/-! ### Runs -/

namespace Operator

open BatchSource

variable {P B : Type} [BatchSource P] [BatchSource B] {config : Config} {probe : P} {build : B}
  {stream stored : List Batch} {ending buildEnding : Option JoinError} {final : P} {buildFinal : B}
  {op : Operator P B} {n : Nat}

/-- **A run that completes has shown the join by stored cells.** Its rows, in order, are those of the
nested loop in which two rows match if their cells do. -/
theorem shownRows_agreeing (hop : create? config probe build = .ok op)
    (hprobe : Delivers .probe probe stream ending final)
    (hbuild : Loads build stored buildEnding buildFinal)
    (hcolumns : ∀ b ∈ stream ++ stored, HasColumns b) (hends : op.Completes n) :
    op.shownRows n = (agreeingRows config stream stored).map
      (outputOf config stream stored (schema? final) (schema? buildFinal)).rowOf := by
  obtain ⟨-, hrows, -, hcompleted⟩ := shownRows_of_delivers hop hprobe hbuild hcolumns hends
  rw [hrows]
  congr 1
  cases hcompleted with
  -- an inner join without build rows has no rows, however rows match
  | skipped hinner hnone =>
    rw [joinedRows, agreeingRows, hinner, hnone, NestedLoop.rows_inner_nil, NestedLoop.rows_inner_nil]
  | probed _ keys hjoin => exact hjoin.rows_eq

end Operator
end HashJoin
