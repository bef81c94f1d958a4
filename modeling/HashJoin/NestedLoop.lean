import HashJoin.Config

/-!
# The nested-loop join

The rows of a join, said without a table: every probe row is compared with every build row. The
order is that of the output: probe rows in order, each with its matches in build order, and behind
them the build rows that nothing matched.

## Main definitions

* `JoinedRow` — a row of each side, or of one side alone.
* `NestedLoop.probed`, `NestedLoop.unmatched` — the rows that probe rows make, and those left over.
* `NestedLoop.rows` — all rows of a join.

## Main results

* `mem_unmatched_iff` — which build rows are left over.
-/

namespace HashJoin

/-- A row of a join: a row of each side, or of one side alone. -/
structure JoinedRow (P B : Type) where
  /-- The row of the build side. -/
  build : Option B
  /-- The row of the probe side. -/
  probe : Option P
  deriving DecidableEq

namespace NestedLoop

variable {P B : Type} (isMatch : P → B → Bool) (joinType : JoinType)

/-- The rows that one probe row makes: one for every match, and without a match one if the kind of
join keeps it. -/
def probedBy (build : List B) (p : P) : List (JoinedRow P B) :=
  match build.filter (isMatch p) with
  | [] => if joinType.keepsProbe then [⟨none, some p⟩] else []
  | found => found.map fun b => ⟨some b, some p⟩

/-- The rows that the probe rows make. -/
def probed (probe : List P) (build : List B) : List (JoinedRow P B) :=
  probe.flatMap (probedBy isMatch joinType build)

/-- The build rows that no probe row matches. -/
def unmatched (probe : List P) (build : List B) : List B :=
  build.filter fun b => !probe.any (isMatch · b)

/-- The rows of a join. -/
def rows (probe : List P) (build : List B) : List (JoinedRow P B) :=
  probed isMatch joinType probe build ++
    if joinType.keepsBuild then (unmatched isMatch probe build).map (⟨some ·, none⟩) else []

theorem mem_unmatched_iff {probe : List P} {build : List B} {b : B} :
    b ∈ unmatched isMatch probe build ↔ b ∈ build ∧ ∀ p ∈ probe, isMatch p b = false := by
  simp [unmatched]

end NestedLoop

end HashJoin
