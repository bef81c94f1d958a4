import HashJoin.Error.Join
import HashJoin.NestedLoop

/-!
# What remains of a nested loop

A nested loop that is stopped anywhere has some probe rows before it, the first of them perhaps
compared with some of the build rows already, and some build rows marked as matched. What it will
still make is determined by that alone, and each of its steps makes the first of these rows, or none.

## Main definitions

* `PendingRow` — a probe row, the first build row that it has not been compared with, and whether it
  has been matched.
* `NestedLoop.remaining` — the rows that are still to be made.
* `JoinType.reached` — the kind of join whose rows are made when the probe rows break off.

## Main results

* `remaining_of_match`, `remaining_of_mismatch`, `remaining_skip` — comparing a pending row with
  build rows.
* `remaining_of_kept`, `remaining_of_dropped` — a pending row that has been compared with all.
* `remaining_of_unmarked`, `remaining_of_marked` — the build rows that were never matched.
* `remaining_fresh` — **at the start all rows of the join remain.**
* `sides_of_mem_rows` — what a row of a join is made of.
-/

namespace HashJoin

/-- A probe row that is not done with. -/
structure PendingRow (P : Type) where
  /-- The row. -/
  row : P
  /-- The first build row that it has not been compared with. -/
  slot : Nat
  /-- Whether it has been matched. -/
  matched : Bool

namespace NestedLoop

variable {P B : Type} (isMatch : P → B → Bool) (joinType : JoinType) (build : List B)

/-- A probe row that has not been compared with anything. -/
def fresh (p : P) : PendingRow P := ⟨p, 0, false⟩

/-- The rows that a pending row will make. -/
def pendingRows (r : PendingRow P) : List (JoinedRow P B) :=
  let found := (build.drop r.slot).filter (isMatch r.row)
  found.map (⟨some ·, some r.row⟩) ++
    if found.isEmpty && !r.matched && joinType.keepsProbe then [⟨none, some r.row⟩] else []

/-- Whether a build row is marked, or will be matched by a pending row. -/
def claimed (pending : List (PendingRow P)) (marked : Nat → Bool) (s : Nat) (b : B) : Bool :=
  marked s || pending.any fun r => decide (r.slot ≤ s) && isMatch r.row b

/-- The build rows that nothing will have matched. -/
def leftOver (pending : List (PendingRow P)) (marked : Nat → Bool) : List B :=
  (build.zipIdx.filter fun x => !claimed isMatch pending marked x.2 x.1).map Prod.fst

/-- The rows that are still to be made. -/
def remaining (pending : List (PendingRow P)) (marked : Nat → Bool) : List (JoinedRow P B) :=
  pending.flatMap (pendingRows isMatch joinType build) ++
    if joinType.keepsBuild then (leftOver isMatch build pending marked).map (⟨some ·, none⟩) else []

variable {isMatch joinType build} {p : P} {s : Nat} {m : Bool} {rest : List (PendingRow P)}
  {marked marked' : Nat → Bool}

/-! ### Build rows that are left over -/

theorem leftOver_congr {pending pending' : List (PendingRow P)}
    (h : ∀ t (ht : t < build.length),
      claimed isMatch pending marked t build[t] = claimed isMatch pending' marked' t build[t]) :
    leftOver isMatch build pending marked = leftOver isMatch build pending' marked' := by
  unfold leftOver
  refine congrArg _ (List.filter_congr ?_)
  rintro ⟨b, t⟩ hmem
  obtain ⟨ht, rfl⟩ := List.getElem?_eq_some_iff.mp (List.mk_mem_zipIdx_iff_getElem?.mp hmem)
  rw [h t ht]

theorem claimed_cons (r : PendingRow P) (t : Nat) (b : B) :
    claimed isMatch (r :: rest) marked t b =
      ((decide (r.slot ≤ t) && isMatch r.row b) || claimed isMatch rest marked t b) := by
  unfold claimed
  rw [List.any_cons, Bool.or_left_comm]

/-! ### Comparing a pending row -/

/-- A pending row makes a row with a build row that it matches, and that build row is marked. -/
theorem remaining_of_match (hs : s < build.length) (hmatch : isMatch p build[s] = true) :
    remaining isMatch joinType build (⟨p, s, m⟩ :: rest) marked =
      ⟨some build[s], some p⟩ :: remaining isMatch joinType build (⟨p, s + 1, true⟩ :: rest)
        (fun t => marked t || decide (t = s)) := by
  have hrows : pendingRows isMatch joinType build ⟨p, s, m⟩ =
      ⟨some build[s], some p⟩ :: pendingRows isMatch joinType build ⟨p, s + 1, true⟩ := by
    simp only [pendingRows, List.drop_eq_getElem_cons hs, List.filter_cons_of_pos hmatch]
    simp
  have hleft : leftOver isMatch build (⟨p, s, m⟩ :: rest) marked =
      leftOver isMatch build (⟨p, s + 1, true⟩ :: rest) (fun t => marked t || decide (t = s)) := by
    apply leftOver_congr
    intro t ht
    rw [claimed_cons, claimed_cons]
    by_cases heq : t = s
    -- the build row is no longer claimed by the pending row, but marked
    · subst heq
      simp [claimed, hmatch]
    · have : s ≤ t ↔ s + 1 ≤ t := by omega
      simp [claimed, heq, this]
  rw [remaining, remaining, List.flatMap_cons, List.flatMap_cons, hrows, hleft]
  rfl

/-- A pending row makes nothing with a build row that it does not match. -/
theorem remaining_of_mismatch (hs : s < build.length) (hmatch : isMatch p build[s] = false) :
    remaining isMatch joinType build (⟨p, s, m⟩ :: rest) marked =
      remaining isMatch joinType build (⟨p, s + 1, m⟩ :: rest) marked := by
  have hrows : pendingRows isMatch joinType build ⟨p, s, m⟩ =
      pendingRows isMatch joinType build ⟨p, s + 1, m⟩ := by
    have hneg : ¬ isMatch p build[s] = true := by simp [hmatch]
    simp only [pendingRows, List.drop_eq_getElem_cons hs, List.filter_cons_of_neg hneg]
  have hleft : leftOver isMatch build (⟨p, s, m⟩ :: rest) marked =
      leftOver isMatch build (⟨p, s + 1, m⟩ :: rest) marked := by
    apply leftOver_congr
    intro t ht
    rw [claimed_cons, claimed_cons]
    by_cases heq : t = s
    · subst heq
      simp [hmatch]
    · have : s ≤ t ↔ s + 1 ≤ t := by omega
      simp [this]
  rw [remaining, remaining, List.flatMap_cons, List.flatMap_cons, hrows, hleft]

/-- A pending row makes nothing with build rows that it does not match. -/
theorem remaining_skip {later : Nat} (hle : s ≤ later) (hlater : later ≤ build.length)
    (hmatch : ∀ t (ht : t < build.length), s ≤ t → t < later → isMatch p build[t] = false) :
    remaining isMatch joinType build (⟨p, s, m⟩ :: rest) marked =
      remaining isMatch joinType build (⟨p, later, m⟩ :: rest) marked := by
  obtain ⟨d, rfl⟩ := Nat.exists_eq_add_of_le hle
  clear hle
  induction d with
  | zero => rfl
  | succ d ih =>
    rw [ih (by omega) fun t ht hst hlt => hmatch t ht hst (by omega)]
    exact remaining_of_mismatch (by omega) (hmatch (s + d) (by omega) (by omega) (by omega))

/-! ### Completing a pending row -/

theorem pendingRows_of_length_le (hs : build.length ≤ s) :
    pendingRows isMatch joinType build ⟨p, s, m⟩ =
      if !m && joinType.keepsProbe then [⟨none, some p⟩] else [] := by
  simp [pendingRows, List.drop_eq_nil_of_le hs]

theorem leftOver_of_length_le (hs : build.length ≤ s) :
    leftOver isMatch build (⟨p, s, m⟩ :: rest) marked = leftOver isMatch build rest marked := by
  apply leftOver_congr
  intro t ht
  have : ¬ s ≤ t := by omega
  simp [claimed_cons, this]

/-- A pending row without a match, compared with all build rows, is kept. -/
theorem remaining_of_kept (hs : build.length ≤ s) (hkeep : joinType.keepsProbe = true) :
    remaining isMatch joinType build (⟨p, s, false⟩ :: rest) marked =
      ⟨none, some p⟩ :: remaining isMatch joinType build rest marked := by
  rw [remaining, remaining, List.flatMap_cons, pendingRows_of_length_le hs, hkeep,
    leftOver_of_length_le hs]
  rfl

/-- A pending row with a match, or one that the kind of join does not keep, is done with once it has
been compared with all build rows. -/
theorem remaining_of_dropped (hs : build.length ≤ s) (hdrop : (!m && joinType.keepsProbe) = false) :
    remaining isMatch joinType build (⟨p, s, m⟩ :: rest) marked =
      remaining isMatch joinType build rest marked := by
  rw [remaining, remaining, List.flatMap_cons, pendingRows_of_length_le hs, hdrop,
    leftOver_of_length_le hs]
  rfl

/-! ### Build rows that were never matched -/

/-- The build rows from a slot on that are not marked. -/
def sweepRows (build : List B) (marked : Nat → Bool) (s : Nat) : List (JoinedRow P B) :=
  ((((build.drop s).zipIdx s).filter fun x => !marked x.2).map Prod.fst).map (⟨some ·, none⟩)

theorem remaining_nil (hkeep : joinType.keepsBuild = true) :
    remaining isMatch joinType build [] marked = sweepRows build marked 0 := by
  simp [remaining, hkeep, leftOver, sweepRows, claimed]

theorem sweepRows_of_marked (h : ∀ t, s ≤ t → t < build.length → marked t = true) :
    (sweepRows build marked s : List (JoinedRow P B)) = [] := by
  have hnone : ((build.drop s).zipIdx s).filter (fun x => !marked x.2) = [] := by
    rw [List.filter_eq_nil_iff]
    rintro ⟨b, t⟩ hmem
    obtain ⟨hst, ht, -⟩ := List.mem_zipIdx hmem
    rw [List.length_drop] at ht
    simp [h t hst (by omega)]
  rw [sweepRows, hnone]
  rfl

theorem sweepRows_cons (hs : s < build.length) (h : marked s = false) :
    (sweepRows build marked s : List (JoinedRow P B)) =
      ⟨some build[s], none⟩ :: sweepRows build marked (s + 1) := by
  unfold sweepRows
  rw [List.drop_eq_getElem_cons hs, List.zipIdx_cons, List.filter_cons_of_pos (by simp [h])]
  rfl

theorem sweepRows_succ (hs : s < build.length) (h : marked s = true) :
    (sweepRows build marked s : List (JoinedRow P B)) = sweepRows build marked (s + 1) := by
  unfold sweepRows
  rw [List.drop_eq_getElem_cons hs, List.zipIdx_cons, List.filter_cons_of_neg (by simp [h])]

/-- Marked build rows are passed over. -/
theorem sweepRows_skip {free : Nat} (hle : s ≤ free) (hfree : free ≤ build.length)
    (h : ∀ t, s ≤ t → t < free → marked t = true) :
    (sweepRows build marked s : List (JoinedRow P B)) = sweepRows build marked free := by
  obtain ⟨d, rfl⟩ := Nat.exists_eq_add_of_le hle
  clear hle
  induction d with
  | zero => rfl
  | succ d ih =>
    rw [ih (by omega) fun t hst hlt => h t hst (by omega)]
    exact sweepRows_succ (by omega) (h (s + d) (by omega) (by omega))

/-! ### The start -/

theorem pendingRows_fresh (p : P) :
    pendingRows isMatch joinType build (fresh p) = probedBy isMatch joinType build p := by
  unfold pendingRows probedBy fresh
  rw [List.drop_zero]
  cases hfound : build.filter (isMatch p) with
  | nil => cases joinType <;> rfl
  | cons b bs => simp

/-- At the start all rows of the join remain. -/
theorem remaining_fresh (probe : List P) :
    remaining isMatch joinType build (probe.map fresh) (fun _ => false) =
      rows isMatch joinType probe build := by
  have hleft : leftOver isMatch build (probe.map fresh) (fun _ => false) =
      unmatched isMatch probe build := by
    have hclaimed : ∀ (x : B × Nat), (!claimed isMatch (probe.map fresh) (fun _ => false) x.2 x.1) =
        !probe.any (isMatch · x.1) := by
      intro x
      simp [claimed, fresh, List.any_map, Function.comp_def]
    have hfilter := List.filter_map (p := fun b => !probe.any (isMatch · b)) (f := Prod.fst)
      (l := build.zipIdx)
    rw [List.zipIdx_map_fst] at hfilter
    rw [leftOver, unmatched, hfilter]
    simp only [hclaimed]
    rfl
  rw [remaining, hleft, List.flatMap_map, rows, probed]
  simp only [pendingRows_fresh]

/-! ### The rows of a join -/

/-- A row of a join is made of rows of the two sides, of at least one of them. -/
theorem sides_of_mem_rows {probe : List P} {r : JoinedRow P B}
    (h : r ∈ rows isMatch joinType probe build) :
    (∀ b, r.build = some b → b ∈ build) ∧ (∀ p, r.probe = some p → p ∈ probe) ∧
      (r.build.isSome = true ∨ r.probe.isSome = true) := by
  rcases List.mem_append.mp h with h | h
  · obtain ⟨p, hp, h⟩ := List.mem_flatMap.mp h
    unfold probedBy at h
    split at h
    · split at h
      · obtain rfl := List.mem_singleton.mp h
        refine ⟨nofun, ?_, .inr rfl⟩
        intro q hq
        cases hq
        exact hp
      · cases h
    · next hfound =>
      obtain ⟨b, hb, rfl⟩ := List.mem_map.mp h
      refine ⟨?_, ?_, .inl rfl⟩
      · intro c hc
        cases hc
        exact (List.mem_filter.mp hb).1
      · intro q hq
        cases hq
        exact hp
  · split at h
    · obtain ⟨b, hb, rfl⟩ := List.mem_map.mp h
      refine ⟨?_, nofun, .inl rfl⟩
      intro c hc
      cases hc
      exact ((mem_unmatched_iff isMatch).mp hb).1
    · cases h

/-- An inner join without build rows has no rows. -/
theorem rows_inner_nil (probe : List P) : rows isMatch .inner probe ([] : List B) = [] := by
  have hnone : ∀ p ∈ probe, probedBy isMatch .inner ([] : List B) p = [] := fun p _ => rfl
  simpa [rows, probed, JoinType.keepsBuild] using hnone

/-! ### Joins that break off -/

/-- Probe rows make the same rows in every kind of join that keeps them alike. -/
theorem probed_congr {kind : JoinType} (h : kind.keepsProbe = joinType.keepsProbe) (probe : List P) :
    probed isMatch kind probe build = probed isMatch joinType probe build := by
  have hrow : probedBy isMatch kind build = probedBy isMatch joinType build := by
    funext p
    rw [probedBy, probedBy, h]
  rw [probed, probed, hrow]

end NestedLoop

namespace JoinType

/-- The kind of join that keeps no build row without a match, and probe rows as before. -/
def withoutBuild : JoinType → JoinType
  | inner | right => inner
  | left | full => left

/-- The kind of join that output rows belong to whose probe rows end or break off: build rows without a
match are reached only at the end. -/
def reached (joinType : JoinType) : Option JoinError → JoinType
  | none => joinType
  | some _ => joinType.withoutBuild

@[simp] theorem keepsProbe_reached (joinType : JoinType) (ending : Option JoinError) :
    (joinType.reached ending).keepsProbe = joinType.keepsProbe := by
  cases ending <;> cases joinType <;> rfl

theorem keepsBuild_reached {joinType : JoinType} {ending : Option JoinError} (h : ending ≠ none) :
    (joinType.reached ending).keepsBuild = false := by
  cases ending with
  | none => exact absurd rfl h
  | some e => cases joinType <;> rfl

end JoinType

/-- When the probe rows break off, the rows of a join are those that the probe rows make. -/
theorem NestedLoop.rows_reached {P B : Type} {isMatch : P → B → Bool} {joinType : JoinType}
    {e : JoinError} (probe : List P) (build : List B) :
    rows isMatch (joinType.reached (some e)) probe build = probed isMatch joinType probe build := by
  have hkeep : (joinType.reached (some e)).keepsBuild = false := JoinType.keepsBuild_reached nofun
  rw [rows, hkeep, probed_congr (JoinType.keepsProbe_reached _ _)]
  exact List.append_nil _

end HashJoin
