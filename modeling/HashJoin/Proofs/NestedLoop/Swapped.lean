import HashJoin.NestedLoop
import Mathlib.Data.List.Perm.Basic

/-!
# The nested loop with its sides swapped

The rows of a nested loop are the pairs that match, the probe rows without a match if they are kept, and
the build rows without a match if they are kept. Each of these is the same whichever side is walked
first, so a nested loop over swapped sides makes the same rows, in another order.

## Main definitions

* `JoinType.swapped`, `JoinedRow.swapped` — a kind of join, and a row of it, with its sides swapped.
* `NestedLoop.pairs` — the pairs that match.

## Main results

* `rows_perm` — what the rows of a nested loop consist of.
* `rows_swapped` — **a nested loop over swapped sides makes the swapped rows.**
-/

namespace HashJoin

/-- The kind of join that keeps the same rows when its sides are swapped. -/
def JoinType.swapped : JoinType → JoinType
  | inner => inner
  | left => right
  | right => left
  | full => full

@[simp] theorem JoinType.keepsProbe_swapped (kind : JoinType) :
    kind.swapped.keepsProbe = kind.keepsBuild := by
  cases kind <;> rfl

@[simp] theorem JoinType.keepsBuild_swapped (kind : JoinType) :
    kind.swapped.keepsBuild = kind.keepsProbe := by
  cases kind <;> rfl

theorem JoinType.eq_inner_of_swapped {kind : JoinType} (h : kind.swapped = .inner) : kind = .inner := by
  cases kind with
  | inner => rfl
  | left | right | full => cases h

/-- The row with its sides swapped. -/
def JoinedRow.swapped {P B : Type} (r : JoinedRow P B) : JoinedRow B P := ⟨r.probe, r.build⟩

theorem flatMap_ite_singleton {α β : Type} (xs : List α) (p : α → Bool) (f : α → β) :
    (xs.flatMap fun x => if p x then [f x] else []) = (xs.filter p).map f := by
  induction xs with
  | nil => rfl
  | cons x xs ih =>
    rw [List.flatMap_cons, ih]
    cases hx : p x with
    | true => rw [List.filter_cons_of_pos hx]; rfl
    | false => rw [List.filter_cons_of_neg (by simp [hx])]; rfl

namespace NestedLoop

variable {P B : Type} (isMatch : P → B → Bool) (kind : JoinType)

/-- The pairs that match. -/
def pairs (probe : List P) (build : List B) : List (JoinedRow P B) :=
  probe.flatMap fun p => (build.filter (isMatch p)).map fun b => ⟨some b, some p⟩

/-- The probe rows that no build row matches, if they are kept. -/
def lonelyProbe (probe : List P) (build : List B) : List (JoinedRow P B) :=
  if kind.keepsProbe then (unmatched (fun b p => isMatch p b) build probe).map (⟨none, some ·⟩) else []

/-- The build rows that no probe row matches, if they are kept. -/
def lonelyBuild (probe : List P) (build : List B) : List (JoinedRow P B) :=
  if kind.keepsBuild then (unmatched isMatch probe build).map (⟨some ·, none⟩) else []

theorem probedBy_eq (build : List B) (p : P) : probedBy isMatch kind build p =
    ((build.filter (isMatch p)).map fun b => ⟨some b, some p⟩) ++
      if kind.keepsProbe && !build.any (isMatch p) then [⟨none, some p⟩] else [] := by
  have hnone : (build.filter (isMatch p)).isEmpty = !build.any (isMatch p) := by
    rw [Bool.eq_iff_iff]
    simp
  unfold probedBy
  cases hfound : build.filter (isMatch p) with
  | nil =>
    rw [hfound] at hnone
    rw [← hnone]
    simp
  | cons b found =>
    rw [hfound] at hnone
    rw [← hnone]
    simp

/-- Probe rows make pairs, and what is left of them. -/
theorem probed_perm (probe : List P) (build : List B) : (probed isMatch kind probe build).Perm
    (pairs isMatch probe build ++ lonelyProbe isMatch kind probe build) := by
  have hlonely : lonelyProbe isMatch kind probe build = probe.flatMap fun p =>
      if kind.keepsProbe && !build.any (isMatch p) then [⟨none, some p⟩] else [] := by
    rw [flatMap_ite_singleton, lonelyProbe]
    cases kind.keepsProbe with
    | true => rfl
    | false => simp
  have hall : probed isMatch kind probe build = probe.flatMap fun p =>
      ((build.filter (isMatch p)).map fun b => ⟨some b, some p⟩) ++
        if kind.keepsProbe && !build.any (isMatch p) then [⟨none, some p⟩] else [] :=
    congrArg (probe.flatMap ·) (funext (probedBy_eq isMatch kind build))
  rw [hall, hlonely]
  exact (List.flatMap_append_perm probe _ _).symm

/-- What the rows of a nested loop consist of. -/
theorem rows_perm (probe : List P) (build : List B) : (rows isMatch kind probe build).Perm
    (pairs isMatch probe build ++
      (lonelyProbe isMatch kind probe build ++ lonelyBuild isMatch kind probe build)) := by
  rw [← List.append_assoc]
  exact (probed_perm isMatch kind probe build).append_right _

theorem pairs_swapped (probe : List P) (build : List B) :
    ((pairs isMatch probe build).map JoinedRow.swapped).Perm
      (pairs (fun b p => isMatch p b) build probe) := by
  induction probe with
  | nil => simp [pairs]
  | cons p probe ih =>
    have hfirst : ((build.filter (isMatch p)).map fun b => (⟨some b, some p⟩ : JoinedRow P B)).map
        JoinedRow.swapped = build.flatMap fun b => if isMatch p b then [⟨some p, some b⟩] else [] := by
      rw [flatMap_ite_singleton, List.map_map]
      rfl
    have hall : pairs (fun b p => isMatch p b) build (p :: probe) = build.flatMap fun b =>
        (if isMatch p b then [⟨some p, some b⟩] else []) ++
          (probe.filter fun p => isMatch p b).map fun p => ⟨some p, some b⟩ := by
      refine congrArg (build.flatMap ·) (funext fun b => ?_)
      cases hmatch : isMatch p b with
      | true => simp only [List.filter_cons, hmatch, if_true, List.map_cons, List.singleton_append]
      | false => simp only [List.filter_cons, hmatch, Bool.false_eq_true, if_false, List.nil_append]
    rw [pairs, List.flatMap_cons, List.map_append, hfirst, hall]
    exact (ih.append_left _).trans (List.flatMap_append_perm build _ _)

/-- **A nested loop over swapped sides makes the swapped rows.** -/
theorem rows_swapped (probe : List P) (build : List B) :
    ((rows isMatch kind probe build).map JoinedRow.swapped).Perm
      (rows (fun b p => isMatch p b) kind.swapped build probe) := by
  have hprobe : (lonelyProbe isMatch kind probe build).map JoinedRow.swapped =
      lonelyBuild (fun b p => isMatch p b) kind.swapped build probe := by
    rw [lonelyProbe, lonelyBuild, JoinType.keepsBuild_swapped, apply_ite (List.map _), List.map_map]
    rfl
  have hbuild : (lonelyBuild isMatch kind probe build).map JoinedRow.swapped =
      lonelyProbe (fun b p => isMatch p b) kind.swapped build probe := by
    rw [lonelyProbe, lonelyBuild, JoinType.keepsProbe_swapped, apply_ite (List.map _), List.map_map]
    rfl
  have hall := (rows_perm isMatch kind probe build).map JoinedRow.swapped
  rw [List.map_append, List.map_append, hprobe, hbuild] at hall
  exact (hall.trans ((pairs_swapped isMatch probe build).append List.perm_append_comm)).trans
    (rows_perm _ _ build probe).symm

end NestedLoop
end HashJoin
