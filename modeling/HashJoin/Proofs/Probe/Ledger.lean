import HashJoin.Probe
import HashJoin.Proofs.MatchLedger.Marking

/-!
# The ledger while probing

Whatever probing does, and wherever it stops or fails, the ledger it leaves is the one it began with
and some more marks, and the plan is the same.

## Main results

* `marked_walkChain`, `marked_probeRow`, `marked_probeRows` — a chain, a row, the rows of a batch.
* `marked_nextOutput` — an output batch.
* `plan_nextOutput` — the plan behind it.
-/

namespace HashJoin

theorem Emission.ledger_write {out out' : Emission} {build probe : Option BatchRow}
    {result : Except JoinError Unit} (h : out.write build probe = (result, out')) :
    out'.ledger = out.ledger := by
  obtain ⟨writer, ledger⟩ := out
  simp only [write] at h
  split at h <;> (cases h; rfl)

namespace ProbeFrame

variable {f : ProbeFrame} {out out' : Emission} {result : Except JoinError Unit}

theorem marked_tryCandidate {row slot : Nat} {found : Except JoinError Bool}
    (h : f.tryCandidate row slot out = (found, out')) : out.ledger.Marked out'.ledger := by
  simp only [tryCandidate] at h
  split at h
  · cases h
    exact .refl
  · split at h
    · split at h
      · next hwrite =>
        cases h
        rw [Emission.ledger_write hwrite]
        exact .refl
      · next out₁ hwrite =>
        cases h
        rw [← Emission.ledger_write hwrite]
        exact .mark .refl slot
    · cases h
      exact .refl

theorem marked_walkChain {table : SlotTable} {row slot : Nat} {hash : UInt32}
    {rowMatched rowMatched' : Bool} {chain : ChainPosition}
    (h : f.walkChain table row hash slot rowMatched out = (result, chain, rowMatched', out')) :
    out.ledger.Marked out'.ledger := by
  fun_induction walkChain f table row hash slot rowMatched out with
  | case1 =>
    cases h
    exact .refl
  | case2 slot rowMatched out _ e out₁ htry =>
    cases h
    exact marked_tryCandidate htry
  | case3 slot rowMatched out _ isMatch out₁ htry =>
    cases h
    exact marked_tryCandidate htry
  | case4 slot rowMatched out _ isMatch out₁ htry later _ _ ih =>
    exact (marked_tryCandidate htry).trans (ih h)

theorem marked_completeRow {cursor cursor' : Cursor}
    (h : f.completeRow cursor out = (result, cursor', out')) : out.ledger.Marked out'.ledger := by
  simp only [completeRow] at h
  split at h
  · split at h
    · cases h
      exact .refl
    · split at h
      · next hwrite =>
        cases h
        rw [Emission.ledger_write hwrite]
        exact .refl
      · next hwrite =>
        cases h
        rw [Emission.ledger_write hwrite]
        exact .refl
  · cases h
    exact .refl

theorem marked_probeRow {cursor cursor' : Cursor}
    (h : f.probeRow cursor out = (result, cursor', out')) : out.ledger.Marked out'.ledger := by
  simp only [probeRow, continueRow] at h
  split at h
  · exact marked_completeRow h
  · exact marked_completeRow h
  · split at h
    · split at h <;> (cases h; exact .refl)
    · split at h
      · next hwalk =>
        cases h
        exact marked_walkChain hwalk
      · next hwalk => exact (marked_walkChain hwalk).trans (marked_completeRow h)
      · next hwalk =>
        cases h
        exact marked_walkChain hwalk

theorem marked_probeRows {cursor cursor' : Cursor}
    (h : f.probeRows cursor out = (result, cursor', out')) : out.ledger.Marked out'.ledger := by
  fun_induction probeRows f cursor out with
  | case1 cursor out _ e cursor₁ out₁ hrow =>
    cases h
    exact marked_probeRow hrow
  | case2 cursor out _ reached out₁ hrow _ ih => exact (marked_probeRow hrow).trans (ih h)
  | case3 cursor out _ reached out₁ hrow _ =>
    cases h
    exact marked_probeRow hrow
  | case4 =>
    cases h
    exact .refl

end ProbeFrame

namespace Probe

variable {σ : Type} [BatchSource σ] {table : Option SlotTable} {store : BuildStore} {p q : Probe}
  {source source' : σ} {metrics metrics' : Metrics} {out out' : Emission}

theorem marked_probeCurrent {result : Except JoinError Unit}
    (h : probeCurrent table store p out = (result, q, out')) : out.ledger.Marked out'.ledger := by
  simp only [probeCurrent] at h
  split at h
  · cases h
    exact .refl
  · cases h
    exact ProbeFrame.marked_probeRows rfl

theorem marked_probeInput {result : Except JoinError Unit}
    (h : p.probeInput table store source metrics out = (result, q, source', metrics', out')) :
    out.ledger.Marked out'.ledger := by
  fun_induction probeInput table store p source metrics out with
  | case1 p source metrics out e p₁ out₁ hworked =>
    cases h
    exact marked_probeCurrent hworked
  | case2 p source metrics out p₁ out₁ hworked =>
    cases h
    exact marked_probeCurrent hworked
  | case3 p source metrics out p₁ out₁ hworked =>
    cases h
    exact marked_probeCurrent hworked
  | case4 p source metrics out p₁ out₁ hworked =>
    cases h
    exact marked_probeCurrent hworked
  | case5 p source metrics out p₁ out₁ hworked _ _ _ _ _ _ _ _ ih =>
    exact (marked_probeCurrent hworked).trans (ih h)

theorem marked_probeStage {result : Except JoinError Unit}
    (h : p.probeStage table store source metrics out = (result, q, source', metrics', out')) :
    out.ledger.Marked out'.ledger := by
  unfold probeStage at h
  split at h
  · exact marked_probeInput h
  · cases h
    exact .refl
  · cases h
    exact .refl

theorem marked_fill {result : Except JoinError Unit}
    (h : p.fill table store source metrics out = (result, q, source', metrics', out')) :
    out.ledger.Marked out'.ledger := by
  simp only [fill] at h
  rcases hstage : p.probeStage table store source metrics out with
    ⟨result₁, p₁, source₁, metrics₁, out₁⟩
  rw [hstage] at h
  have hmarked := marked_probeStage hstage
  split at h <;> (cases h; exact hmarked)

/-- **An output batch leaves the ledger as it was, some more slots marked**, also when it fails. -/
theorem marked_nextOutput {result : Except JoinError (Option Batch)} {ledger ledger' : MatchLedger}
    (h : p.nextOutput table store ledger source metrics =
      (result, q, ledger', source', metrics')) : ledger.Marked ledger' := by
  simp only [nextOutput] at h
  split at h
  · cases h
    exact .refl
  · split at h
    · next hfill =>
      cases h
      exact marked_fill hfill
    · next hfill =>
      cases h
      exact marked_fill hfill

/-! ### The plan -/

theorem plan_probeCurrent {result : Except JoinError Unit}
    (h : probeCurrent table store p out = (result, q, out')) : q.plan = p.plan := by
  simp only [probeCurrent] at h
  split at h <;> (cases h; rfl)

theorem plan_probeInput {result : Except JoinError Unit}
    (h : p.probeInput table store source metrics out = (result, q, source', metrics', out')) :
    q.plan = p.plan := by
  fun_induction probeInput table store p source metrics out with
  | case1 p source metrics out e p₁ out₁ hworked =>
    cases h
    exact plan_probeCurrent hworked
  | case2 p source metrics out p₁ out₁ hworked =>
    cases h
    exact plan_probeCurrent hworked
  | case3 p source metrics out p₁ out₁ hworked =>
    have hplan := plan_probeCurrent hworked
    cases h
    exact hplan
  | case4 p source metrics out p₁ out₁ hworked =>
    have hplan := plan_probeCurrent hworked
    cases h
    exact hplan
  | case5 p source metrics out p₁ out₁ hworked _ _ _ _ _ _ _ _ ih =>
    have hplan := plan_probeCurrent hworked
    exact (ih h).trans hplan

theorem plan_probeStage {result : Except JoinError Unit}
    (h : p.probeStage table store source metrics out = (result, q, source', metrics', out')) :
    q.plan = p.plan := by
  unfold probeStage at h
  split at h
  · exact plan_probeInput h
  · cases h
    rfl
  · cases h
    rfl

theorem plan_fill {result : Except JoinError Unit}
    (h : p.fill table store source metrics out = (result, q, source', metrics', out')) :
    q.plan = p.plan := by
  simp only [fill] at h
  rcases hstage : p.probeStage table store source metrics out with
    ⟨result₁, p₁, source₁, metrics₁, out₁⟩
  rw [hstage] at h
  have hplan := plan_probeStage hstage
  split at h <;> (cases h; exact hplan)

/-- An output batch leaves the plan as it was, also when it fails. -/
theorem plan_nextOutput {result : Except JoinError (Option Batch)} {ledger ledger' : MatchLedger}
    (h : p.nextOutput table store ledger source metrics =
      (result, q, ledger', source', metrics')) : q.plan = p.plan := by
  simp only [nextOutput] at h
  split at h
  · cases h
    rfl
  · split at h
    · next hfill =>
      cases h
      exact plan_fill hfill
    · next hfill =>
      cases h
      exact plan_fill hfill

end Probe
end HashJoin
