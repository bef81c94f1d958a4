import HashJoin.Proofs.Probe.Tracking

/-!
# The rows of a probe batch

A cursor says which rows of its batch are not done with, and how far the first of them has been
compared. Working on a row moves the cursor on, either to the next row, or to a place within the row
at which the output batch was full.

## Main definitions

* `Cursor.pending` — the rows of a batch that a cursor is not done with.
* `Job.Placed` — a cursor that says the truth about its row.

## Main results

* `moved_probeRow`, `probeRows_of_owes` — a row, and all rows of a batch.
-/

namespace HashJoin

namespace Cursor

/-- The rows of a batch that a cursor is not done with. -/
def pending (c : Cursor) (batch : Batch) (buildRows : Nat) : List (PendingRow BatchRow) :=
  match batch.members.drop c.row with
  | [] => []
  | r :: later => ⟨r, c.chain.reached buildRows, c.rowMatched⟩ :: later.map NestedLoop.fresh

variable {c : Cursor} {batch : Batch} {buildRows : Nat}

theorem pending_of_lt (h : c.row < batch.rowCount) : c.pending batch buildRows =
    ⟨(batch, c.row), c.chain.reached buildRows, c.rowMatched⟩ ::
      (batch.members.drop (c.row + 1)).map NestedLoop.fresh := by
  rw [pending, drop_members h]

theorem pending_of_le (h : batch.rowCount ≤ c.row) : c.pending batch buildRows = [] := by
  rw [pending, List.drop_eq_nil_of_le (by rw [length_members]; exact h)]

theorem pending_of_unstarted (hchain : c.chain = .unstarted) (hmatched : c.rowMatched = false) :
    c.pending batch buildRows = (batch.members.drop c.row).map NestedLoop.fresh := by
  rw [pending, hchain, hmatched]
  cases batch.members.drop c.row <;> rfl

end Cursor

namespace Job

variable {j : Job} {total : List Joined} {out : Emission} {batch : Batch}
  {pending : List (PendingRow BatchRow)} {row : Nat} {m : Bool}

/-! ### Probe rows -/

/-- A row that has been compared with all build rows is kept or dropped, or waits because the output
batch is full, unless it overflows. -/
theorem completeRow_of_owes {c : Cursor} (hj : j.Sound total)
    (h : j.Owes total out (⟨(batch, c.row), j.build.length, c.rowMatched⟩ :: pending)) :
    (∃ c' out', (j.frame batch).completeRow c out = (.ok (), c', out') ∧
      (c' = c ∧ out' = out ∧ j.plan.batchRows ≤ out.writer.rows ∨
        c' = c.nextRow ∧ j.Owes total out' pending)) ∨
      ∃ e c' out', (j.frame batch).completeRow c out = (.error e, c', out') ∧
        j.Overflows total e := by
  by_cases hkeep : (!c.rowMatched && j.plan.joinType.keepsProbe) = true
  -- the row is written without a match, now or when there is room for it
  · by_cases hfull : j.plan.batchRows ≤ out.writer.rows
    · refine .inl ⟨c, out, ?_, .inl ⟨rfl, rfl, hfull⟩⟩
      simp [ProbeFrame.completeRow, hkeep, ProbeFrame.isFull, hfull]
    · obtain ⟨hunmatched, hkeeps⟩ := Bool.and_eq_true_iff.mp hkeep
      have hunmatched : c.rowMatched = false := by simpa using hunmatched
      rw [← hj.kind] at hkeeps
      rw [hunmatched, Owes, owed, NestedLoop.remaining_of_kept (Nat.le_refl _) hkeeps] at h
      rcases write_of_tracks hj (Nat.lt_of_not_le hfull) h with
        ⟨out', hwrite, hledger, h'⟩ | ⟨e, out', hwrite, hover⟩
      · have hwrite : out.write none (some (batch, c.row)) = (.ok (), out') := hwrite
        refine .inl ⟨c.nextRow, out', ?_, .inr ⟨rfl, ?_⟩⟩
        · simp [ProbeFrame.completeRow, hkeep, ProbeFrame.isFull, hfull, hwrite]
        · rw [Owes, owed, hledger]
          exact h'
      · have hwrite : out.write none (some (batch, c.row)) = (.error e, out') := hwrite
        refine .inr ⟨e, c, out', ?_, hover⟩
        simp [ProbeFrame.completeRow, hkeep, ProbeFrame.isFull, hfull, hwrite]
  · have hdrop : (!c.rowMatched && j.plan.joinType.keepsProbe) = false := Bool.eq_false_iff.mpr hkeep
    have hskip : (!c.rowMatched && j.kind.keepsProbe) = false := by
      rw [hj.kind]
      exact hdrop
    rw [Owes, owed, NestedLoop.remaining_of_dropped (Nat.le_refl _) hskip] at h
    exact .inl ⟨c.nextRow, out, by simp [ProbeFrame.completeRow, hdrop], .inr ⟨rfl, h⟩⟩

/-- What a cursor says of its row is true. -/
structure Placed (j : Job) (batch : Batch) (c : Cursor) : Prop where
  /-- A row that has not been looked up has not been matched. -/
  unstarted : c.chain = .unstarted → c.rowMatched = false
  /-- A candidate has the hash of the row. -/
  slot : ∀ s, c.chain = .slot s → c.hash = j.plan.keys.hashProbe batch c.row ∧
    j.hashes[s]? = some c.hash

theorem placed_of_exhausted {c : Cursor} (h : c.chain = .exhausted) : j.Placed batch c := by
  refine ⟨?_, ?_⟩
  · intro hnot
    rw [h] at hnot
    cases hnot
  · intro s hs
    rw [h] at hs
    cases hs

theorem placed_nextRow (j : Job) (batch : Batch) (c : Cursor) : j.Placed batch c.nextRow :=
  ⟨fun _ => rfl, nofun⟩

/-- Looking a row up passes over build rows that it does not match. -/
theorem lookUp_of_owes (hj : j.Sound total) (hbatch : j.Suits batch)
    (h : j.Owes total out (⟨(batch, row), 0, m⟩ :: pending)) {hash : UInt32} {chain : ChainPosition}
    (hlook : (j.frame batch).lookUp row = (hash, chain)) :
    chain ≠ .unstarted ∧ (∀ s, chain = .slot s → hash = j.plan.keys.hashProbe batch row ∧
        j.hashes[s]? = some hash) ∧
      j.Owes total out (⟨(batch, row), chain.reached j.build.length, m⟩ :: pending) := by
  simp only [ProbeFrame.lookUp] at hlook
  split at hlook
  -- without a table there are no build rows to compare with
  · next hbare =>
    cases hlook
    refine ⟨nofun, nofun, ?_⟩
    have hnil : j.build.length = 0 := by rw [hj.bare.mp hbare]; rfl
    rw [ChainPosition.reached, hnil]
    exact h
  · next table htable =>
    have hholds : table.Holds j.hashes := hj.table table htable
    split at hlook
    · have hsearch : table.first? (j.plan.keys.hashProbe batch row) =
          (List.range j.hashes.length).find? fun t =>
            0 ≤ t && decide (j.hashes[t]? = some (j.plan.keys.hashProbe batch row)) := by
        simpa using SlotTable.first?_of_holds hholds _
      -- the slots before the first one of the hash, or all of them, have other hashes
      obtain ⟨hrest, hfound⟩ := owes_of_search hbatch (Nat.zero_le _) hsearch h
      change (_, ((table.first? (j.plan.keys.hashProbe batch row)).map _).getD _) = _ at hlook
      cases hfirst : table.first? (j.plan.keys.hashProbe batch row) with
      | none =>
        rw [hfirst] at hlook hrest
        cases hlook
        exact ⟨nofun, nofun, hrest⟩
      | some s =>
        rw [hfirst] at hlook hrest
        cases hlook
        refine ⟨nofun, ?_, hrest⟩
        intro t ht
        cases ht
        exact ⟨rfl, hfound s hfirst⟩
    -- a row with a NULL that equals nothing is not looked up
    · next hkey =>
      cases hlook
      exact ⟨nofun, nofun, owes_pass h (Nat.zero_le _) (Nat.le_refl _) fun t ht _ _ =>
        not_match_of_canMatch hbatch ht hkey⟩

/-- A row is looked up before it is worked on, unless it was. -/
theorem beginRow_of_owes {c : Cursor} (hj : j.Sound total) (hbatch : j.Suits batch)
    (hplaced : j.Placed batch c)
    (h : j.Owes total out (⟨(batch, c.row), c.chain.reached j.build.length, c.rowMatched⟩ :: pending)) :
    ∃ hash chain, (j.frame batch).beginRow c = { c with hash := hash, chain := chain } ∧
      chain ≠ .unstarted ∧ j.Placed batch { c with hash := hash, chain := chain } ∧
      j.Owes total out (⟨(batch, c.row), chain.reached j.build.length, c.rowMatched⟩ :: pending) := by
  unfold ProbeFrame.beginRow
  cases hchain : c.chain with
  | unstarted =>
    rw [hchain] at h
    rcases hlook : (j.frame batch).lookUp c.row with ⟨hash, chain⟩
    obtain ⟨hstarted, hslot, h'⟩ := lookUp_of_owes hj hbatch h hlook
    exact ⟨hash, chain, rfl, hstarted, ⟨fun hnot => absurd hnot hstarted, hslot⟩, h'⟩
  | slot s =>
    refine ⟨c.hash, c.chain, rfl, by rw [hchain]; nofun, hplaced, h⟩
  | exhausted =>
    exact ⟨c.hash, c.chain, rfl, by rw [hchain]; nofun, hplaced, h⟩

/-- What the work on a row leaves behind: the cursor is on the next row, or on the same one because
the output batch is full. -/
structure Moved (j : Job) (total : List Joined) (batch : Batch)
    (pending : List (PendingRow BatchRow)) (c c' : Cursor) (out' : Emission) : Prop where
  /-- The rows written and those left are still all. -/
  owes : j.Owes total out' (c'.pending batch j.build.length ++ pending)
  /-- The cursor says the truth. -/
  placed : j.Placed batch c'
  /-- The stage is the same. -/
  phase : c'.phase = c.phase
  /-- The place of the cursor. -/
  row : c'.row = c.row + 1 ∨ c'.row = c.row ∧ j.plan.batchRows ≤ out'.writer.rows

theorem moved_completeRow {c d : Cursor} (hj : j.Sound total) (hrow : c.row < batch.rowCount)
    (hd : d.row = c.row) (hphase : d.phase = c.phase) (hchain : d.chain = .exhausted)
    (h : j.Owes total out (⟨(batch, c.row), j.build.length, d.rowMatched⟩ ::
      ((batch.members.drop (c.row + 1)).map NestedLoop.fresh ++ pending))) :
    (∃ c' out', (j.frame batch).completeRow d out = (.ok (), c', out') ∧
      j.Moved total batch pending c c' out') ∨
      ∃ e c' out', (j.frame batch).completeRow d out = (.error e, c', out') ∧
        j.Overflows total e := by
  rw [← hd] at h
  rcases completeRow_of_owes hj h with ⟨c', out', hcomplete, ⟨rfl, rfl, hfull⟩ | ⟨rfl, h'⟩⟩ | hover
  -- the cursor stays, and the row is still to be written
  · refine .inl ⟨c', out', hcomplete, ?_, ?_, hphase, .inr ⟨hd, hfull⟩⟩
    · rw [Cursor.pending_of_lt (by rw [hd]; exact hrow), hchain]
      exact h
    · exact placed_of_exhausted hchain
  · refine .inl ⟨d.nextRow, out', hcomplete, ?_, placed_nextRow j batch d, hphase,
      .inl (congrArg (· + 1) hd)⟩
    rw [Cursor.pending_of_unstarted rfl rfl]
    exact h'
  · exact .inr hover

/-- Working on a row that has been looked up. -/
theorem moved_continueRow {c d : Cursor} (hj : j.Sound total) (hbatch : j.Suits batch)
    (hplaced : j.Placed batch d) (hrow : c.row < batch.rowCount) (hd : d.row = c.row)
    (hphase : d.phase = c.phase) (hstarted : d.chain ≠ .unstarted)
    (h : j.Owes total out (⟨(batch, c.row), d.chain.reached j.build.length, d.rowMatched⟩ ::
      ((batch.members.drop (c.row + 1)).map NestedLoop.fresh ++ pending))) :
    (∃ c' out', (j.frame batch).continueRow d out = (.ok (), c', out') ∧
      j.Moved total batch pending c c' out') ∨
      ∃ e c' out', (j.frame batch).continueRow d out = (.error e, c', out') ∧
        j.Overflows total e := by
  unfold ProbeFrame.continueRow
  cases hchain : d.chain with
  | unstarted => exact absurd hchain hstarted
  | exhausted =>
    rw [hchain] at h
    exact moved_completeRow hj hrow hd hphase hchain h
  | slot s =>
    rw [hchain, ← hd] at h
    obtain ⟨hhash, hslot⟩ := hplaced.slot s hchain
    simp only
    split
    -- a cursor is at a slot only if there is a table
    · next hbare =>
      rw [hashes, hj.bare.mp hbare] at hslot
      cases hslot
    · next table htable =>
      rcases walkChain_of_owes hj hbatch (hj.table table htable) hhash hslot h with
        ⟨chain, m', out', hwalk, h', hend⟩ | ⟨e, chain, m', out', hwalk, hover⟩
      · rw [hwalk]
        rcases hend with rfl | ⟨s', rfl, hslot', hfull⟩
        -- the chain is at its end, and the row is completed in the same go
        · rw [hd] at h'
          exact moved_completeRow (d := { d with chain := .exhausted, rowMatched := m' }) hj hrow hd
            hphase rfl h'
        · refine .inl ⟨_, out', rfl, ?_, ⟨?_, ?_⟩, hphase, .inr ⟨hd, hfull⟩⟩
          · rw [Cursor.pending_of_lt (by show d.row < _; rw [hd]; exact hrow)]
            exact h'
          · intro hunstarted
            cases hunstarted
          · intro t ht
            cases ht
            exact ⟨hhash, hslot'⟩
      · rw [hwalk]
        exact .inr ⟨e, _, out', rfl, hover⟩

/-- Working on a row ends with the row, or at a place where the output batch is full, unless a row
overflows. -/
theorem moved_probeRow {c c' : Cursor} {result : Except JoinError Unit} {out' : Emission}
    (hj : j.Sound total) (hbatch : j.Suits batch) (hplaced : j.Placed batch c)
    (hrow : c.row < batch.rowCount) (h : j.Owes total out (c.pending batch j.build.length ++ pending))
    (hwork : (j.frame batch).probeRow c out = (result, c', out')) :
    (result = .ok () ∧ j.Moved total batch pending c c' out') ∨
      ∃ e, result = .error e ∧ j.Overflows total e := by
  rw [Cursor.pending_of_lt hrow] at h
  obtain ⟨hash, chain, hbegin, hstarted, hplaced', h'⟩ := beginRow_of_owes hj hbatch hplaced h
  rw [ProbeFrame.probeRow, hbegin] at hwork
  rcases moved_continueRow hj hbatch hplaced' hrow rfl rfl hstarted h' with
    ⟨c₁, out₁, hcontinue, hmoved⟩ | ⟨e, c₁, out₁, hcontinue, hover⟩
  · rw [hcontinue] at hwork
    cases hwork
    exact .inl ⟨rfl, hmoved⟩
  · rw [hcontinue] at hwork
    cases hwork
    exact .inr ⟨e, rfl, hover⟩

/-- Working on the rows of a batch ends with the batch, or at a place where the output batch is
full, unless a row overflows. -/
theorem probeRows_of_owes {c : Cursor} (hj : j.Sound total) (hbatch : j.Suits batch)
    (hplaced : j.Placed batch c) (h : j.Owes total out (c.pending batch j.build.length ++ pending)) :
    (∃ c' out', (j.frame batch).probeRows c out = (.ok (), c', out') ∧
      j.Owes total out' (c'.pending batch j.build.length ++ pending) ∧ j.Placed batch c' ∧
      c'.phase = c.phase ∧ (batch.rowCount ≤ c'.row ∨ j.plan.batchRows ≤ out'.writer.rows)) ∨
      ∃ e c' out', (j.frame batch).probeRows c out = (.error e, c', out') ∧
        j.Overflows total e := by
  -- on the rows of the batch, as the cursor moves through them
  fun_induction ProbeFrame.probeRows (j.frame batch) c out with
  | case1 c out hmore e c₁ out₁ hrow =>
    have hlt : c.row < batch.rowCount := by simp_all
    obtain ⟨⟨⟩, -⟩ | ⟨_, ⟨⟩, hover⟩ := moved_probeRow hj hbatch hplaced hlt h hrow
    exact .inr ⟨e, c₁, out₁, rfl, hover⟩
  | case2 c out hmore c₁ out₁ hrow hon ih =>
    have hlt : c.row < batch.rowCount := by simp_all
    obtain ⟨-, hmoved⟩ | ⟨_, ⟨⟩, -⟩ := moved_probeRow hj hbatch hplaced hlt h hrow
    rcases ih hmoved.placed hmoved.owes with ⟨c', out', hrest, h', hplaced', hphase, hend⟩ | hover
    · exact .inl ⟨c', out', hrest, h', hplaced', hphase.trans hmoved.phase, hend⟩
    · exact .inr hover
  | case3 c out hmore c₁ out₁ hrow hstay =>
    have hlt : c.row < batch.rowCount := by simp_all
    obtain ⟨-, hmoved⟩ | ⟨_, ⟨⟩, -⟩ := moved_probeRow hj hbatch hplaced hlt h hrow
    refine .inl ⟨c₁, out₁, rfl, hmoved.owes, hmoved.placed, hmoved.phase, .inr ?_⟩
    rcases hmoved.row with hnext | ⟨-, hfull⟩
    · omega
    · exact hfull
  | case4 c out hstop =>
    refine .inl ⟨c, out, rfl, h, hplaced, rfl, ?_⟩
    by_cases hlt : c.row < batch.rowCount
    · exact .inr (by simpa [hlt, ProbeFrame.isFull] using hstop)
    · exact .inl (Nat.le_of_not_lt hlt)

end Job
end HashJoin
