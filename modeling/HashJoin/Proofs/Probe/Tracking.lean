import HashJoin.Probe
import HashJoin.Proofs.BuildSide.Filling
import HashJoin.Proofs.NestedLoop.Remaining
import HashJoin.Proofs.Output.Writing

/-!
# The rows of an output batch

While an output batch is being made, the rows written and the rows that remain of the nested loop are
together the rows that remained before. Each step of probing keeps that up: a match moves one row from
the second part to the first, and a candidate that does not match, or a slot that the table passes
over, moves none. The only row that is refused is one whose texts or bytes have no room in the columns
of the output batch.

## Main definitions

* `Job` — what output batches are made of.
* `Job.Tracks`, `Job.Owes` — an emission whose rows are the first of those that remained.
* `Job.Overflows` — the error of a row that has no room.

## Main results

* `write_of_tracks` — one more row.
* `tryCandidate_of_owes`, `walkChain_of_owes` — a candidate and a chain.
-/

namespace HashJoin

/-- A row of the output, by what it is made of. -/
abbrev Joined := JoinedRow BatchRow BatchRow

/-- What output batches are made of. -/
structure Job where
  /-- When rows match. -/
  conditions : List Condition
  /-- Which rows without a match there are. If the probe rows break off, no build row without a match
  is ever reached. -/
  kind : JoinType
  /-- What is to be done. -/
  plan : ProbePlan
  /-- The table. -/
  table : Option SlotTable
  /-- The stored batches. -/
  store : BuildStore
  /-- The build rows. -/
  build : List BatchRow

namespace Job

/-- The parts of the job fit together. -/
structure Sound (j : Job) (total : List Joined) : Prop where
  /-- Probe rows without a match are kept as planned. -/
  kind : j.kind.keepsProbe = j.plan.joinType.keepsProbe
  /-- The table finds the build rows. -/
  table : ∀ t, j.table = some t → t.Holds (j.build.map j.plan.keys.rowHash)
  /-- A table is lacking if there are no build rows, and only then. -/
  bare : j.table = none ↔ j.build = []
  /-- The build rows belong to batches that are what they claim to be. -/
  formed : ∀ b ∈ j.build, b.1.WellFormed
  /-- The columns can take the rows. -/
  rows : ∀ r ∈ total, RowFits j.plan.output r

/-- The error of a row whose texts or bytes have no room in the next output batch. -/
structure Overflows (j : Job) (total : List Joined) (e : JoinError) : Prop where
  /-- The error. It names a column of texts or byte sequences. -/
  error : ∃ spec, spec.holdsBytes = true ∧ e = .format (.payload spec)
  /-- The rows of the batch are too much for some column. -/
  rows : ¬ PayloadsFit (total.take j.plan.batchRows)

/-- The rows of a batch can be compared with the build rows. -/
structure Suits (j : Job) (batch : Batch) : Prop where
  /-- The batch is what it claims to be. -/
  wellFormed : batch.WellFormed
  /-- The batch has the schema that the keys were resolved by. -/
  keys : ∀ b ∈ j.build,
    JoinKeys.resolve j.conditions (some b.1.schema) (some batch.schema) = .ok j.plan.keys

/-- The frame of a probe batch. -/
abbrev frame (j : Job) (batch : Batch) : ProbeFrame := ⟨j.plan, j.table, j.store, batch⟩

/-- The rows written and those that are left are the rows that remained before. -/
structure Tracks (j : Job) (total : List Joined) (out : Emission) (left : List Joined) : Prop where
  /-- The rows written. -/
  written : ∃ written, written ++ left = total ∧ written.length ≤ j.plan.batchRows ∧
    out.writer.Holds j.plan.output written
  /-- The build rows of the slots. -/
  serves : j.store.Serves out.ledger j.build
  /-- Every slot has a bit. -/
  covered : out.ledger.Covered

/-- What remains of the nested loop, given the probe rows that are not done with and the marks. -/
def owed (j : Job) (ledger : MatchLedger) (pending : List (PendingRow BatchRow)) : List Joined :=
  NestedLoop.remaining (rowsMatch j.conditions) j.kind j.build pending ledger.isMatched

/-- The rows that are left are what remains of the nested loop. -/
def Owes (j : Job) (total : List Joined) (out : Emission) (pending : List (PendingRow BatchRow)) :
    Prop :=
  j.Tracks total out (j.owed out.ledger pending)

variable {j : Job} {total left : List Joined} {out : Emission} {batch : Batch}
  {pending : List (PendingRow BatchRow)} {row slot : Nat} {m : Bool}

/-! ### Writing -/

/-- One more row is taken if the output batch may have it, unless it overflows. -/
theorem append_of_tracks {writer writer' : RowWriter} {ledger : MatchLedger} {r : Joined}
    {result : Except FormatError Unit} (hj : j.Sound total) (hroom : writer.rows < j.plan.batchRows)
    (h : j.Tracks total ⟨writer, ledger⟩ (r :: left))
    (happend : writer.append r.build r.probe = (result, writer')) :
    (result = .ok () ∧ j.Tracks total ⟨writer', ledger⟩ left) ∨
      ∃ e, result = .error e ∧ j.Overflows total (.format e) := by
  obtain ⟨⟨written, htotal, -, hwritten⟩, hserves, hcovered⟩ := h
  have hlength : written.length < j.plan.batchRows := by
    rw [← hwritten.count]
    exact hroom
  have hfits : RowFits j.plan.output r := by
    apply hj.rows
    rw [← htotal]
    simp
  rcases RowWriter.append_of_holds hwritten hfits with
    ⟨writer₁, hput, hwritten'⟩ | ⟨⟨spec, writer₁, hspec, hput⟩, hfull⟩
  · rw [hput] at happend
    cases happend
    refine .inl ⟨rfl, ⟨written ++ [r], ?_, ?_, hwritten'⟩, hserves, hcovered⟩
    · rw [← htotal, List.append_assoc]
      rfl
    · rw [List.length_append]
      exact hlength
  -- what would be written is still within the rows of one output batch
  · rw [hput] at happend
    cases happend
    refine .inr ⟨_, rfl, ⟨spec, hspec, rfl⟩, fun hpayload => hfull (hpayload.initial ?_)⟩
    have hsplit : total = written ++ [r] ++ left := by
      rw [← htotal, List.append_cons]
    rw [hsplit]
    refine List.prefix_take_iff.mpr ⟨List.prefix_append _ _, ?_⟩
    rw [List.length_append]
    exact hlength

/-- One more row is written if the output batch may have it, unless it overflows. -/
theorem write_of_tracks {r : Joined} (hj : j.Sound total)
    (hroom : out.writer.rows < j.plan.batchRows) (h : j.Tracks total out (r :: left)) :
    (∃ out', out.write r.build r.probe = (.ok (), out') ∧ out'.ledger = out.ledger ∧
      j.Tracks total out' left) ∨
      ∃ e out', out.write r.build r.probe = (.error e, out') ∧ j.Overflows total e := by
  rcases happend : out.writer.append r.build r.probe with ⟨result, writer'⟩
  rcases append_of_tracks hj hroom h happend with ⟨rfl, h'⟩ | ⟨e, rfl, hover⟩
  · exact .inl ⟨⟨writer', out.ledger⟩, by simp only [Emission.write, happend], rfl, h'⟩
  · exact .inr ⟨_, ⟨writer', out.ledger⟩, by simp only [Emission.write, happend], hover⟩

theorem tracks_mark (h : j.Tracks total out left) (slot : Nat) :
    j.Tracks total (out.mark slot) left := by
  obtain ⟨writer, ledger⟩ := out
  exact ⟨h.written, h.serves.congr (MatchLedger.links_mark ledger slot),
    MatchLedger.covered_mark h.covered slot⟩

/-! ### Candidates -/

theorem keysEqual_of_suits (hbatch : j.Suits batch) (row : Nat) (hslot : slot < j.build.length) :
    j.plan.keys.keysEqual batch row j.build[slot].1 j.build[slot].2 =
      rowsMatch j.conditions (batch, row) j.build[slot] :=
  JoinKeys.keysEqual_eq (p := (batch, row)) (hbatch.keys _ (List.getElem_mem hslot))

/-- A candidate that matches is written and marked, unless it overflows, and another one is passed
over. -/
theorem tryCandidate_of_owes {result : Except JoinError Bool} {out' : Emission} (hj : j.Sound total)
    (hbatch : j.Suits batch) (hroom : out.writer.rows < j.plan.batchRows)
    (hslot : slot < j.build.length) (h : j.Owes total out (⟨(batch, row), slot, m⟩ :: pending))
    (htry : (j.frame batch).tryCandidate row slot out = (result, out')) :
    (∃ found, result = .ok found ∧
      j.Owes total out' (⟨(batch, row), slot + 1, m || found⟩ :: pending)) ∨
      ∃ e, result = .error e ∧ j.Overflows total e := by
  have hget : j.store.slotRow out.ledger slot = .ok j.build[slot] :=
    h.serves.row slot _ (List.getElem?_eq_getElem hslot)
  have hequal := keysEqual_of_suits hbatch row hslot
  cases hmatch : rowsMatch j.conditions (batch, row) j.build[slot] with
  | true =>
    rw [hmatch] at hequal
    rw [Owes, owed, NestedLoop.remaining_of_match hslot hmatch] at h
    simp only [ProbeFrame.tryCandidate, hget, hequal, if_true] at htry
    rcases write_of_tracks hj hroom h with ⟨out₁, hwrite, hledger, h'⟩ | ⟨e, out₁, hwrite, hover⟩
    · rw [show out.write (some (j.build[slot].1, j.build[slot].2)) (some (batch, row)) =
        (.ok (), out₁) from hwrite] at htry
      cases htry
      -- the row is marked in the ledger just as its match is counted in what is owed
      have hmarks : (out₁.mark slot).ledger.isMatched =
          fun t => out.ledger.isMatched t || decide (t = slot) := by
        funext t
        have hlt : slot < out₁.ledger.length := by
          rw [h'.serves.length]
          exact hslot
        rw [← hledger]
        exact MatchLedger.isMatched_mark h'.covered hlt t
      refine .inl ⟨true, rfl, ?_⟩
      rw [Owes, owed, hmarks, Bool.or_true]
      exact tracks_mark h' slot
    · rw [show out.write (some (j.build[slot].1, j.build[slot].2)) (some (batch, row)) =
        (.error e, out₁) from hwrite] at htry
      cases htry
      exact .inr ⟨e, rfl, hover⟩
  | false =>
    rw [hmatch] at hequal
    simp only [ProbeFrame.tryCandidate, hget, hequal] at htry
    cases htry
    rw [Owes, owed, NestedLoop.remaining_of_mismatch hslot hmatch] at h
    refine .inl ⟨false, rfl, ?_⟩
    rw [Bool.or_false]
    exact h

/-! ### Chains -/

/-- The hashes of the slots. -/
def hashes (j : Job) : List UInt32 := j.build.map j.plan.keys.rowHash

@[simp] theorem length_hashes (j : Job) : j.hashes.length = j.build.length := List.length_map _

theorem not_match_of_hash (hbatch : j.Suits batch) (ht : slot < j.build.length)
    (hhash : j.hashes[slot]? ≠ some (j.plan.keys.hashProbe batch row)) :
    rowsMatch j.conditions (batch, row) j.build[slot] = false := by
  refine Bool.eq_false_iff.mpr fun hmatch => hhash ?_
  have hequal := JoinKeys.rowHash_of_rowsMatch (p := (batch, row)) Digest.xxh3
    (hbatch.keys _ (List.getElem_mem ht)) hmatch
  rw [hashes, List.getElem?_map, List.getElem?_eq_getElem ht]
  exact congrArg some hequal.symm

theorem not_match_of_canMatch (hbatch : j.Suits batch) (ht : slot < j.build.length)
    (hkey : ¬ j.plan.keys.canMatch batch row = true) :
    rowsMatch j.conditions (batch, row) j.build[slot] = false :=
  Bool.eq_false_iff.mpr fun hmatch => hkey <|
    JoinKeys.canMatch_of_rowsMatch (p := (batch, row)) (hbatch.keys _ (List.getElem_mem ht)) hmatch

/-- Build rows that do not match can be passed over. -/
theorem owes_pass {later : Nat} (h : j.Owes total out (⟨(batch, row), slot, m⟩ :: pending))
    (hle : slot ≤ later) (hlater : later ≤ j.build.length)
    (hother : ∀ t (ht : t < j.build.length), slot ≤ t → t < later →
      rowsMatch j.conditions (batch, row) j.build[t] = false) :
    j.Owes total out (⟨(batch, row), later, m⟩ :: pending) := by
  rw [Owes, owed, NestedLoop.remaining_skip hle hlater hother] at h
  exact h

end Job

/-- The first build row that the row of a cursor has not been compared with. -/
def ChainPosition.reached (buildRows : Nat) : ChainPosition → Nat
  | unstarted => 0
  | slot s => s
  | exhausted => buildRows

namespace Job

variable {j : Job} {total : List Joined} {out : Emission} {batch : Batch}
  {pending : List (PendingRow BatchRow)} {row slot : Nat} {m : Bool}

/-- A search among the slots from `s` on for the hash of a row passes over build rows that the row
does not match, whether it finds a slot or not. -/
theorem owes_of_search {s : Nat} {found : Option Nat} (hbatch : j.Suits batch)
    (hs : s ≤ j.build.length)
    (hsearch : found = (List.range j.hashes.length).find? fun t =>
      s ≤ t && decide (j.hashes[t]? = some (j.plan.keys.hashProbe batch row)))
    (h : j.Owes total out (⟨(batch, row), s, m⟩ :: pending)) :
    j.Owes total out (⟨(batch, row), found.getD j.build.length, m⟩ :: pending) ∧
      ∀ t, found = some t → j.hashes[t]? = some (j.plan.keys.hashProbe batch row) := by
  cases found with
  | none =>
    have hnone := List.find?_range_eq_none.mp hsearch.symm
    refine ⟨owes_pass h hs (Nat.le_refl _) ?_, nofun⟩
    intro t ht hst _
    apply not_match_of_hash hbatch ht
    simpa [hst] using hnone t (by rw [length_hashes]; exact ht)
  | some t =>
    obtain ⟨hfound, hmem, hbefore⟩ := List.find?_range_eq_some.mp hsearch.symm
    simp only [Bool.and_eq_true, decide_eq_true_eq] at hfound
    have hlater : t < j.build.length := by simpa using hmem
    refine ⟨owes_pass h hfound.1 (Nat.le_of_lt hlater) ?_, ?_⟩
    · intro u hu hsu hut
      apply not_match_of_hash hbatch hu
      simpa [hsu] using hbefore u hut
    · intro u heq
      cases heq
      exact hfound.2

theorem room_of_not_full (h : ¬ (j.frame batch).isFull out = true) :
    out.writer.rows < j.plan.batchRows := by
  simpa [ProbeFrame.isFull] using h

/-- The walk along a chain stops at its end, or at a slot because the output batch is full, unless a
row overflows. -/
theorem walkChain_of_owes {table : SlotTable} {hash : UInt32} (hj : j.Sound total)
    (hbatch : j.Suits batch) (htable : table.Holds j.hashes)
    (hhash : hash = j.plan.keys.hashProbe batch row) (hslot : j.hashes[slot]? = some hash)
    (h : j.Owes total out (⟨(batch, row), slot, m⟩ :: pending)) :
    (∃ chain m' out', (j.frame batch).walkChain table row hash slot m out =
        (.ok (), chain, m', out') ∧
      j.Owes total out' (⟨(batch, row), chain.reached j.build.length, m'⟩ :: pending) ∧
      (chain = .exhausted ∨ ∃ s, chain = .slot s ∧ j.hashes[s]? = some hash ∧
        j.plan.batchRows ≤ out'.writer.rows)) ∨
      ∃ e chain m' out', (j.frame batch).walkChain table row hash slot m out =
        (.error e, chain, m', out') ∧ j.Overflows total e := by
  have hlt : ∀ {s}, j.hashes[s]? = some hash → s < j.build.length := by
    intro s hs
    rw [← length_hashes]
    exact (List.getElem?_eq_some_iff.mp hs).1
  fun_induction ProbeFrame.walkChain (j.frame batch) table row hash slot m out with
  | case1 slot m out hfull =>
    exact .inl ⟨.slot slot, m, out, rfl, h, .inr ⟨slot, rfl, hslot, of_decide_eq_true hfull⟩⟩
  | case2 slot m out hroom e out₁ htry =>
    obtain ⟨_, ⟨⟩, -⟩ | ⟨_, ⟨⟩, hover⟩ :=
      tryCandidate_of_owes hj hbatch (room_of_not_full hroom) (hlt hslot) h htry
    exact .inr ⟨e, .slot slot, m, out₁, rfl, hover⟩
  | case3 slot m out hroom isMatch out₁ htry hnext =>
    obtain ⟨_, ⟨⟩, h'⟩ | ⟨_, ⟨⟩, -⟩ :=
      tryCandidate_of_owes hj hbatch (room_of_not_full hroom) (hlt hslot) h htry
    -- no later slot has the hash, so no later build row matches
    have hsearch := hnext.symm.trans (SlotTable.next?_of_holds htable hslot)
    rw [hhash] at hsearch
    obtain ⟨hrest, -⟩ := owes_of_search hbatch (hlt hslot) hsearch h'
    exact .inl ⟨.exhausted, m || isMatch, out₁, rfl, hrest, .inl rfl⟩
  | case4 slot m out hroom isMatch out₁ htry later hnext _ ih =>
    obtain ⟨_, ⟨⟩, h'⟩ | ⟨_, ⟨⟩, -⟩ :=
      tryCandidate_of_owes hj hbatch (room_of_not_full hroom) (hlt hslot) h htry
    -- the slots between have other hashes, and their rows do not match
    have hsearch := hnext.symm.trans (SlotTable.next?_of_holds htable hslot)
    rw [hhash] at hsearch
    obtain ⟨hrest, hfound⟩ := owes_of_search hbatch (hlt hslot) hsearch h'
    have hlater : j.hashes[later]? = some hash := by
      rw [hhash]
      exact hfound later rfl
    exact ih hlater hrest

end Job
end HashJoin
