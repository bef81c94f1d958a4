import HashJoin.Proofs.BuildSide.Filling
import HashJoin.Proofs.MatchLedger.Linking

/-!
# The build side in numbers

Whether a row can be inserted does not depend on what it holds. The numbers of buckets, of rows and of
rows that there is room for say when memory is reserved and how much, and the budget says whether it is
granted. So a build side can be filled in numbers alone, and the rows are refused where the numbers are.

## Main definitions

* `Tally` — the numbers of a build side and its budget.
* `Tally.makeRoom`, `Tally.addSlot`, `Tally.addRow`, `Tally.addBatch` — buckets, entries, rows, batches.
* `Tally.ofParts` — the numbers of a table and a ledger.

## Main results

* `addRows_ofParts`, `addBatch_ofParts` — **rows and batches are refused where the numbers are.**
-/

namespace HashJoin

/-- The numbers of a build side, and the memory of its join. -/
structure Tally where
  /-- Number of buckets. -/
  buckets : Nat
  /-- Number of rows. -/
  rows : Nat
  /-- The rows that the table has room for. -/
  entries : Nat
  /-- The rows that the ledger has room for. -/
  links : Nat
  /-- The memory of the join. -/
  budget : Budget

namespace Tally

/-- Reserves memory for some use. -/
def reserve (use : MemoryUse) (bytes : Nat) (t : Tally) : Except JoinError Tally :=
  match t.budget.reserve bytes with
  | .error refusal => .error (.ofRefusal use refusal)
  | .ok budget => .ok { t with budget := budget }

/-- No rows, in at least one bucket and at least the number of them that is asked for, rounded up to a
power of two. -/
def create (minBuckets : Nat) (budget : Budget) : Except JoinError Tally :=
  let buckets := (max minBuckets 1).nextPowerOfTwo
  match SlotTable.reserveBuckets buckets budget with
  | .error refused => .error (refused.toJoinError .table)
  | .ok budget => .ok ⟨buckets, 0, 0, 0, budget⟩

/-- Whether one more row is too much for the buckets. -/
def crowded (loadFactor : Binary64) (t : Tally) : Bool :=
  ((Binary.ofNat t.buckets).mul loadFactor).lt (.ofNat (t.rows + 1))

/-- Every doubling of the buckets leaves less to reserve. -/
theorem left_doubled {buckets : Nat} {budget granted : Budget} (hpos : buckets ≠ 0)
    (h : SlotTable.reserveBuckets (2 * buckets) budget = .ok granted) :
    (granted.release (SlotTable.bucketBytes * buckets)).limit -
      (granted.release (SlotTable.bucketBytes * buckets)).reserved < budget.limit - budget.reserved := by
  have grant := SlotTable.reserve_of_reserveBuckets h
  have fits := Budget.le_limit_reserve grant
  simp only [Budget.limit_release, Budget.reserved_release, Budget.limit_reserve grant,
    Budget.reserved_reserve grant, SlotTable.bucketBytes] at *
  omega

/-- Doubles the buckets until they take one more row. The new ones are reserved before the old ones are
given back. -/
def makeRoom (loadFactor : Binary64) (t : Tally) : Except JoinError Tally :=
  if empty : t.buckets = 0 then .ok t
  else if t.crowded loadFactor then
    match reservation : SlotTable.reserveBuckets (2 * t.buckets) t.budget with
    | .error refused => .error (refused.toJoinError .entry)
    | .ok granted =>
      have := left_doubled empty reservation
      makeRoom loadFactor { t with
        buckets := 2 * t.buckets
        budget := granted.release (SlotTable.bucketBytes * t.buckets) }
  else .ok t
  termination_by t.budget.limit - t.budget.reserved

section Doublings

variable {t : Tally} {loadFactor : Binary64}

theorem makeRoom_of_fits (h : t.crowded loadFactor = false) : t.makeRoom loadFactor = .ok t := by
  rw [makeRoom]
  split
  · rfl
  · rw [if_neg (by rw [h]; nofun)]

theorem makeRoom_of_refused {refused : TableError} (hpos : t.buckets ≠ 0)
    (hcrowded : t.crowded loadFactor = true)
    (h : SlotTable.reserveBuckets (2 * t.buckets) t.budget = .error refused) :
    t.makeRoom loadFactor = .error (refused.toJoinError .entry) := by
  rw [makeRoom, dif_neg hpos, if_pos hcrowded]
  split
  · next hres => cases h.symm.trans hres; rfl
  · next hres => cases h.symm.trans hres

theorem makeRoom_of_granted {granted : Budget} (hpos : t.buckets ≠ 0)
    (hcrowded : t.crowded loadFactor = true)
    (h : SlotTable.reserveBuckets (2 * t.buckets) t.budget = .ok granted) :
    t.makeRoom loadFactor = makeRoom loadFactor { t with
      buckets := 2 * t.buckets
      budget := granted.release (SlotTable.bucketBytes * t.buckets) } := by
  rw [makeRoom, dif_neg hpos, if_pos hcrowded]
  split
  · next hres => cases h.symm.trans hres
  · next hres => cases h.symm.trans hres; rfl

end Doublings

/-- Makes room for one more entry of the table. -/
def addEntry (t : Tally) : Except JoinError Tally :=
  if t.rows < t.entries then .ok t
  else
    let step := max t.entries SlotTable.minArenaStep
    (t.reserve .entry (SlotTable.entryBytes * step)).map fun t => { t with entries := t.entries + step }

/-- Makes room for one more row of the ledger. -/
def addLink (t : Tally) : Except JoinError Tally :=
  if t.rows < t.links then .ok t
  else
    let step := max t.links MatchLedger.minStep
    (t.reserve .link (MatchLedger.bytesFor step)).map fun t => { t with links := t.links + step }

/-- Makes room for one more slot, unless there are no more slots. -/
def addSlot (loadFactor : Binary64) (t : Tally) : Except JoinError Tally :=
  if SlotTable.maxSlots ≤ t.rows then .error (.unsupported .build (.tableFull t.rows))
  else t.makeRoom loadFactor >>= addEntry

/-- Adds a row. -/
def addRow (loadFactor : Binary64) (t : Tally) : Except JoinError Tally := do
  let t ← t.addSlot loadFactor
  let t ← t.addLink
  return { t with rows := t.rows + 1 }

/-- Adds some rows, one after the other. -/
def addRows (loadFactor : Binary64) : Nat → Tally → Except JoinError Tally
  | 0, t => .ok t
  | n + 1, t => t.addRow loadFactor >>= addRows loadFactor n

/-- Adds the rows of a batch, and then the batch. -/
def addBatch (loadFactor : Binary64) (b : Batch) (t : Tally) : Except JoinError Tally :=
  t.addRows loadFactor b.rowCount >>= reserve .batch b.memorySize

/-! ### Refusals -/

section Refusals

variable {loadFactor : Binary64}

/-- Memory is refused, or reserved for rows that stay as many as they are. -/
theorem reserve_cases (use : MemoryUse) (bytes : Nat) (t : Tally) :
    OutOfMemory (t.reserve use bytes) ∨ ∃ t', t.reserve use bytes = .ok t' ∧ t'.rows = t.rows := by
  rw [reserve]
  cases t.budget.reserve bytes with
  | error refusal => exact .inl (outOfMemory_ofRefusal use refusal)
  | ok granted => exact .inr ⟨_, rfl, rfl⟩

theorem map_cases {result : Except JoinError Tally} {rows : Nat} {f : Tally → Tally}
    (h : OutOfMemory result ∨ ∃ t, result = .ok t ∧ t.rows = rows) (hf : ∀ t, (f t).rows = t.rows) :
    OutOfMemory (result.map f) ∨ ∃ t, result.map f = .ok t ∧ t.rows = rows := by
  rcases h with ⟨use, requested, available, rfl⟩ | ⟨t, rfl, hrows⟩
  · exact .inl ⟨use, requested, available, rfl⟩
  · exact .inr ⟨f t, rfl, (hf t).trans hrows⟩

theorem makeRoom_cases (loadFactor : Binary64) (t : Tally) :
    OutOfMemory (t.makeRoom loadFactor) ∨
      ∃ t', t.makeRoom loadFactor = .ok t' ∧ t'.rows = t.rows := by
  fun_induction t.makeRoom loadFactor with
  | case1 t empty => exact .inr ⟨t, rfl, rfl⟩
  | case2 t hpos hcrowded refused hres =>
    obtain ⟨refusal, rfl⟩ := SlotTable.reserveBuckets_eq_error hres
    exact .inl (outOfMemory_ofRefusal .entry refusal)
  | case3 t hpos hcrowded granted hres _ ih => exact ih
  | case4 t hpos hfits => exact .inr ⟨t, rfl, rfl⟩

theorem addEntry_cases (t : Tally) :
    OutOfMemory t.addEntry ∨ ∃ t', t.addEntry = .ok t' ∧ t'.rows = t.rows := by
  unfold addEntry
  split
  · exact .inr ⟨t, rfl, rfl⟩
  · exact map_cases (reserve_cases _ _ t) fun _ => rfl

theorem addLink_cases (t : Tally) :
    OutOfMemory t.addLink ∨ ∃ t', t.addLink = .ok t' ∧ t'.rows = t.rows := by
  unfold addLink
  split
  · exact .inr ⟨t, rfl, rfl⟩
  · exact map_cases (reserve_cases _ _ t) fun _ => rfl

/-- A row is refused for want of memory, or because there is no slot for it. -/
theorem addRow_cases (loadFactor : Binary64) (t : Tally) :
    (∃ e, t.addRow loadFactor = .error e ∧ Loading.RowRefused (t.rows + 1) e) ∨
      ∃ t', t.addRow loadFactor = .ok t' ∧ t'.rows = t.rows + 1 := by
  rw [addRow, addSlot]
  split
  · next hfull => exact .inl ⟨_, rfl, .slots (Nat.lt_succ_of_le hfull) t.rows⟩
  · rcases makeRoom_cases loadFactor t with ⟨use, requested, available, hroom⟩ | ⟨roomy, hroom, hrows⟩
    · rw [hroom]
      exact .inl ⟨_, rfl, .memory use requested available⟩
    · rcases addEntry_cases roomy with ⟨use, requested, available, hentry⟩ | ⟨ready, hentry, hrows'⟩
      · rw [hroom]
        simp only [bind, Except.bind, hentry]
        exact .inl ⟨_, rfl, .memory use requested available⟩
      · rcases addLink_cases ready with ⟨use, requested, available, hlink⟩ | ⟨linked, hlink, hrows''⟩
        · rw [hroom]
          simp only [bind, Except.bind, hentry, hlink]
          exact .inl ⟨_, rfl, .memory use requested available⟩
        · rw [hroom]
          simp only [bind, Except.bind, hentry, hlink]
          refine .inr ⟨_, rfl, ?_⟩
          rw [hrows'', hrows', hrows]

theorem addRows_cases (loadFactor : Binary64) (n : Nat) (t : Tally) :
    (∃ e, t.addRows loadFactor n = .error e ∧ Loading.RowRefused (t.rows + n) e) ∨
      ∃ t', t.addRows loadFactor n = .ok t' ∧ t'.rows = t.rows + n := by
  induction n generalizing t with
  | zero => exact .inr ⟨t, rfl, rfl⟩
  | succ n ih =>
    rw [addRows]
    rcases addRow_cases loadFactor t with ⟨e, hrow, hrefused⟩ | ⟨t₁, hrow, hrows⟩
    · rw [hrow]
      refine .inl ⟨e, rfl, ?_⟩
      cases hrefused with
      | memory use requested available => exact .memory use requested available
      | slots h entries => exact .slots (by omega) entries
    · have hrest := ih t₁
      have hcount : t₁.rows + n = t.rows + (n + 1) := by omega
      rw [hcount] at hrest
      rw [hrow]
      exact hrest

/-- So is a batch. -/
theorem refused_of_addBatch {b : Batch} {t : Tally} {e : JoinError}
    (h : t.addBatch loadFactor b = .error e) : Loading.RowRefused (t.rows + b.rowCount) e := by
  rw [addBatch] at h
  rcases addRows_cases loadFactor b.rowCount t with ⟨e', hrows, hrefused⟩ | ⟨t₁, hrows, -⟩
  · rw [hrows] at h
    cases h
    exact hrefused
  · rw [hrows] at h
    rcases reserve_cases .batch b.memorySize t₁ with ⟨use, requested, available, hres⟩ | ⟨t₂, hres, -⟩
    · cases hres.symm.trans h
      exact .memory use requested available
    · cases hres.symm.trans h

end Refusals

/-! ### The numbers of a build side -/

/-- The numbers of a table and a ledger. -/
def ofParts (table : SlotTable) (ledger : MatchLedger) (budget : Budget) : Tally :=
  ⟨table.buckets, ledger.length, table.arenaCapacity, ledger.capacity, budget⟩

variable {table table' : SlotTable} {ledger ledger' : MatchLedger} {budget budget' : Budget}
  {hs : List UInt32}

theorem crowded_ofParts (h : table.Holds hs) (hledger : ledger.length = hs.length) (budget : Budget) :
    (ofParts table ledger budget).crowded table.loadFactor = table.exceeds (table.length + 1) := by
  rw [SlotTable.length_of_holds h, ← hledger]
  rfl

/-- The buckets are doubled in numbers as they are in the table. -/
theorem makeRoom_ofParts {result : Except TableError Unit} (h : table.Holds hs)
    (hledger : ledger.length = hs.length) (hroom : table.makeRoom budget = (result, table', budget')) :
    (ofParts table ledger budget).makeRoom table.loadFactor =
        (result.mapError (·.toJoinError .entry)).map (fun _ => ofParts table' ledger budget') ∧
      table'.loadFactor = table.loadFactor := by
  fun_induction table.makeRoom budget with
  | case1 table budget hzero => exact absurd hzero (Nat.ne_of_gt h.pos)
  | case2 table budget hpos hexceeds refused hres =>
    cases hroom
    have hcrowded := (crowded_ofParts h hledger budget).trans hexceeds
    exact ⟨makeRoom_of_refused hpos hcrowded hres, rfl⟩
  | case3 table budget hpos hexceeds granted hres _ ih =>
    have hcrowded := (crowded_ofParts h hledger budget).trans hexceeds
    have hdoubled := ih (SlotTable.holds_doubled h) hroom
    rw [makeRoom_of_granted hpos hcrowded hres]
    have hnumbers : ofParts table.doubled ledger (granted.release (SlotTable.bucketBytes * table.buckets)) =
        ⟨2 * table.buckets, ledger.length, table.arenaCapacity, ledger.capacity,
          granted.release (SlotTable.bucketBytes * table.buckets)⟩ := by
      rw [ofParts, SlotTable.buckets_doubled h.pos]
      rfl
    rw [hnumbers] at hdoubled
    exact hdoubled
  | case4 table budget hpos hfits =>
    cases hroom
    have hcrowded := (crowded_ofParts h hledger budget).trans (Bool.not_eq_true _ ▸ hfits)
    exact ⟨makeRoom_of_fits hcrowded, rfl⟩

/-- So is the room for entries. -/
theorem addEntry_ofParts {result : Except TableError Unit} (h : table.Holds hs)
    (hledger : ledger.length = hs.length) (hext : table.extendArena budget = (result, table', budget')) :
    (ofParts table ledger budget).addEntry =
        (result.mapError (·.toJoinError .entry)).map (fun _ => ofParts table' ledger budget') ∧
      table'.loadFactor = table.loadFactor := by
  have hlength : (ofParts table ledger budget).rows = table.length := by
    rw [SlotTable.length_of_holds h, ← hledger]
    rfl
  rcases SlotTable.extendArena_cases hext with ⟨hlt, rfl, rfl, rfl⟩ | ⟨hge, rfl, rfl, refusal, hres, rfl⟩ |
    ⟨hge, rfl, hres, rfl⟩
  · have hroom : (ofParts table' ledger budget').rows < (ofParts table' ledger budget').entries :=
      lt_of_eq_of_lt hlength hlt
    rw [addEntry, if_pos hroom]
    exact ⟨rfl, rfl⟩
  · have hfull : ¬(ofParts table' ledger budget').rows < (ofParts table' ledger budget').entries :=
      Nat.not_lt_of_le (le_of_le_of_eq hge hlength.symm)
    refine ⟨?_, rfl⟩
    rw [addEntry, if_neg hfull]
    simp only [reserve, ofParts, hres]
    rfl
  · have hfull : ¬(ofParts table ledger budget).rows < (ofParts table ledger budget).entries :=
      Nat.not_lt_of_le (le_of_le_of_eq hge hlength.symm)
    refine ⟨?_, rfl⟩
    rw [addEntry, if_neg hfull]
    simp only [reserve, ofParts, hres]
    rfl

/-- An insertion is refused in numbers as it is in the table. -/
theorem addSlot_ofParts {hash : UInt32} {result : Except TableError Nat} (h : table.Holds hs)
    (hledger : ledger.length = hs.length) (hins : table.insert hash budget = (result, table', budget')) :
    (ofParts table ledger budget).addSlot table.loadFactor =
        (result.mapError (·.toJoinError .entry)).map (fun _ => ofParts table' ledger budget') ∧
      table'.loadFactor = table.loadFactor := by
  have hlength : (ofParts table ledger budget).rows = table.length := by
    rw [SlotTable.length_of_holds h, ← hledger]
    rfl
  have hroomy := SlotTable.holds_makeRoom h budget
  rcases SlotTable.insert_cases hins with ⟨hfull, rfl, rfl, rfl⟩ | ⟨hfree, e, hroom, rfl⟩ |
    ⟨hfree, roomy, granted, hroom, e, hext, rfl⟩ | ⟨hfree, roomy, granted, hroom, ready, hext, rfl, rfl⟩
  · rw [addSlot, hlength, if_pos hfull]
    exact ⟨rfl, rfl⟩
  · obtain ⟨hmade, hfactor⟩ := makeRoom_ofParts h hledger hroom
    rw [addSlot, hlength, if_neg (Nat.not_le_of_lt hfree), hmade]
    exact ⟨rfl, hfactor⟩
  · obtain ⟨hmade, hfactor⟩ := makeRoom_ofParts h hledger hroom
    rw [hroom] at hroomy
    obtain ⟨hentry, hfactor'⟩ := addEntry_ofParts hroomy hledger hext
    rw [addSlot, hlength, if_neg (Nat.not_le_of_lt hfree), hmade]
    exact ⟨hentry, hfactor'.trans hfactor⟩
  · obtain ⟨hmade, hfactor⟩ := makeRoom_ofParts h hledger hroom
    rw [hroom] at hroomy
    obtain ⟨hentry, hfactor'⟩ := addEntry_ofParts hroomy hledger hext
    rw [addSlot, hlength, if_neg (Nat.not_le_of_lt hfree), hmade]
    refine ⟨hentry.trans ?_, hfactor'.trans hfactor⟩
    rw [ofParts, ofParts, SlotTable.buckets_append]
    rfl

/-- The slot is linked in numbers as it is in the ledger. -/
theorem addLink_ofParts {ref : RowRef} {result : Except JoinError Unit}
    (hlink : ledger.link ledger.length ref budget = (result, ledger', budget')) :
    ((ofParts table ledger budget).addLink.map fun t => { t with rows := t.rows + 1 }) =
        result.map fun _ => ofParts table ledger' budget' := by
  rcases MatchLedger.link_cases hlink with ⟨hslot, -⟩ | ⟨-, hge, rfl, rfl, refusal, hres, rfl⟩ |
    ⟨-, hlt, rfl, rfl, rfl⟩ | ⟨-, hge, rfl, rfl, hres⟩
  · exact absurd rfl hslot
  · have hfull : ¬(ofParts table ledger' budget').rows < (ofParts table ledger' budget').links :=
      Nat.not_lt_of_le hge
    rw [addLink, if_neg hfull]
    simp only [reserve, ofParts, hres]
    rfl
  · have hroom : (ofParts table ledger budget').rows < (ofParts table ledger budget').links := hlt
    rw [addLink, if_pos hroom]
    simp only [Except.map, ofParts, MatchLedger.length_append]
    rfl
  · have hfull : ¬(ofParts table ledger budget).rows < (ofParts table ledger budget).links :=
      Nat.not_lt_of_le hge
    rw [addLink, if_neg hfull]
    simp only [reserve, ofParts, hres, Except.map, MatchLedger.length_append]
    rfl

theorem addRow_ofParts {hash : UInt32} {slot : Nat} {ref : RowRef} {granted : Budget}
    {result : Except JoinError Unit} (h : table.Holds hs) (hledger : ledger.length = hs.length)
    (hins : table.insert hash budget = (.ok slot, table', granted))
    (hlink : ledger.link slot ref granted = (result, ledger', budget')) :
    (ofParts table ledger budget).addRow table.loadFactor =
      result.map fun _ => ofParts table' ledger' budget' := by
  obtain ⟨hslot, -⟩ := addSlot_ofParts h hledger hins
  rcases SlotTable.insert_of_holds h hins with ⟨_, herr, -⟩ | ⟨hok, -⟩
  · cases herr
  · cases hok
    rw [← hledger] at hlink
    rw [addRow, hslot]
    exact addLink_ofParts hlink

/-- **The rows of a batch are refused in numbers as they are in the build side.** -/
theorem addRows_ofParts {keys : JoinKeys} {batch : Batch} {index row : Nat}
    {result : Except JoinError Unit} (h : table.Holds hs) (hledger : ledger.length = hs.length)
    (hsize : batch.rowCount ≤ maxBatchRows)
    (hrows : Loading.insertRows keys batch index row table ledger budget =
      (result, table', ledger', budget')) :
    (ofParts table ledger budget).addRows table.loadFactor (batch.rowCount - row) =
        result.map (fun _ => ofParts table' ledger' budget') ∧
      (result = .ok () → table'.loadFactor = table.loadFactor) := by
  -- on the rows that are still to come, behind those that are in
  fun_induction Loading.insertRows keys batch index row table ledger budget generalizing hs with
  | case1 row table ledger budget hrow e table₁ budget₁ hins =>
    cases hrows
    obtain ⟨hslot, -⟩ := addSlot_ofParts h hledger hins
    have hmore : batch.rowCount - row = batch.rowCount - (row + 1) + 1 := by omega
    rw [hmore, addRows, addRow, hslot]
    exact ⟨rfl, by rintro ⟨⟩⟩
  | case2 row table ledger budget hrow slot table₁ budget₁ hins href =>
    rw [RowRef.of?, dif_pos (Nat.lt_of_lt_of_le hrow hsize)] at href
    cases href
  | case3 row table ledger budget hrow slot table₁ budget₁ hins ref href e ledger₁ budget₂ hlink =>
    cases hrows
    have hadd := addRow_ofParts h hledger hins hlink
    have hmore : batch.rowCount - row = batch.rowCount - (row + 1) + 1 := by omega
    rw [hmore, addRows, hadd]
    exact ⟨rfl, by rintro ⟨⟩⟩
  | case4 row table ledger budget hrow slot table₁ budget₁ hins ref href ledger₁ budget₂ hlink ih =>
    have hadd := addRow_ofParts h hledger hins hlink
    obtain ⟨-, hfactor⟩ := addSlot_ofParts h hledger hins
    have hmore : batch.rowCount - row = batch.rowCount - (row + 1) + 1 := by omega
    rcases SlotTable.insert_of_holds h hins with ⟨_, herr, -⟩ | ⟨hok, h₁⟩
    · cases herr
    · have hledger₁ : ledger₁.length = (hs ++ [keys.hashBuild batch row]).length := by
        rw [MatchLedger.length_of_link hlink, hledger, List.length_append]
        rfl
      obtain ⟨hrest, hfactor'⟩ := ih h₁ hledger₁ hrows
      rw [hfactor] at hrest
      rw [hmore, addRows, hadd]
      exact ⟨hrest, fun hok => (hfactor' hok).trans hfactor⟩
  | case5 row table ledger budget hrow =>
    cases hrows
    have hdone : batch.rowCount - row = 0 := by omega
    rw [hdone]
    exact ⟨rfl, fun _ => rfl⟩

/-- **So is the batch.** -/
theorem addBatch_ofParts {keys : JoinKeys} {batch : Batch} {l l' : Loading}
    {result : Except JoinError Unit} (h : table.Holds hs) (hledger : l.ledger.length = hs.length)
    (hinspect : l.store.inspect batch = .ok ()) (hindex : l.store.nextIndex < BuildStore.maxBatches)
    (hins : l.insertBatch table keys batch = (result, l')) :
    (∃ e, result = .error e ∧
        (ofParts table l.ledger l.budget).addBatch table.loadFactor batch = .error e) ∨
      (result = .ok () ∧ ∃ table', l'.table = some (table', keys) ∧
        table'.loadFactor = table.loadFactor ∧
        (ofParts table l.ledger l.budget).addBatch table.loadFactor batch =
          .ok (ofParts table' l'.ledger l'.budget)) := by
  obtain ⟨-, hsize, -⟩ := BuildStore.inspect_eq_ok_iff.mp hinspect
  have hrows : ∀ {r t lg b}, Loading.insertRows keys batch l.store.nextIndex 0 table l.ledger l.budget =
      (r, t, lg, b) → _ := fun hrun => addRows_ofParts h hledger hsize hrun
  cases Loading.inserting_of_insertBatch hins with
  | refused hrun =>
    obtain ⟨hadded, -⟩ := hrows hrun
    refine .inl ⟨_, rfl, ?_⟩
    rw [Nat.sub_zero] at hadded
    rw [addBatch, hadded]
    rfl
  | @unstored e table' ledger budget hrun habsorb =>
    obtain ⟨hadded, -⟩ := hrows hrun
    refine .inl ⟨e, rfl, ?_⟩
    rw [Nat.sub_zero] at hadded
    rw [BuildStore.absorb_eq hinspect hindex] at habsorb
    rw [addBatch, hadded]
    cases hres : budget.reserve batch.memorySize with
    | error refusal =>
      rw [hres] at habsorb
      cases habsorb
      simp only [Except.map, bind, Except.bind, reserve, ofParts, hres]
    | ok granted =>
      rw [hres] at habsorb
      cases habsorb
  | stored hrun habsorb =>
    obtain ⟨hadded, hfactor⟩ := hrows hrun
    obtain ⟨-, -, hres, -, rfl⟩ := BuildStore.absorb_eq_ok_iff.mp habsorb
    refine .inr ⟨rfl, _, rfl, hfactor rfl, ?_⟩
    rw [Nat.sub_zero] at hadded
    rw [addBatch, hadded]
    simp only [Except.map, bind, Except.bind, reserve, ofParts, hres]

/-- A table is created in numbers as it is. -/
theorem create_ofParts (minBuckets : Nat) (loadFactor : Binary64) (budget : Budget) :
    create minBuckets budget =
      ((SlotTable.create minBuckets loadFactor budget).mapError (·.toJoinError .table)).map
        fun made => ofParts made.1 .empty made.2 := by
  simp only [create, SlotTable.create, bind, Except.bind]
  cases SlotTable.reserveBuckets (max minBuckets 1).nextPowerOfTwo budget with
  | error refused => rfl
  | ok granted =>
    have hsize : (Chains.empty (max minBuckets 1).nextPowerOfTwo).heads.size =
        (max minBuckets 1).nextPowerOfTwo := Array.size_replicate
    show Except.ok (⟨(max minBuckets 1).nextPowerOfTwo, 0, 0, 0, granted⟩ : Tally) =
      .ok ⟨(Chains.empty (max minBuckets 1).nextPowerOfTwo).heads.size, 0, 0, 0, granted⟩
    rw [hsize]

end Tally
end HashJoin
