import HashJoin.Proofs.BuildSide.Filling
import Mathlib.Data.List.Induction
import Mathlib.Data.List.Nodup

/-!
# The alignment of the build side

The slots of the table, the references of the ledger and the rows of the store are numbered by three
parts on their own, and a row is inserted and linked before its batch is stored. At the end of every
batch the three agree all the same: the slots run through the rows of the stored batches in order, each
row has one slot, and the table has the hash of the row there.

## Main definitions

* `RowRef.place`, `places` — the place that a reference names, and the places of all stored rows.
* `BuildSide.Aligned` — the three parts agree on the rows of some batches.
* `Loading.Placed` — the slots stand for the places of the stored rows, in order.
* `Loading.Reached` — the state of the build phase behind some batches of its loop.

## Main results

* `placed_accept` — one more batch keeps the slots in step with the places.
* `aligned_of_took` — a build side that has taken in some batches is aligned.
* `drain_of_reached` — the states that are reached are those that the loop goes through.
* `aligned_of_fill` — so is the build side that the build phase leaves.
-/

namespace HashJoin

/-! ### Places -/

/-- The batch and the row that a reference names. -/
def RowRef.place (ref : RowRef) : Nat × Nat := (ref.batch, ref.row)

/-- The places of the rows of some batches: the number of the batch, and the row in it. -/
def places (batches : List Batch) : List (Nat × Nat) :=
  batches.zipIdx.flatMap fun (b, index) => (List.range b.rowCount).map (index, ·)

theorem places_concat (batches : List Batch) (b : Batch) :
    places (batches ++ [b]) = places batches ++ (List.range b.rowCount).map (batches.length, ·) := by
  simp [places, List.zipIdx_append]

theorem mem_places {batches : List Batch} {index row : Nat} :
    (index, row) ∈ places batches ↔ ∃ b, batches[index]? = some b ∧ row < b.rowCount := by
  simp only [places, List.mem_flatMap, List.mem_map, List.mem_range, Prod.mk.injEq, Prod.exists,
    List.mk_mem_zipIdx_iff_getElem?]
  constructor
  · rintro ⟨b, _, hb, _, hrow, rfl, rfl⟩
    exact ⟨b, hb, hrow⟩
  · rintro ⟨b, hb, hrow⟩
    exact ⟨b, index, hb, row, hrow, rfl, rfl⟩

/-- No place is named twice. -/
theorem nodup_places (batches : List Batch) : (places batches).Nodup := by
  induction batches using List.reverseRecOn with
  | nil => exact List.nodup_nil
  | append_singleton batches b ih =>
    rw [places_concat]
    refine List.nodup_append'.mpr ⟨ih, ?_, ?_⟩
    · apply List.nodup_range.map
      intro row row' h
      exact congrArg Prod.snd h
    · -- the batches before have smaller numbers
      intro place hold hnew
      obtain ⟨row, -, rfl⟩ := List.mem_map.mp hnew
      obtain ⟨b', hb', -⟩ := mem_places.mp hold
      exact absurd (List.getElem?_eq_some_iff.mp hb').1 (Nat.lt_irrefl _)

/-! ### What is aligned -/

/-- The table, the ledger and the store of a build side agree on the rows of the batches taken so far.
The hashes are those of the keys, once there are rows. -/
structure BuildSide.Aligned (s : BuildSide) (keys : Option JoinKeys) (taken : List Batch) : Prop where
  /-- The table has a slot for each row, and is lacking as long as there are no rows. -/
  table : (s.table.map SlotTable.length).getD 0 = (streamRows taken).length
  /-- The ledger has a slot for each row. -/
  ledger : s.ledger.length = (streamRows taken).length
  /-- The rows are counted. -/
  rowCount : s.store.rowCount = (streamRows taken).length
  /-- The batches with rows are stored, in order. -/
  batches : s.store.batches.toList = taken.filter fun b => decide (b.rowCount ≠ 0)
  /-- A slot leads to its row, and its hash is that of the row. -/
  row : ∀ slot r, (streamRows taken)[slot]? = some r → ∃ ref t k,
    s.ledger.rowRef? slot = some ref ∧ s.store.row ref = .ok r ∧ s.table = some t ∧ keys = some k ∧
      (t.chains.entries[slot]?).map Entry.hash = some (k.hashBuild r.1 r.2)
  /-- Two slots do not lead to one row. -/
  distinct : ∀ slot other ref ref', s.ledger.rowRef? slot = some ref →
    s.ledger.rowRef? other = some ref' → ref.place = ref'.place → slot = other
  /-- Each row of a stored batch has a slot. -/
  every : ∀ index b row, s.store.batch? index = some b → row < b.rowCount →
    ∃ slot ref, s.ledger.rowRef? slot = some ref ∧ ref.place = (index, row)
  /-- Slots are numbers of 32 bits, and the last of these is none of them. -/
  slots : (streamRows taken).length ≤ SlotTable.maxSlots
  /-- The number of the next batch is one of 32 bits. -/
  indexes : s.store.nextIndex < UInt32.size

/-- Marks do not disturb what is aligned. -/
theorem BuildSide.Aligned.congr {s : BuildSide} {keys : Option JoinKeys} {taken : List Batch}
    (h : s.Aligned keys taken) {ledger : MatchLedger} (hlinks : ledger.links = s.ledger.links) :
    BuildSide.Aligned ⟨s.table, ledger, s.store⟩ keys taken := by
  have href : ∀ slot, ledger.rowRef? slot = s.ledger.rowRef? slot := by
    intro slot
    rw [MatchLedger.rowRef?, hlinks]
    rfl
  have hlength : ledger.length = s.ledger.length := by
    rw [MatchLedger.length, hlinks]
    rfl
  refine ⟨h.table, hlength.trans h.ledger, h.rowCount, h.batches, ?_, ?_, ?_, h.slots, h.indexes⟩
  · intro slot r hr
    rw [href]
    exact h.row slot r hr
  · intro slot other ref ref'
    rw [href, href]
    exact h.distinct slot other ref ref'
  · intro index b row hb hrow
    obtain ⟨slot, ref, hslot, hplace⟩ := h.every index b row hb hrow
    exact ⟨slot, ref, by rw [href]; exact hslot, hplace⟩

namespace Loading

/-! ### Batches -/

section Batches

variable {config : Config} {probeSchema : Option Schema} {keys : JoinKeys} {l l' : Loading}
  {taken : List Batch} {batch : Batch}

/-- The slots stand for the places of the stored rows in order, and the batches that have rows are
stored. -/
structure Placed (l : Loading) (taken : List Batch) : Prop where
  /-- The batches with rows are stored. -/
  batches : l.store.batches.toList = taken.filter fun b => decide (b.rowCount ≠ 0)
  /-- The slots stand for the places. -/
  places : l.ledger.links.toList.map RowRef.place = places l.store.batches.toList

theorem place_of_of? {index row : Nat} {ref : RowRef} (h : RowRef.of? index row = some ref) :
    ref.place = (index, row) := by
  unfold RowRef.of? at h
  split at h
  · cases h
    rfl
  · cases h

/-- The rows of a batch are linked to their places, one by one. -/
theorem links_of_insertRows {index row : Nat} {table table' : SlotTable}
    {ledger ledger' : MatchLedger} {budget budget' : Budget}
    (h : insertRows keys batch index row table ledger budget =
      (.ok (), table', ledger', budget')) :
    ledger'.links.toList.map RowRef.place = ledger.links.toList.map RowRef.place ++
      (List.range' row (batch.rowCount - row)).map (index, ·) := by
  fun_induction insertRows keys batch index row table ledger budget with
  | case1 => cases h
  | case2 => cases h
  | case3 => cases h
  | case4 row table ledger budget hrow slot table₁ budget₁ hins ref href ledger₁ budget₂ hlink ih =>
    have hleft : batch.rowCount - row = batch.rowCount - (row + 1) + 1 := by omega
    have hadded : ledger₁.links = ledger.links.push ref := by
      rcases MatchLedger.link_cases hlink with ⟨-, herr, -⟩ | ⟨-, -, -, -, _, -, herr⟩ |
        ⟨-, -, -, rfl, -⟩ | ⟨-, -, -, rfl, -⟩
      · cases herr
      · cases herr
      · exact MatchLedger.links_append ledger ref
      · exact MatchLedger.links_append ledger.extended ref
    rw [ih h, hadded, hleft, List.range'_succ]
    simp [place_of_of? href]
  | case5 row table ledger budget hrow =>
    cases h
    have hnone : batch.rowCount - row = 0 := by omega
    rw [hnone]
    simp

theorem batches_noteSchema {store store' : BuildStore} (h : noteSchema store batch = .ok store') :
    store'.batches = store.batches := by
  simp only [noteSchema, BuildStore.captureSchema] at h
  split at h
  · cases h
    rfl
  · split at h
    · cases h
      rfl
    · cases h

/-- A batch with rows is stored behind the others, and its rows are linked to its places. -/
theorem placed_insertBatch {table : SlotTable} (h : l.Placed taken) (hrows : batch.rowCount ≠ 0)
    (hins : l.insertBatch table keys batch = (.ok (), l')) : l'.Placed (taken ++ [batch]) := by
  cases inserting_of_insertBatch hins with
  | stored hrun habsorb =>
    obtain ⟨-, -, -, -, rfl⟩ := BuildStore.absorb_eq_ok_iff.mp habsorb
    have hstored : (l.store.push batch).batches.toList = l.store.batches.toList ++ [batch] :=
      Array.toList_push
    refine ⟨?_, ?_⟩
    · rw [List.filter_append, ← h.batches]
      simp [hstored, hrows]
    · show List.map RowRef.place _ = HashJoin.places (l.store.push batch).batches.toList
      rw [links_of_insertRows hrun, h.places, hstored, places_concat, Nat.sub_zero,
        ← List.range_eq_range']
      rfl

/-- One more batch keeps the slots in step with the places. -/
theorem placed_accept (h : l.Placed taken)
    (hacc : l.accept config probeSchema batch = (.ok (), l')) : l'.Placed (taken ++ [batch]) := by
  have hnoted : ∀ {store : BuildStore} (budget : Budget), noteSchema l.store batch = .ok store →
      Placed { l with store := store, budget := budget } taken := by
    intro store budget hnote
    have hsame := batches_noteSchema hnote
    exact ⟨by rw [hsame]; exact h.batches, by rw [hsame]; exact h.places⟩
  cases accepting_of_accept hacc with
  | empty hnote hrows =>
    obtain ⟨hbatches, hplaces⟩ := hnoted l.budget hnote
    refine ⟨?_, hplaces⟩
    rw [List.filter_append, hbatches]
    simp [hrows]
  | first hnote hrows _ _ _ hinsert => exact placed_insertBatch (hnoted _ hnote) hrows hinsert
  | further hnote hrows _ _ hinsert =>
    exact placed_insertBatch (hnoted l.budget hnote) hrows hinsert

theorem placed_nil (budget : Budget) (metrics : Metrics) :
    Placed ⟨none, .empty, .empty, budget, metrics⟩ [] := ⟨rfl, rfl⟩

/-- A build side that has taken in some batches is aligned. -/
theorem aligned_of_took (h : l.Took config probeSchema taken) (hplaced : l.Placed taken) :
    l.side.Aligned (l.table.map Prod.snd) taken := by
  have hmap : l.ledger.links.toList.map RowRef.place = places l.store.batches.toList := hplaced.places
  have hplace : ∀ slot ref, l.ledger.rowRef? slot = some ref →
      (places l.store.batches.toList)[slot]? = some ref.place := by
    intro slot ref href
    rw [← hmap, List.getElem?_map, Array.getElem?_toList, ← MatchLedger.rowRef?, href]
    rfl
  constructor
  · cases htable : l.table with
    | none => simp [side, htable, h.bare.mp htable]
    | some made =>
      obtain ⟨hholds, -⟩ := h.table made.1 made.2 htable
      simp [side, htable, SlotTable.length_of_holds hholds]
  · exact h.serves.length
  · exact h.rowCount
  · exact hplaced.batches
  · intro slot r hr
    have hrow := h.serves.row slot r hr
    cases htable : l.table with
    | none =>
      rw [h.bare.mp htable] at hr
      cases hr
    | some made =>
      obtain ⟨t, k⟩ := made
      obtain ⟨hholds, -⟩ := h.table t k htable
      unfold BuildStore.slotRow at hrow
      split at hrow
      · cases hrow
      · next ref href =>
        refine ⟨ref, t, k, href, hrow, by rw [side, htable]; rfl, rfl, ?_⟩
        rw [← Chains.getElem?_hashes, hholds.linked.hashes, List.getElem?_map, hr]
        rfl
  · intro slot other ref ref' href href' hsame
    have hslot := hplace slot ref href
    have hother := hplace other ref' href'
    rw [← hsame, ← hslot] at hother
    exact (List.getElem?_inj (List.getElem?_eq_some_iff.mp hslot).1
      (nodup_places l.store.batches.toList)).mp hother.symm
  · intro index b row hb hrow
    have hmem : (index, row) ∈ places l.store.batches.toList := by
      rw [mem_places]
      exact ⟨b, by rw [Array.getElem?_toList]; exact hb, hrow⟩
    rw [← hmap] at hmem
    obtain ⟨ref, href, hplace⟩ := List.mem_map.mp hmem
    obtain ⟨slot, hslot⟩ := List.getElem?_of_mem href
    rw [Array.getElem?_toList] at hslot
    exact ⟨slot, ref, hslot, hplace⟩
  · exact h.slots
  · exact nextIndex_lt_of_took h

end Batches

/-! ### The loop -/

section Loop

variable {config : Config} {probeSchema : Option Schema} {σ : Type} [BatchSource σ]
  {source source' : σ} {l l' : Loading} {taken more : List Batch}

/-- The state of the build phase behind some batches of its loop: what the source is then, and the build
side. -/
inductive Reached (config : Config) (probeSchema : Option Schema) (source : σ) (l : Loading) :
    List Batch → σ → Loading → Prop
  /-- Before the first batch. -/
  | start : Reached config probeSchema source l [] source l
  /-- Behind one more batch. -/
  | batch {taken : List Batch} {b : Batch} {source₁ source₂ : σ} {l₁ l₂ : Loading}
      (h : Reached config probeSchema source l taken source₁ l₁)
      (hpull : BatchSource.pull .build source₁ = (.ok (some b), source₂))
      (haccept : l₁.accept config probeSchema b = (.ok (), l₂)) :
      Reached config probeSchema source l (taken ++ [b]) source₂ l₂

/-- The loop goes through the states that are reached: behind each of them it goes on as from there. -/
theorem drain_of_reached (h : Reached config probeSchema source l taken source' l') :
    l.drain config probeSchema source = l'.drain config probeSchema source' := by
  induction h with
  | start => rfl
  | batch _ hpull haccept ih =>
    rw [ih, drain_eq, hpull]
    simp only [haccept]

theorem Reached.cons {b : Batch} {source₁ : σ} {l₁ : Loading}
    (hpull : BatchSource.pull .build source = (.ok (some b), source₁))
    (haccept : l.accept config probeSchema b = (.ok (), l₁))
    (h : Reached config probeSchema source₁ l₁ taken source' l') :
    Reached config probeSchema source l (b :: taken) source' l' := by
  induction h with
  | start => exact .batch .start hpull haccept
  | batch _ hpull' haccept' ih => exact .batch ih hpull' haccept'

/-- When the loop comes to its end, it has reached the state behind all batches of the source. -/
theorem reached_of_drain {ending : Option JoinError} {final : σ}
    (hdelivers : Delivers .build source taken ending final)
    (hdrain : l.drain config probeSchema source = (.ok (), source', l')) :
    ending = none ∧ ∃ last, Reached config probeSchema source l taken last l' := by
  -- on the batches of the source
  induction hdelivers generalizing l with
  | ended hpull =>
    rw [drain_eq, hpull] at hdrain
    cases hdrain
    exact ⟨rfl, _, .start⟩
  | broken hpull =>
    rw [drain_eq, hpull] at hdrain
    cases hdrain
  | batch hpull _ ih =>
    rw [drain_eq, hpull] at hdrain
    simp only at hdrain
    split at hdrain
    · cases hdrain
    · next l₁ haccept =>
      obtain ⟨hending, last, hreached⟩ := ih hdrain
      exact ⟨hending, last, hreached.cons hpull haccept⟩

/-- The loop keeps the slots in step with the places. -/
theorem placed_of_reached {before : List Batch} (htook : l.Took config probeSchema before)
    (hplaced : l.Placed before) (h : Reached config probeSchema source l taken source' l') :
    l'.Took config probeSchema (before ++ taken) ∧ l'.Placed (before ++ taken) := by
  induction h with
  | start =>
    rw [List.append_nil]
    exact ⟨htook, hplaced⟩
  | batch _ _ haccept ih =>
    obtain ⟨htook₁, hplaced₁⟩ := ih
    rw [← List.append_assoc]
    rcases took_accept htook₁ haccept with ⟨_, herr, -⟩ | ⟨-, htook₂⟩
    · cases herr
    · exact ⟨htook₂, placed_accept hplaced₁ haccept⟩

/-- The batch that was pulled in advance is the first to be taken in. -/
theorem placed_acceptFirst {first : Option Batch} {budget : Budget} {metrics : Metrics}
    (h : acceptFirst config probeSchema ⟨none, .empty, .empty, budget, metrics⟩ first = (.ok (), l)) :
    l.Took config probeSchema first.toList ∧ l.Placed first.toList := by
  rcases took_acceptFirst h with ⟨_, _, _, herr, -⟩ | ⟨-, htook⟩
  · cases herr
  · refine ⟨htook, ?_⟩
    cases first with
    | none =>
      cases h
      exact placed_nil budget metrics
    | some batch => exact placed_accept (placed_nil budget metrics) h

omit [BatchSource σ] in
/-- The end of the build phase settles the schema, and the keys are those of the table. -/
theorem finish_eq_ok {declared : Option Schema} {keys : JoinKeys}
    (h : l.finish config declared probeSchema = (.ok keys, l')) :
    l' = { l with store := { l.store with schema := l.store.schema.or declared } } ∧
      ∀ k, l.table.map Prod.snd = some k → k = keys := by
  simp only [finish] at h
  split at h
  · next table k htable =>
    cases h
    refine ⟨rfl, ?_⟩
    intro k' hk'
    rw [htable] at hk'
    exact (Option.some.inj hk').symm
  · next htable =>
    obtain ⟨-, rfl⟩ := Prod.mk.inj h
    refine ⟨rfl, ?_⟩
    intro k hk
    rw [htable] at hk
    cases hk

/-- When the build phase ends well, the build side is aligned by the keys that it yields. -/
theorem aligned_of_fill {rest : List Batch} {first : Option Batch} {ending : Option JoinError}
    {final : σ} {budget : Budget} {metrics : Metrics} {keys : JoinKeys}
    (hdelivers : Delivers .build source rest ending final)
    (hfill : fill config probeSchema first source ⟨none, .empty, .empty, budget, metrics⟩ =
      (.ok keys, source', l')) :
    ending = none ∧ l'.side.Aligned (some keys) (first.toList ++ rest) := by
  cases fills_of_fill hfill with
  | @finished _ l₁ l₂ _ _ hfirst hdrain hfinish =>
    obtain ⟨htook₁, hplaced₁⟩ := placed_acceptFirst hfirst
    obtain ⟨hending, last, hreached⟩ := reached_of_drain hdelivers hdrain
    obtain ⟨htook, hplaced⟩ := placed_of_reached htook₁ hplaced₁ hreached
    have haligned := aligned_of_took htook hplaced
    refine ⟨hending, ?_⟩
    obtain ⟨rfl, hkeys⟩ := finish_eq_ok hfinish
    refine ⟨haligned.table, haligned.ledger, haligned.rowCount, haligned.batches, ?_,
      haligned.distinct, haligned.every, haligned.slots, haligned.indexes⟩
    intro slot r hr
    obtain ⟨ref, t, k, href, hrow, ht, hk, hhash⟩ := haligned.row slot r hr
    rw [hkeys k hk] at hhash
    exact ⟨ref, t, keys, href, hrow, ht, rfl, hhash⟩

end Loop

end Loading
end HashJoin
