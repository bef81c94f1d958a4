import HashJoin.Proofs.BuildSide.Steps
import HashJoin.Proofs.Memory.Parts

/-!
# The bytes of the build phase

The account holds at every point at which filling the build side can stop: when a row could not be
inserted, when a row was inserted and not linked, when a batch was inserted and not stored, and when
all batches are in.

## Main definitions

* `Loading.Balanced` — the budget is exact for the parts that have been filled.

## Main results

* `balanced_insertRows`, `balanced_accept`, `balanced_fill` — rows, batches and the whole phase.
-/

namespace HashJoin
namespace Loading

/-- The budget is exact for the parts, and the table for its buckets and entries. -/
structure Balanced (l : Loading) (limit : Nat) : Prop where
  /-- What is reserved is what the parts hold. -/
  exact : l.budget.Exact limit l.side.reservedBytes
  /-- The bytes of the table. -/
  table : ∀ t keys, l.table = some (t, keys) → t.Accounted

variable {keys : JoinKeys} {batch : Batch} {limit : Nat}

/-- Rows keep the account, also when one is refused, or is inserted and then not linked. -/
theorem balanced_insertRows {index row rest : Nat} {table table' : SlotTable}
    {ledger ledger' : MatchLedger} {budget budget' : Budget} {result : Except JoinError Unit}
    (hacc : table.Accounted)
    (h : budget.Exact limit (rest + table.reservedBytes + ledger.reservedBytes))
    (hrows : insertRows keys batch index row table ledger budget =
      (result, table', ledger', budget')) :
    table'.Accounted ∧
      budget'.Exact limit (rest + table'.reservedBytes + ledger'.reservedBytes) := by
  fun_induction insertRows keys batch index row table ledger budget with
  | case1 row table ledger budget _ e table₁ budget₁ hins =>
    -- the insertion is refused, perhaps after some doublings
    cases hrows
    rw [Nat.add_right_comm] at h ⊢
    exact SlotTable.exact_insert hacc h hins
  | case2 row table ledger budget _ slot table₁ budget₁ hins =>
    cases hrows
    rw [Nat.add_right_comm] at h ⊢
    exact SlotTable.exact_insert hacc h hins
  | case3 row table ledger budget _ slot table₁ budget₁ hins ref _ e ledger₁ budget₂ hlink =>
    -- the row is inserted and then not linked
    cases hrows
    rw [Nat.add_right_comm] at h
    obtain ⟨hacc₁, h₁⟩ := SlotTable.exact_insert hacc h hins
    rw [Nat.add_right_comm] at h₁
    exact ⟨hacc₁, MatchLedger.exact_link h₁ hlink⟩
  | case4 row table ledger budget _ slot table₁ budget₁ hins ref _ ledger₁ budget₂ hlink ih =>
    rw [Nat.add_right_comm] at h
    obtain ⟨hacc₁, h₁⟩ := SlotTable.exact_insert hacc h hins
    rw [Nat.add_right_comm] at h₁
    exact ih hacc₁ (MatchLedger.exact_link h₁ hlink) hrows
  | case5 =>
    cases hrows
    exact ⟨hacc, h⟩

theorem reservedBytes_side (l : Loading) :
    l.side.reservedBytes = (l.table.map fun p => p.1.reservedBytes).getD 0 +
      l.ledger.reservedBytes + l.store.reservedBytes := by
  simp [side, BuildSide.reservedBytes, Option.map_map, Function.comp_def]

theorem Balanced.of_table {l : Loading} {table : SlotTable}
    (htable : l.table = some (table, keys)) (hacc : table.Accounted) (h : l.budget.Exact limit
      (l.store.reservedBytes + table.reservedBytes + l.ledger.reservedBytes)) :
    l.Balanced limit := by
  refine ⟨?_, ?_⟩
  · rw [reservedBytes_side, htable]
    have : l.store.reservedBytes + table.reservedBytes + l.ledger.reservedBytes =
        table.reservedBytes + l.ledger.reservedBytes + l.store.reservedBytes := by omega
    rw [this] at h
    exact h
  · intro t keys' e
    rw [htable] at e
    cases e
    exact hacc

/-- A batch keeps the account, also when its rows are in and the batch itself is then refused. -/
theorem balanced_insertBatch {l l' : Loading} {table : SlotTable} {result : Except JoinError Unit}
    (hacc : table.Accounted) (h : l.budget.Exact limit
      (l.store.reservedBytes + table.reservedBytes + l.ledger.reservedBytes))
    (hins : l.insertBatch table keys batch = (result, l')) : l'.Balanced limit := by
  cases inserting_of_insertBatch hins with
  | refused hrows =>
    obtain ⟨hacc₁, h₁⟩ := balanced_insertRows hacc h hrows
    exact .of_table rfl hacc₁ h₁
  | unstored hrows habsorb =>
    obtain ⟨hacc₁, h₁⟩ := balanced_insertRows hacc h hrows
    exact .of_table rfl hacc₁ h₁
  | stored hrows habsorb =>
    obtain ⟨hacc₁, h₁⟩ := balanced_insertRows hacc h hrows
    -- the store is the part that grows, and the others are the rest
    rw [Nat.add_assoc, Nat.add_comm] at h₁
    have h₂ := BuildStore.exact_absorb h₁ habsorb
    rw [Nat.add_comm, ← Nat.add_assoc] at h₂
    exact .of_table rfl hacc₁ h₂

theorem reservedBytes_noteSchema {store store' : BuildStore}
    (h : noteSchema store batch = .ok store') : store'.reservedBytes = store.reservedBytes := by
  simp only [noteSchema, BuildStore.captureSchema] at h
  split at h
  · cases h
    rfl
  · split at h
    · cases h
      rfl
    · cases h

variable {config : Config} {probeSchema : Option Schema} {l l' : Loading}

/-- Another store that holds as many bytes does not disturb the account. -/
theorem Balanced.with_store {store : BuildStore} (h : l.Balanced limit)
    (hbytes : store.reservedBytes = l.store.reservedBytes) :
    Balanced { l with store := store } limit := by
  refine ⟨?_, h.table⟩
  have hexact := h.exact
  rw [reservedBytes_side, ← hbytes] at hexact
  rw [reservedBytes_side]
  exact hexact

theorem balanced_accept {result : Except JoinError Unit} (h : l.Balanced limit)
    (hacc : l.accept config probeSchema batch = (result, l')) : l'.Balanced limit := by
  cases accepting_of_accept hacc with
  | unnoted hnote => exact h
  | empty hnote hrows => exact h.with_store (reservedBytes_noteSchema hnote)
  | rejected hnote hrows hinspect => exact h.with_store (reservedBytes_noteSchema hnote)
  | unopened hnote hrows hinspect htable hopen =>
    exact h.with_store (reservedBytes_noteSchema hnote)
  | @first store table keys budget _ _ hnote hrows hinspect htable hopen hinsert =>
    -- the table is created first, when the other parts hold the sum
    have hside := (h.with_store (reservedBytes_noteSchema hnote)).exact
    rw [reservedBytes_side] at hside
    simp only [htable] at hside
    obtain ⟨hacc', h'⟩ := SlotTable.exact_create hside (openTable_eq_ok hopen).2
    refine balanced_insertBatch hacc' ?_ hinsert
    have : store.reservedBytes + table.reservedBytes + l.ledger.reservedBytes =
      (0 + l.ledger.reservedBytes + store.reservedBytes) + table.reservedBytes := by omega
    rw [this]
    exact h'
  | @further store table keys _ _ hnote hrows hinspect htable hinsert =>
    -- the table is there already, and is taken out of the sum
    have hside := (h.with_store (reservedBytes_noteSchema hnote)).exact
    rw [reservedBytes_side] at hside
    simp only [htable] at hside
    refine balanced_insertBatch (h.table table keys htable) ?_ hinsert
    have : store.reservedBytes + table.reservedBytes + l.ledger.reservedBytes =
      table.reservedBytes + l.ledger.reservedBytes + store.reservedBytes := by omega
    rw [this]
    exact hside

/-! ### The whole phase -/

section Phase

variable {σ : Type} [BatchSource σ] {source source' : σ}

/-- The batches of a source keep the account, however many are taken in before one is refused. -/
theorem balanced_drain {result : Except JoinError Unit} (h : l.Balanced limit)
    (hdrain : l.drain config probeSchema source = (result, source', l')) : l'.Balanced limit := by
  fun_induction drain config probeSchema source l with
  | case1 source l e rest hpull =>
    cases hdrain
    exact h
  | case2 source l rest hpull =>
    cases hdrain
    exact h
  | case3 source l batch rest hpull _ e l₁ hacc =>
    cases hdrain
    exact balanced_accept h hacc
  | case4 source l batch rest hpull _ l₁ hacc ih => exact ih (balanced_accept h hacc) hdrain

theorem balanced_acceptFirst {result : Except JoinError Unit} {first : Option Batch}
    (h : l.Balanced limit) (hacc : l.acceptFirst config probeSchema first = (result, l')) :
    l'.Balanced limit := by
  cases first with
  | none =>
    cases hacc
    exact h
  | some batch => exact balanced_accept h hacc

theorem balanced_finish {result : Except JoinError JoinKeys} {declared : Option Schema}
    (h : l.Balanced limit) (hfin : l.finish config declared probeSchema = (result, l')) :
    l'.Balanced limit := by
  have h' : Balanced { l with store := { l.store with schema := l.store.schema.or declared } } limit :=
    h.with_store rfl
  simp only [finish] at hfin
  split at hfin <;> (cases hfin; exact h')

/-- The account holds wherever the build phase ends. -/
theorem balanced_fill {result : Except JoinError JoinKeys} {first : Option Batch}
    (h : l.Balanced limit)
    (hfill : l.fill config probeSchema first source = (result, source', l')) :
    l'.Balanced limit := by
  cases fills_of_fill hfill with
  | refused hfirst => exact balanced_acceptFirst h hfirst
  | stopped hfirst hdrain => exact balanced_drain (balanced_acceptFirst h hfirst) hdrain
  | finished hfirst hdrain hfinish =>
    exact balanced_finish (balanced_drain (balanced_acceptFirst h hfirst) hdrain) hfinish

end Phase

end Loading
end HashJoin
