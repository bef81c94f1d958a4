import HashJoin.Checked.Table
import HashJoin.Proofs.BuildStore.Serving
import HashJoin.Proofs.SlotTable.Insertion

/-!
# The checked build side is the build side

The checked operations of the table, the ledger and the store come to what the others come to. A table that
holds its hashes only leads to slots that it has, also while its links are set anew; a ledger whose slots
have bits is never searched past its words; and a slot that stands for a row leads to a row that is stored.

## Main results

* `insert_eq`, `first_eq`, `next_eq` — a table that holds its hashes.
* `mark_eq`, `nextUnmatched_eq` — a ledger whose slots have bits.
* `nextIndex_eq`, `absorb_eq`, `slotRow_eq` — the store.
-/

namespace HashJoin
namespace Checked

open Chains (Linked bucketOf)
open SlotTable (Holds)

/-! ### Chains -/

variable {c : Chains} {hs : List UInt32} {hash : UInt32} {k bucket slot : Nat}

/-- The last slot of a bucket is one of those that are linked. -/
theorem attach_eq (h : Linked c hs k) (hk : k ≤ hs.length) (hbucket : bucket < c.heads.size) :
    attach c bucket slot = pure (c.attach bucket slot) := by
  have htails : bucket < c.tails.size := by
    rw [h.sizes]
    exact hbucket
  rw [attach, readAt_eq .bucket htails none, pure_bind]
  cases hlast : c.tails.getD bucket none with
  | none =>
    simp only [writeAt_eq .bucket hbucket, writeAt_eq .bucket htails, pure_bind]
    rw [Chains.attach_of_none hlast]
  | some last =>
    obtain ⟨hlt, -⟩ := Chains.getLast?_filter_range ((h.tail bucket hbucket).symm.trans hlast)
    have hentry : last < c.entries.size := by
      rw [Chains.size_entries h.hashes]
      exact Nat.lt_of_lt_of_le hlt hk
    simp only [modifyAt_eq .entry hentry, writeAt_eq .bucket htails, pure_bind]
    rw [Chains.attach_of_some hlast]

theorem appendHash_eq (h : Linked c hs hs.length) (pos : 0 < c.heads.size) (hash : UInt32) :
    appendHash c hash = pure (c.append hash) := by
  refine attach_eq (h.push hash) ?_ (Nat.mod_lt _ pos)
  rw [List.length_append]
  exact Nat.le_add_right _ _

theorem relink_eq (h : Linked c hs slot) (hslot : slot < hs.length) (pos : 0 < c.heads.size) :
    relink c slot = pure (c.relink slot) := by
  have hsize : slot < c.entries.size := by
    rw [Chains.size_entries h.hashes]
    exact hslot
  have hhash : hs[slot]? = some (c.entries.getD slot default).hash := by
    rw [← h.hashes, Chains.getElem?_hashes, Array.getD_eq_getD_getElem?, Array.getElem?_eq_getElem hsize]
    rfl
  rw [relink, readAt_eq .entry hsize default, pure_bind, writeAt_eq .entry hsize, pure_bind]
  exact attach_eq (h.cut hhash) (Nat.le_of_lt hslot) (Nat.mod_lt _ pos)

/-- Linking all slots anew leads to slots that have been linked before. -/
theorem rebucket_eq {buckets : Nat} (h : c.hashes = hs) (pos : 0 < buckets) :
    rebucket c buckets = pure (c.rebucket buckets) := by
  rw [Chains.rebucket_eq_relinked, Chains.size_entries h]
  have hrelinked : ∀ n ≤ hs.length, (List.range n).foldlM relink
      ⟨Array.replicate buckets none, Array.replicate buckets none, c.entries⟩ =
        pure (c.relinked buckets n) := by
    -- on the slots that the loop has been through
    intro n hn
    induction n with
    | zero => rfl
    | succ n ih =>
      obtain ⟨hheads, hlinked⟩ := Chains.linked_relinked h pos (Nat.le_of_succ_le hn)
      have hrelink := relink_eq hlinked hn (by rw [hheads]; exact pos)
      rw [List.range_succ, List.foldlM_append, ih (Nat.le_of_succ_le hn), pure_bind,
        List.foldlM_cons, hrelink, pure_bind, Chains.relinked_succ]
      rfl
  rw [rebucket, Chains.size_entries h]
  exact hrelinked hs.length (Nat.le_refl _)

theorem link?_of_next {later : Nat} (hslot : slot < c.entries.size)
    (hnext : c.entries[slot].next = some later) : c.link? slot = some later := by
  rw [Chains.link?, Array.getElem?_eq_getElem hslot]
  exact hnext

theorem scan_none (entries : Array Entry) (hash : UInt32) : scan entries hash none = pure none := by
  rw [scan, repeat_eq, scanRound, pure_bind]
  rfl

/-- A slot with another hash leads to the slot that it is linked to. -/
theorem scan_of_ne (hslot : slot < c.entries.size) (hne : ¬ c.entries[slot].hash = hash) :
    scan c.entries hash (some slot) = scan c.entries hash c.entries[slot].next := by
  rw [scan, repeat_eq, scanRound, readAt_of_lt .entry hslot, pure_bind, if_neg hne, pure_bind]
  rfl

/-- A search reads entries that are there, if it starts at one, and ends. -/
theorem scan_eq {start : Option Nat} (h : Linked c hs hs.length)
    (hstart : ∀ slot ∈ start, slot < hs.length) :
    scan c.entries hash start = pure (Chains.find? c.entries hash start) := by
  have hsize := Chains.size_entries h.hashes
  fun_induction Chains.find? c.entries hash start with
  | case1 => exact scan_none c.entries hash
  | case2 slot hlt hhash =>
    rw [scan, repeat_eq, scanRound, readAt_of_lt .entry hlt, pure_bind, if_pos hhash, pure_bind]
    rfl
  | case3 slot hlt hhash hlink =>
    rw [scan_of_ne hlt hhash, hlink]
    exact scan_none c.entries hash
  | case4 slot hlt hhash later hlink hlater ih =>
    rw [scan_of_ne hlt hhash, hlink]
    refine ih fun found hfound => ?_
    cases hfound
    exact (Chains.bounds_of_link? h (link?_of_next hlt hlink)).2
  | case5 slot hlt hhash later hlink hlater =>
    -- links lead to later slots
    exact absurd (Chains.bounds_of_link? h (link?_of_next hlt hlink)).1 hlater
  | case6 slot hout =>
    have hlt := hstart slot rfl
    rw [← hsize] at hlt
    exact absurd hlt hout

/-! ### The table -/

variable {t : SlotTable} {budget : Budget}

theorem double_eq (h : t.Holds hs) : double t = pure t.doubled := by
  rw [double, rebucket_eq h.linked.hashes (Nat.mul_pos Nat.two_pos h.pos), pure_bind,
    SlotTable.doubled]

theorem makeRoom_eq (h : t.Holds hs) (budget : Budget) : makeRoom t budget = pure (t.makeRoom budget) := by
  -- on the doublings that are granted
  fun_induction t.makeRoom budget with
  | case1 t _ hempty => exact absurd hempty (Nat.ne_of_gt h.pos)
  | case2 t budget _ hfull e hreserve =>
    rw [makeRoom, repeat_eq, roomRound, if_pos hfull, hreserve, pure_bind]
    rfl
  | case3 t budget _ hfull granted hreserve _ ih =>
    rw [makeRoom, repeat_eq, roomRound, if_pos hfull, hreserve]
    simp only [double_eq h, pure_bind]
    exact ih (SlotTable.holds_doubled h)
  | case4 t budget _ hroom =>
    rw [makeRoom, repeat_eq, roomRound, if_neg hroom, pure_bind]
    rfl

/-- **An insertion** sets links of slots that are there. -/
theorem insert_eq (h : t.Holds hs) (hash : UInt32) (budget : Budget) :
    insert t hash budget = pure (t.insert hash budget) := by
  refine ite_eq (fun _ => rfl) fun _ => ?_
  rw [makeRoom_eq h, pure_bind]
  have hroomy := SlotTable.holds_makeRoom h budget
  rcases hroom : t.makeRoom budget with ⟨_ | _, roomy, granted⟩
  · rfl
  · rw [hroom] at hroomy
    rcases hextend : roomy.extendArena granted with ⟨_ | _, ready, left⟩
    · simp only [hextend]
    · have hready := SlotTable.holds_extendArena hroomy hextend
      simp only [hextend, appendHash_eq hready.linked hready.pos, pure_bind]
      rfl

theorem first_eq (h : t.Holds hs) (hash : UInt32) : first t hash = pure (t.first? hash) := by
  have hbucket : bucketOf hash t.buckets < t.buckets := Nat.mod_lt _ h.pos
  rw [first, readAt_eq .bucket hbucket none, pure_bind]
  refine scan_eq h.linked fun slot hslot => ?_
  rw [h.linked.head _ hbucket] at hslot
  exact List.mem_range.mp (List.find?_range_eq_some.mp hslot).2.1

theorem next_eq (h : t.Holds hs) (slot : Nat) (hash : UInt32) :
    next t slot hash = pure (t.next? slot hash) := by
  rw [next, SlotTable.next?]
  by_cases hslot : slot < t.length
  · have hget : t.chains.entries[slot]? = some t.chains.entries[slot] := Array.getElem?_eq_getElem hslot
    rw [hget, dif_pos hslot]
    cases hlink : t.chains.entries[slot].next with
    | none => simp only [hlink, scan_none]
    | some later =>
      obtain ⟨hlater, hlt⟩ := Chains.bounds_of_link? h.linked (link?_of_next hslot hlink)
      simp only [hlink, if_pos hlater]
      refine scan_eq h.linked fun found hfound => ?_
      cases hfound
      exact hlt
  · rw [Array.getElem?_eq_none (Nat.le_of_not_lt hslot), dif_neg hslot]

/-! ### The ledger -/

variable {l : MatchLedger}

theorem lt_of_covered (h : l.Covered) (hslot : slot < l.length) :
    slot / MatchLedger.wordBits < l.words.size :=
  (Nat.div_lt_iff_lt_mul (by decide)).mpr (Nat.lt_of_lt_of_le hslot h)

theorem link_eq (h : slot = l.length) (ref : RowRef) (budget : Budget) :
    link l slot ref budget = pure (l.link slot ref budget) := by
  subst h
  simp only [link, MatchLedger.link, ne_eq, not_true_eq_false, if_false]
  rcases l.makeRoom budget with ⟨_ | _, l', budget'⟩
  · rfl
  · rfl

/-- A word keeps its value if a bit is set again. -/
theorem or_bitOf {word : UInt64} (h : word.toNat.testBit (slot % MatchLedger.wordBits) = true) :
    word ||| MatchLedger.bitOf slot = word := by
  apply UInt64.toNat_inj.mp
  apply Nat.eq_of_testBit_eq
  intro i
  rw [UInt64.toNat_or, Nat.testBit_or, MatchLedger.testBit_bitOf]
  by_cases hi : slot % 64 = i
  · rw [← hi, show word.toNat.testBit (slot % 64) = true from h, Bool.true_or]
  · rw [decide_eq_false hi, Bool.or_false]

theorem modify_eq_self {α : Type} {xs : Array α} {i : Nat} {f : α → α} {d : α}
    (h : f (xs.getD i d) = xs.getD i d) : xs.modify i f = xs := by
  apply Array.ext_getElem?
  intro j
  rw [Array.getElem?_modify]
  by_cases hij : i = j
  · subst hij
    rw [if_pos rfl]
    rw [Array.getD_eq_getD_getElem?] at h
    cases hget : xs[i]? with
    | none => rfl
    | some x =>
      rw [hget] at h
      exact congrArg some h
  · rw [if_neg hij]

theorem mark_eq (h : l.Covered) (slot : Nat) : mark l slot = pure (l.mark slot).2 := by
  by_cases hslot : slot < l.length
  · have hword := lt_of_covered h hslot
    rw [mark, if_neg (Nat.not_le_of_lt hslot), readAt_eq .word hword 0, pure_bind,
      modifyAt_eq .word hword, pure_bind, MatchLedger.mark, MatchLedger.isMatched,
      decide_eq_true hslot, Bool.true_and, Bool.true_and]
    cases hbit : (l.words.getD (slot / MatchLedger.wordBits) 0).toNat.testBit
        (slot % MatchLedger.wordBits) with
    | false => rfl
    -- the bit was set before
    | true =>
      rw [modify_eq_self (or_bitOf hbit)]
      rfl
  · rw [mark, if_pos (Nat.le_of_not_lt hslot), MatchLedger.mark, decide_eq_false hslot,
      Bool.false_and, if_neg Bool.false_ne_true]

/-- A search for a slot that is not matched reads the word of the slot that it is at. -/
theorem nextUnmatched_of_lt (h : l.Covered) (hslot : slot < l.length) :
    nextUnmatched l slot =
      if l.freeBits slot = 0 then
        nextUnmatched l ((slot / MatchLedger.wordBits + 1) * MatchLedger.wordBits)
      else
        let candidate := slot + (l.freeBits slot).ctz.toNat
        pure (if candidate < l.length then some candidate else none) := by
  rw [nextUnmatched, if_pos hslot, readAt_eq .word (lt_of_covered h hslot) 0, pure_bind]
  rfl

/-- A search for a slot that is not matched reads words that are there, and ends. -/
theorem nextUnmatched_eq (h : l.Covered) (slot : Nat) :
    nextUnmatched l slot = pure (l.nextUnmatched? slot) := by
  fun_induction l.nextUnmatched? slot with
  | case1 slot hslot hfull ih =>
    rw [nextUnmatched_of_lt h hslot, if_pos hfull]
    exact ih
  | case2 slot hslot hfree candidate hin =>
    rw [nextUnmatched_of_lt h hslot, if_neg hfree]
    exact congrArg pure (if_pos hin)
  | case3 slot hslot hfree candidate hout =>
    rw [nextUnmatched_of_lt h hslot, if_neg hfree]
    exact congrArg pure (if_neg hout)
  | case4 slot hslot => rw [nextUnmatched, if_neg hslot]

/-! ### The store -/

variable {s : BuildStore} {batch : Batch}

theorem captureSchema_eq (h : s.batches.isEmpty = true) (schema : Schema) :
    captureSchema s schema = pure { s with schema := some schema } := if_pos h

/-- **The number of a batch is not wrapped** as long as there is room for the batch. -/
theorem nextIndex_eq (h : s.nextIndex < BuildStore.maxBatches) : nextIndex s = s.nextIndex :=
  UInt32.toNat_ofNat_of_lt' h

theorem absorb_eq (h : s.nextIndex < BuildStore.maxBatches) (batch : Batch) (budget : Budget) :
    absorb s batch budget = pure (s.absorb batch budget) := by
  unfold absorb
  cases hinspect : s.inspect batch with
  | error e =>
    rw [BuildStore.absorb, hinspect]
    rfl
  | ok => exact if_neg (Nat.not_le_of_lt h)

theorem slotRow_eq {r : BatchRow} (h : s.slotRow l slot = .ok r) : slotRow s l slot = pure r := by
  obtain ⟨ref, href, hbatch, hrow, hlt⟩ := BuildStore.slotRow_eq_ok h
  rw [slotRow, href]
  simp only [refRow, hbatch, hrow, if_pos hlt]

end Checked
end HashJoin
