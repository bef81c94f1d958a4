import HashJoin.Proofs.MatchLedger.Marking

/-!
# The ledger as a list

A ledger keeps its rows in one array, its marks in the bits of another, and counts the marks apart.
All that can be seen of it is a list of rows with a mark each, whatever calls were made before.

## Main definitions

* `MatchLedger.Roll` — the list, and the rows that there is room for; `Roll.link`, `Roll.mark`,
  `Roll.clear` do to the list what the calls do to a ledger.
* `MatchLedger.Call`, `MatchLedger.Answer` — the calls that change a ledger, and what they answer.
* `MatchLedger.Refines` — the invariant between a ledger and its list.
* `MatchLedger.Follows` — what can be seen of a ledger is what the list says.

## Main results

* `refines_perform` — a call answers as the list does, and keeps the invariant.
* `follows_of_performAll` — after any calls, the answers are those of the list, and so is all that can
  be seen.
-/

namespace HashJoin
namespace MatchLedger

/-! ### The list -/

/-- The rows of a ledger in order, each with its mark, and the rows that there is room for. -/
structure Roll where
  /-- The rows and their marks, by slot. -/
  pairs : List (RowRef × Bool)
  /-- The rows that there is room for. -/
  room : Nat

namespace Roll

/-- The list of no rows. -/
def empty : Roll := ⟨[], 0⟩

/-- Whether a slot has a row that is marked. -/
def isMatched (r : Roll) (slot : Nat) : Bool := (r.pairs[slot]?.map Prod.snd).getD false

/-- One more row, without a mark. -/
def append (r : Roll) (ref : RowRef) : Roll := { r with pairs := r.pairs ++ [(ref, false)] }

/-- Room for as many rows again, and for a thousand at least. -/
def extended (r : Roll) : Roll := { r with room := r.room + max r.room minStep }

/-- Appends the row of the next slot, if there is room or room is granted. -/
def link (r : Roll) (slot : Nat) (ref : RowRef) (budget : Budget) :
    Except JoinError Unit × Roll × Budget :=
  if slot ≠ r.pairs.length then (.error (.internal (.slotOrder r.pairs.length slot)), r, budget)
  else if r.pairs.length < r.room then (.ok (), r.append ref, budget)
  else match budget.reserve (bytesFor (max r.room minStep)) with
    | .error refusal => (.error (.ofRefusal .link refusal), r, budget)
    | .ok granted => (.ok (), r.extended.append ref, granted)

/-- Marks the row of a slot. The result says whether there is one, without a mark so far. -/
def mark (r : Roll) (slot : Nat) : Bool × Roll :=
  match r.pairs[slot]? with
  | some (ref, false) => (true, { r with pairs := r.pairs.set slot (ref, true) })
  | _ => (false, r)

/-- Drops all rows and gives the bytes of the room back. -/
def clear (r : Roll) (budget : Budget) : Roll × Budget := (empty, budget.release (bytesFor r.room))

end Roll

/-! ### Calls -/

/-- A call that changes a ledger. Whoever makes it may find any budget. -/
inductive Call
  /-- The row of a slot is recorded. -/
  | link (slot : UInt32) (ref : RowRef) (budget : Budget)
  /-- The row of a slot is marked. -/
  | mark (slot : UInt32)
  /-- All slots are dropped. -/
  | clear (budget : Budget)

/-- What a call answers, with the budget that it leaves. -/
inductive Answer
  /-- The answer of a link. -/
  | linked (result : Except JoinError Unit) (budget : Budget)
  /-- The answer of a mark. -/
  | marked (news : Bool)
  /-- The answer of a clearing. -/
  | cleared (budget : Budget)

/-- What a call does to a ledger. -/
def perform (l : MatchLedger) : Call → Answer × MatchLedger
  | .link slot ref budget =>
    let (result, l, budget) := l.link slot.toNat ref budget
    (.linked result budget, l)
  | .mark slot =>
    let (news, l) := l.mark slot.toNat
    (.marked news, l)
  | .clear budget =>
    let (l, budget) := l.clear budget
    (.cleared budget, l)

/-- What one call after the other does to a ledger. -/
def performAll (l : MatchLedger) : List Call → List Answer × MatchLedger
  | [] => ([], l)
  | call :: calls =>
    let (answer, l) := l.perform call
    let (answers, l) := l.performAll calls
    (answer :: answers, l)

/-- What a call does to a list. -/
def Roll.perform (r : Roll) : Call → Answer × Roll
  | .link slot ref budget =>
    let (result, r, budget) := r.link slot.toNat ref budget
    (.linked result budget, r)
  | .mark slot =>
    let (news, r) := r.mark slot.toNat
    (.marked news, r)
  | .clear budget =>
    let (r, budget) := r.clear budget
    (.cleared budget, r)

/-- What one call after the other does to a list. -/
def Roll.performAll (r : Roll) : List Call → List Answer × Roll
  | [] => ([], r)
  | call :: calls =>
    let (answer, r) := r.perform call
    let (answers, r) := r.performAll calls
    (answer :: answers, r)

/-! ### The invariant -/

/-- The ledger `l` holds what the list `r` says. -/
structure Refines (l : MatchLedger) (r : Roll) : Prop where
  /-- The rows are those of the list. -/
  links : l.links.toList = r.pairs.map Prod.fst
  /-- The bits are the marks of the list, and those past its end are clear. -/
  bits : ∀ slot, l.bit slot = r.isMatched slot
  /-- As many words have been begun as the slots need. -/
  words : l.words.size = (l.length + wordBits - 1) / wordBits
  /-- The marks are counted. -/
  count : l.matchedCount = r.pairs.countP Prod.snd
  /-- There is room for as many rows. -/
  capacity : l.capacity = r.room
  /-- The bytes are those of the room. -/
  bytes : l.reservedBytes = bytesFor r.room
  /-- The room is made up of whole words. -/
  whole : wordBits ∣ r.room
  /-- Every slot is a number of 32 bits. -/
  length_le : l.length ≤ UInt32.size

variable {l l' : MatchLedger} {r : Roll} {slot : Nat} {ref : RowRef} {budget budget' : Budget}

theorem Refines.length_eq (h : l.Refines r) : l.length = r.pairs.length := by
  rw [length, ← Array.length_toList, h.links, List.length_map]

theorem Refines.covered (h : l.Refines r) : l.Covered := by
  have := h.words
  simp only [Covered, wordBits] at *
  omega

theorem refines_empty : empty.Refines Roll.empty where
  links := rfl
  bits _ := by simp [bit, Roll.isMatched, Roll.empty, empty]
  words := rfl
  count := rfl
  capacity := rfl
  bytes := rfl
  whole := Nat.dvd_zero _
  length_le := Nat.zero_le _

/-- A slot past the end of the list is not marked. -/
theorem Roll.isMatched_of_le (h : r.pairs.length ≤ slot) : r.isMatched slot = false := by
  rw [isMatched, List.getElem?_eq_none h]
  rfl

theorem Roll.isMatched_append (r : Roll) (ref : RowRef) (slot : Nat) :
    (r.append ref).isMatched slot = r.isMatched slot := by
  by_cases hslot : slot < r.pairs.length
  · rw [isMatched, append, List.getElem?_append_left hslot]
    rfl
  · have hend := Nat.le_of_not_lt hslot
    rw [isMatched_of_le hend, isMatched, append, List.getElem?_append_right hend]
    cases slot - r.pairs.length <;> rfl

/-- The row that a link appends has a clear bit waiting for it. -/
theorem refines_append (h : l.Refines r) (ref : RowRef) (hlt : l.length < UInt32.size) :
    (l.append ref).Refines (r.append ref) where
  links := by simp [Roll.append, h.links]
  bits other := by
    rw [Roll.isMatched_append, ← h.bits, bit, bit, getD_words_append]
  words := by
    have hwords := h.words
    rw [words_append, length_append]
    split
    · rw [Array.size_push]
      simp only [wordBits] at *
      omega
    · simp only [wordBits] at *
      omega
  count := by
    rw [Roll.append, List.countP_append, ← h.count]
    rfl
  capacity := h.capacity
  bytes := h.bytes
  whole := h.whole
  length_le := by
    rw [length_append]
    exact hlt

/-- The bytes of more room are reserved on top, as the room is made up of whole words. -/
theorem bytesFor_add {rows more : Nat} (h : wordBits ∣ rows) :
    bytesFor (rows + more) = bytesFor rows + bytesFor more := by
  obtain ⟨words, rfl⟩ := h
  simp only [bytesFor, wordBits]
  omega

theorem refines_extended (h : l.Refines r) : l.extended.Refines r.extended where
  links := h.links
  bits := h.bits
  words := h.words
  count := h.count
  capacity := by
    rw [extended, Roll.extended, h.capacity]
  bytes := by
    rw [extended, Roll.extended, h.capacity, bytesFor_add h.whole, h.bytes]
  whole := by
    apply Nat.dvd_add h.whole
    rcases Nat.le_total r.room minStep with hle | hle
    · rw [Nat.max_eq_right hle]
      decide
    · rw [Nat.max_eq_left hle]
      exact h.whole
  length_le := h.length_le

/-! ### Marks -/

/-- A slot that is linked has a row in the list, and its mark. -/
theorem Refines.getElem?_pairs (h : l.Refines r) (hslot : slot < l.length) :
    ∃ ref, r.pairs[slot]? = some (ref, l.isMatched slot) := by
  have hlen : slot < r.pairs.length := by
    rw [← h.length_eq]
    exact hslot
  refine ⟨r.pairs[slot].1, ?_⟩
  rw [isMatched_eq, decide_eq_true hslot, Bool.true_and, h.bits, Roll.isMatched,
    List.getElem?_eq_getElem hlen]
  rfl

theorem Refines.isMatched_eq (h : l.Refines r) (slot : Nat) : l.isMatched slot = r.isMatched slot := by
  rw [MatchLedger.isMatched_eq, h.bits]
  by_cases hslot : slot < l.length
  · rw [decide_eq_true hslot, Bool.true_and]
  · rw [Roll.isMatched_of_le (by rw [← h.length_eq]; exact Nat.le_of_not_lt hslot), Bool.and_false]

/-- A mark is news on both sides, or on neither. -/
theorem mark_of_free (hslot : slot < l.length) (hfree : l.isMatched slot = false) :
    (l.mark slot).1 = true ∧ (l.mark slot).2.matchedCount = l.matchedCount + 1 := by
  unfold mark
  rw [hfree, decide_eq_true hslot, Bool.not_false, Bool.and_true, if_pos rfl]
  exact ⟨rfl, rfl⟩

theorem mark_of_not_free (h : ¬ (slot < l.length ∧ l.isMatched slot = false)) :
    l.mark slot = (false, l) := by
  unfold mark
  rw [if_neg]
  intro hfree
  rw [Bool.and_eq_true, Bool.not_eq_true', decide_eq_true_iff] at hfree
  exact h hfree

theorem capacity_mark (l : MatchLedger) (slot : Nat) : (l.mark slot).2.capacity = l.capacity := by
  unfold mark
  split <;> rfl

/-- The list after a mark has the same rows. -/
theorem Roll.fst_set {matched : Bool} (h : r.pairs[slot]? = some (ref, matched)) :
    (r.pairs.set slot (ref, true)).map Prod.fst = r.pairs.map Prod.fst := by
  obtain ⟨hin, hget⟩ := List.getElem?_eq_some_iff.mp h
  apply List.ext_getElem?
  intro other
  rw [List.map_set, List.getElem?_set]
  split
  · next heq =>
    subst heq
    simp [hin, hget]
  · rfl

/-- The marks of the list after one more. -/
theorem Roll.isMatched_set (hin : slot < r.pairs.length) (other : Nat) :
    isMatched { r with pairs := r.pairs.set slot (ref, true) } other =
      (r.isMatched other || decide (other = slot)) := by
  rw [isMatched, isMatched, List.getElem?_set]
  by_cases heq : slot = other
  · subst heq
    simp [hin]
  · have hother : other ≠ slot := fun h => heq h.symm
    simp [heq, hother]

theorem Roll.mark_of_free (h : r.pairs[slot]? = some (ref, false)) :
    r.mark slot = (true, { r with pairs := r.pairs.set slot (ref, true) }) := by
  rw [mark, h]

theorem Roll.mark_of_isMatched (h : r.pairs[slot]? = some (ref, true)) : r.mark slot = (false, r) := by
  rw [mark, h]

theorem Roll.mark_of_le (h : r.pairs.length ≤ slot) : r.mark slot = (false, r) := by
  rw [mark, List.getElem?_eq_none h]

/-- A mark is news to a ledger if it is to the list, and marks the same row in both. -/
theorem refines_mark (h : l.Refines r) (slot : Nat) :
    (l.mark slot).1 = (r.mark slot).1 ∧ (l.mark slot).2.Refines (r.mark slot).2 := by
  by_cases hslot : slot < l.length
  · obtain ⟨ref, hpair⟩ := h.getElem?_pairs hslot
    cases hmatched : l.isMatched slot with
    | true =>
      rw [hmatched] at hpair
      rw [Roll.mark_of_isMatched hpair, mark_of_not_free (by simp [hmatched])]
      exact ⟨rfl, h⟩
    | false =>
      rw [hmatched] at hpair
      obtain ⟨hin, hget⟩ := List.getElem?_eq_some_iff.mp hpair
      obtain ⟨hnews, hcount⟩ := mark_of_free hslot hmatched
      rw [Roll.mark_of_free hpair]
      refine ⟨hnews, ?_, ?_, ?_, ?_, ?_, ?_, h.whole, ?_⟩
      · rw [links_mark, h.links, Roll.fst_set hpair]
      · intro other
        rw [bit_mark h.covered hslot, h.bits, Roll.isMatched_set hin]
      · rw [size_words_mark, length, links_mark]
        exact h.words
      · rw [hcount, h.count, List.countP_set hin, hget]
        simp
      · rw [capacity_mark]
        exact h.capacity
      · rw [reservedBytes_mark]
        exact h.bytes
      · rw [length, links_mark]
        exact h.length_le
  · have hend := Nat.le_of_not_lt hslot
    rw [Roll.mark_of_le (by rw [← h.length_eq]; exact hend), mark_of_not_free (by omega)]
    exact ⟨rfl, h⟩

/-! ### Calls keep the invariant -/

/-- A link of a ledger is one of the list, if slots are numbers of 32 bits. -/
theorem refines_link (h : l.Refines r) (slot : UInt32) (ref : RowRef) (budget : Budget) :
    ∃ result left l' r', l.link slot.toNat ref budget = (result, l', left) ∧
      r.link slot.toNat ref budget = (result, r', left) ∧ l'.Refines r' := by
  obtain ⟨result, l', left, hlink⟩ : ∃ result l' left, l.link slot.toNat ref budget = (result, l', left) :=
    ⟨_, _, _, rfl⟩
  have hbound := slot.toNat_lt_size
  rw [hlink, Roll.link, ← h.length_eq, ← h.capacity]
  rcases link_cases hlink with ⟨hslot, rfl, rfl, rfl⟩ | ⟨hslot, hfull, rfl, rfl, refusal, hres, rfl⟩ |
    ⟨hslot, hroom, rfl, rfl, rfl⟩ | ⟨hslot, hfull, rfl, rfl, hres⟩
  · rw [if_pos hslot]
    exact ⟨_, _, _, _, rfl, rfl, h⟩
  · rw [if_neg (not_not_intro hslot), if_neg (Nat.not_lt_of_le hfull), hres]
    exact ⟨_, _, _, _, rfl, rfl, h⟩
  · rw [if_neg (not_not_intro hslot), if_pos hroom]
    exact ⟨_, _, _, _, rfl, rfl, refines_append h ref (by omega)⟩
  · rw [if_neg (not_not_intro hslot), if_neg (Nat.not_lt_of_le hfull), hres]
    refine ⟨_, _, _, _, rfl, rfl, refines_append (refines_extended h) ref ?_⟩
    show l.length < _
    omega

/-- A call answers as the list does, and what it leaves is again what the list says. -/
theorem refines_perform (h : l.Refines r) (call : Call) :
    (l.perform call).1 = (r.perform call).1 ∧ (l.perform call).2.Refines (r.perform call).2 := by
  cases call with
  | link slot ref budget =>
    obtain ⟨result, left, l', r', hl, hr, h'⟩ := refines_link h slot ref budget
    simp only [perform, Roll.perform, hl, hr]
    exact ⟨trivial, h'⟩
  | mark slot =>
    obtain ⟨hnews, h'⟩ := refines_mark h slot.toNat
    simp only [perform, Roll.perform, hnews]
    exact ⟨trivial, h'⟩
  | clear budget =>
    simp only [perform, Roll.perform, clear, Roll.clear, h.bytes]
    exact ⟨trivial, refines_empty⟩

theorem refines_performAll (h : l.Refines r) (calls : List Call) :
    (l.performAll calls).1 = (r.performAll calls).1 ∧
      (l.performAll calls).2.Refines (r.performAll calls).2 := by
  induction calls generalizing l r with
  | nil => exact ⟨rfl, h⟩
  | cons call calls ih =>
    obtain ⟨hanswer, h'⟩ := refines_perform h call
    obtain ⟨hanswers, hend⟩ := ih h'
    simp only [performAll, Roll.performAll, hanswer, hanswers]
    exact ⟨trivial, hend⟩

/-! ### What can be seen -/

/-- The free slots from a slot on are found one after the other, in order. -/
theorem unmatchedFrom_eq (l : MatchLedger) (slot : Nat) :
    l.unmatchedFrom slot =
      (List.range' slot (l.length - slot)).filter fun other => !l.isMatched other := by
  fun_induction l.unmatchedFrom slot with
  | case1 slot hnone =>
    symm
    apply List.filter_eq_nil_iff.mpr
    intro other hother
    rw [List.mem_range'_1] at hother
    rw [nextUnmatched?_eq_none hnone other hother.1 (by omega)]
    simp
  | case2 slot free hsome hbounds ih =>
    obtain ⟨hfree, hbetween⟩ := nextUnmatched?_eq_some hsome
    -- the slots that the search has passed are marked
    have hsplit : List.range' slot (l.length - slot) =
        List.range' slot (free - slot) ++ free :: List.range' (free + 1) (l.length - (free + 1)) := by
      obtain ⟨hle, hlt⟩ := hbounds
      obtain ⟨passed, rfl⟩ := Nat.exists_eq_add_of_le hle
      obtain ⟨rest, hrest⟩ := Nat.exists_eq_add_of_lt hlt
      have hlength : l.length - slot = passed + (rest + 1) := by omega
      have hbehind : l.length - (slot + passed + 1) = rest := by omega
      rw [hlength, hbehind, Nat.add_sub_cancel_left, ← List.range'_append_1, List.range'_succ]
    have hpassed : (List.range' slot (free - slot)).filter (fun other => !l.isMatched other) = [] := by
      apply List.filter_eq_nil_iff.mpr
      intro other hother
      rw [List.mem_range'_1] at hother
      rw [hbetween other hother.1 (by omega)]
      simp
    rw [hsplit, List.filter_append, hpassed, List.nil_append, List.filter_cons, hfree, ih]
    rfl

/-- What can be seen of a ledger is what a list says. -/
structure Follows (l : MatchLedger) (r : Roll) : Prop where
  /-- There are as many slots as rows in the list. -/
  length : l.length = r.pairs.length
  /-- Every slot is a number of 32 bits. -/
  length_le : l.length ≤ UInt32.size
  /-- There is room for as many rows. -/
  capacity : l.capacity = r.room
  /-- A slot has the row of the list. -/
  rowRef : ∀ slot, l.rowRef? slot = r.pairs[slot]?.map Prod.fst
  /-- A slot has the mark of the list. -/
  isMatched : ∀ slot, l.isMatched slot = r.isMatched slot
  /-- The marks of the list are counted. -/
  matchedCount : l.matchedCount = r.pairs.countP Prod.snd
  /-- The count of the others is what is left of the slots. -/
  unmatchedCount : l.matchedCount + l.unmatchedCount = l.length
  /-- The search finds a slot if its row is the first one from there on without a mark. -/
  found : ∀ slot free, l.nextUnmatched? slot = some free ↔
    slot ≤ free ∧ r.pairs[free]?.map Prod.snd = some false ∧
      ∀ other, slot ≤ other → other < free → r.pairs[other]?.map Prod.snd = some true
  /-- The search finds nothing if all rows from there on are marked. -/
  notFound : ∀ slot, l.nextUnmatched? slot = none ↔
    ∀ other, slot ≤ other → other < r.pairs.length → r.pairs[other]?.map Prod.snd = some true
  /-- One search after the other finds the rows without a mark, in order. -/
  unmatched : l.unmatchedFrom 0 =
    (List.range r.pairs.length).filter fun slot => r.pairs[slot]?.map Prod.snd = some false
  /-- A link is granted if its slot is the next and there is room, or bytes for more are left. -/
  link : ∀ slot ref budget, (l.link slot ref budget).1 = .ok () ↔ slot = r.pairs.length ∧
    (r.pairs.length < r.room ∨ bytesFor (max r.room minStep) ≤ budget.limit - budget.reserved)
  /-- A link that is not granted leaves the ledger and the budget as they were. -/
  refused : ∀ slot ref budget, (l.link slot ref budget).1 ≠ .ok () →
    (l.link slot ref budget).2 = (l, budget)
  /-- A mark is news if the slot has a row without one. -/
  mark : ∀ slot, (l.mark slot).1 = true ↔ r.pairs[slot]?.map Prod.snd = some false
  /-- A mark changes what can be seen of its slot only, and that only if it is news. -/
  others : ∀ slot other, (l.mark slot).2.rowRef? other = l.rowRef? other ∧
    (l.mark slot).2.isMatched other = (l.isMatched other || (l.mark slot).1 && other == slot)

/-- A linked slot is free on both sides, or on neither. -/
theorem Refines.flag_eq (h : l.Refines r) {matched : Bool} :
    r.pairs[slot]?.map Prod.snd = some matched ↔ slot < l.length ∧ l.isMatched slot = matched := by
  constructor
  · intro hflag
    obtain ⟨pair, hpair, rfl⟩ := Option.map_eq_some_iff.mp hflag
    have hslot : slot < l.length := by
      rw [h.length_eq]
      exact (List.getElem?_eq_some_iff.mp hpair).1
    obtain ⟨ref, hsame⟩ := h.getElem?_pairs hslot
    rw [hpair] at hsame
    cases hsame
    exact ⟨hslot, rfl⟩
  · rintro ⟨hslot, rfl⟩
    obtain ⟨ref, hpair⟩ := h.getElem?_pairs hslot
    rw [hpair]
    rfl

theorem nextUnmatched?_eq_some_iff {free : Nat} : l.nextUnmatched? slot = some free ↔
    slot ≤ free ∧ (free < l.length ∧ l.isMatched free = false) ∧
      ∀ other, slot ≤ other → other < free → l.isMatched other = true := by
  constructor
  · intro h
    obtain ⟨hle, hlt⟩ := bounds_of_nextUnmatched? h
    obtain ⟨hfree, hbetween⟩ := nextUnmatched?_eq_some h
    exact ⟨hle, ⟨hlt, hfree⟩, hbetween⟩
  · rintro ⟨hle, ⟨hlt, hfree⟩, hbetween⟩
    cases h : l.nextUnmatched? slot with
    | none =>
      have hmatched := nextUnmatched?_eq_none h free hle hlt
      rw [hfree] at hmatched
      cases hmatched
    | some first =>
      obtain ⟨hle', hlt'⟩ := bounds_of_nextUnmatched? h
      obtain ⟨hfree', hbetween'⟩ := nextUnmatched?_eq_some h
      -- neither slot lies before the other
      rcases Nat.lt_trichotomy first free with hbefore | rfl | hbehind
      · have hmatched := hbetween first hle' hbefore
        rw [hfree'] at hmatched
        cases hmatched
      · rfl
      · have hmatched := hbetween' free hle hbehind
        rw [hfree] at hmatched
        cases hmatched

theorem nextUnmatched?_eq_none_iff : l.nextUnmatched? slot = none ↔
    ∀ other, slot ≤ other → other < l.length → l.isMatched other = true := by
  constructor
  · exact nextUnmatched?_eq_none
  · intro hall
    cases h : l.nextUnmatched? slot with
    | none => rfl
    | some free =>
      obtain ⟨hle, hlt⟩ := bounds_of_nextUnmatched? h
      have hmatched := hall free hle hlt
      rw [(nextUnmatched?_eq_some h).1] at hmatched
      cases hmatched

/-- A link is granted in its turn, if there is room or bytes for more are left. -/
theorem link_eq_ok_iff : (l.link slot ref budget).1 = .ok () ↔ slot = l.length ∧
    (l.length < l.capacity ∨ bytesFor (max l.capacity minStep) ≤ budget.limit - budget.reserved) := by
  obtain ⟨result, l', left, hlink⟩ : ∃ result l' left, l.link slot ref budget = (result, l', left) :=
    ⟨_, _, _, rfl⟩
  rw [hlink]
  rcases link_cases hlink with ⟨hslot, rfl, -⟩ | ⟨-, hfull, -, -, refusal, hres, rfl⟩ |
    ⟨hslot, hroom, rfl, -⟩ | ⟨hslot, -, rfl, -, hres⟩
  · simp [hslot]
  · unfold Budget.reserve Budget.available at hres
    split at hres
    · cases hres
    · next hfits => simp [Nat.not_lt_of_le hfull, hfits]
  · simp [hslot, hroom]
  · simp [hslot, Budget.le_limit_reserve hres]

theorem link_of_refused (h : (l.link slot ref budget).1 ≠ .ok ()) :
    (l.link slot ref budget).2 = (l, budget) := by
  obtain ⟨result, l', left, hlink⟩ : ∃ result l' left, l.link slot ref budget = (result, l', left) :=
    ⟨_, _, _, rfl⟩
  rw [hlink] at h ⊢
  rcases link_cases hlink with ⟨-, -, rfl, rfl⟩ | ⟨-, -, rfl, rfl, -⟩ | ⟨-, -, rfl, -⟩ |
    ⟨-, -, rfl, -⟩
  · rfl
  · rfl
  · exact absurd rfl h
  · exact absurd rfl h

/-- A mark is news if its slot is linked and free. -/
theorem mark_eq_true_iff : (l.mark slot).1 = true ↔ slot < l.length ∧ l.isMatched slot = false := by
  by_cases hfree : slot < l.length ∧ l.isMatched slot = false
  · simp [mark_of_free hfree.1 hfree.2, hfree]
  · simp [mark_of_not_free hfree, hfree]

theorem isMatched_mark_eq (h : l.Covered) (slot other : Nat) : (l.mark slot).2.isMatched other =
    (l.isMatched other || (l.mark slot).1 && other == slot) := by
  by_cases hfree : slot < l.length ∧ l.isMatched slot = false
  · rw [isMatched_mark h hfree.1, (mark_of_free hfree.1 hfree.2).1, Bool.true_and]
    rfl
  · rw [mark_of_not_free hfree, Bool.false_and, Bool.or_false]

theorem follows_of_refines (h : l.Refines r) : l.Follows r where
  length := h.length_eq
  length_le := h.length_le
  capacity := h.capacity
  rowRef slot := by
    rw [rowRef?, ← List.getElem?_map, ← h.links, Array.getElem?_toList]
  isMatched := h.isMatched_eq
  matchedCount := h.count
  unmatchedCount := by
    have hle : l.matchedCount ≤ l.length := by
      rw [h.count, h.length_eq]
      exact List.countP_le_length
    rw [unmatchedCount, Nat.add_sub_cancel' hle]
  found slot free := by
    rw [nextUnmatched?_eq_some_iff, h.flag_eq]
    constructor
    · rintro ⟨hle, hfree, hbetween⟩
      refine ⟨hle, hfree, ?_⟩
      intro other hother hlt
      exact h.flag_eq.mpr ⟨Nat.lt_trans hlt hfree.1, hbetween other hother hlt⟩
    · rintro ⟨hle, hfree, hbetween⟩
      refine ⟨hle, hfree, ?_⟩
      intro other hother hlt
      exact (h.flag_eq.mp (hbetween other hother hlt)).2
  notFound slot := by
    rw [nextUnmatched?_eq_none_iff, ← h.length_eq]
    constructor
    · intro hall other hle hlt
      exact h.flag_eq.mpr ⟨hlt, hall other hle hlt⟩
    · intro hall other hle hlt
      exact (h.flag_eq.mp (hall other hle hlt)).2
  unmatched := by
    rw [unmatchedFrom_eq, Nat.sub_zero, ← List.range_eq_range', ← h.length_eq]
    apply List.filter_congr
    intro slot hslot
    rw [Bool.eq_iff_iff, decide_eq_true_iff, h.flag_eq]
    simp [List.mem_range.mp hslot]
  link slot ref budget := by
    rw [link_eq_ok_iff, h.length_eq, h.capacity]
  refused slot ref budget := link_of_refused
  mark slot := by
    rw [mark_eq_true_iff, h.flag_eq]
  others slot other := by
    refine ⟨?_, isMatched_mark_eq h.covered slot other⟩
    rw [rowRef?, rowRef?, links_mark]

/-- **A ledger is a list of rows with marks.** After any calls, with any slots and any budgets, the
answers are those of the list, and what can be seen of the ledger is what the list says. -/
theorem follows_of_performAll (calls : List Call) :
    (empty.performAll calls).1 = (Roll.empty.performAll calls).1 ∧
      (empty.performAll calls).2.Follows (Roll.empty.performAll calls).2 := by
  obtain ⟨hanswers, h⟩ := refines_performAll refines_empty calls
  exact ⟨hanswers, follows_of_refines h⟩

end MatchLedger
end HashJoin
