import HashJoin.MatchLedger

/-!
# Linking slots

A link finds its slot out of order, or is refused the room, or is added, with or without new room.
What is added is one unmatched slot, and nothing else changes.

## Main results

* `link_cases` — all that a link can do.
* `links_append` — a link adds its row behind the others.
-/

namespace HashJoin
namespace MatchLedger

variable {l l' : MatchLedger} {ref : RowRef} {slot : Nat} {budget budget' : Budget}

/-- The ledger with room for more slots. -/
def extended (l : MatchLedger) : MatchLedger :=
  { l with
    capacity := l.capacity + max l.capacity minStep
    reservedBytes := l.reservedBytes + bytesFor (max l.capacity minStep) }

/-- A link comes out of order, or is refused the room, or is added to room that is there or new. -/
theorem link_cases {result : Except JoinError Unit}
    (h : l.link slot ref budget = (result, l', budget')) :
    (slot ≠ l.length ∧ result = .error (.internal (.slotOrder l.length slot)) ∧ l' = l ∧
        budget' = budget) ∨
      (slot = l.length ∧ l.capacity ≤ l.length ∧ l' = l ∧ budget' = budget ∧ ∃ refusal,
        budget.reserve (bytesFor (max l.capacity minStep)) = .error refusal ∧
          result = .error (.ofRefusal .link refusal)) ∨
      (slot = l.length ∧ l.length < l.capacity ∧ result = .ok () ∧ l' = l.append ref ∧
        budget' = budget) ∨
      (slot = l.length ∧ l.capacity ≤ l.length ∧ result = .ok () ∧ l' = l.extended.append ref ∧
        budget.reserve (bytesFor (max l.capacity minStep)) = .ok budget') := by
  simp only [link, makeRoom] at h
  by_cases hslot : slot = l.length
  · rw [if_neg (not_not_intro hslot)] at h
    by_cases hroom : l.length < l.capacity
    · rw [if_pos hroom] at h
      cases h
      exact .inr (.inr (.inl ⟨hslot, hroom, rfl, rfl, rfl⟩))
    · rw [if_neg hroom] at h
      have hfull := Nat.le_of_not_lt hroom
      cases hres : budget.reserve (bytesFor (max l.capacity minStep)) with
      | error refusal =>
        rw [hres] at h
        cases h
        exact .inr (.inl ⟨hslot, hfull, rfl, rfl, refusal, rfl, rfl⟩)
      | ok granted =>
        rw [hres] at h
        cases h
        exact .inr (.inr (.inr ⟨hslot, hfull, rfl, rfl, rfl⟩))
  · rw [if_pos hslot] at h
    cases h
    exact .inl ⟨hslot, rfl, rfl, rfl⟩

/-- A link adds its row behind the others. -/
@[simp] theorem links_append (l : MatchLedger) (ref : RowRef) :
    (l.append ref).links = l.links.push ref := rfl

@[simp] theorem length_append (l : MatchLedger) (ref : RowRef) :
    (l.append ref).length = l.length + 1 := Array.size_push ref

theorem length_of_link (h : l.link slot ref budget = (.ok (), l', budget')) :
    l'.length = l.length + 1 := by
  rcases link_cases h with ⟨-, herr, -⟩ | ⟨-, -, -, -, _, -, herr⟩ | ⟨-, -, -, rfl, -⟩ | ⟨-, -, -, rfl, -⟩
  · cases herr
  · cases herr
  · exact length_append l ref
  · exact length_append l.extended ref

@[simp] theorem reservedBytes_append (l : MatchLedger) (ref : RowRef) :
    (l.append ref).reservedBytes = l.reservedBytes := rfl

@[simp] theorem reservedBytes_mark (l : MatchLedger) (slot : Nat) :
    (l.mark slot).2.reservedBytes = l.reservedBytes := by
  unfold mark
  split <;> rfl

@[simp] theorem links_mark (l : MatchLedger) (slot : Nat) : (l.mark slot).2.links = l.links := by
  unfold mark
  split <;> rfl

end MatchLedger
end HashJoin
