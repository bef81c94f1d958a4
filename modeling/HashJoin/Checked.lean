import HashJoin.Error.Join

/-!
# Checked computations

The definitions of the join read arrays and lists by look-ups that give something at any index, and
leave out some checks of the join on its own parts. A checked computation leaves nothing out. It stops
at the first index that is out of range, and at the first check that fails; and if it comes to a loop
that does not end, it has no result at all. Loops of which it is not plain that they end are made by
repeating a round, which says with what to go on or with what to end.

## Main definitions

* `Trap` — where a computation stops.
* `Checked` — the computations.
* `Checked.readAt`, `Checked.nth`, `Checked.writeAt`, `Checked.modifyAt`, `Checked.cut`,
  `Checked.part` — what indexes are used for.
* `Checked.defect` — a check that has failed.

## Main results

* `readAt_eq`, `nth_eq`, `writeAt_eq`, `modifyAt_eq`, `cut_eq`, `part_eq` — an index in range leads to
  what the look-up gives.
* `repeat_eq` — a loop is its first round, and what comes of it.
-/

namespace HashJoin

/-- What an index is used on. -/
inductive Indexed
  /-- The buckets of the table. -/
  | bucket
  /-- The entries of the table, by slot. -/
  | entry
  /-- The words of bits of the ledger. -/
  | word
  /-- The columns of a schema or of a batch. -/
  | column
  /-- The cells of a column. -/
  | row
  /-- The bytes of a bitmap. -/
  | bits
  /-- The offsets of a column of texts. -/
  | offset
  /-- The payload of a column of texts. -/
  | payload
  deriving DecidableEq

/-- Where a computation stops. -/
inductive Trap
  /-- An index is out of range. -/
  | index (kind : Indexed) (index size : Nat)
  /-- A check of the join on its own parts has failed. The join then ends with the error. -/
  | defect (error : JoinError)

/-- Computations that can stop at a trap, or run for ever. -/
abbrev Checked : Type → Type := ExceptT Trap Option

namespace Checked

variable {α : Type} {xs : Array α} {as : List α} {index : Nat}

/-- A check that has failed. -/
def defect (error : JoinError) : Checked α := throw (.defect error)

/-- What an index leads to, unless it is out of range. -/
def expect (kind : Indexed) (index size : Nat) : Option α → Checked α
  | some a => pure a
  | none => throw (.index kind index size)

/-- The element of an array at an index. -/
def readAt (kind : Indexed) (xs : Array α) (index : Nat) : Checked α :=
  expect kind index xs.size xs[index]?

/-- The element of a list at an index. -/
def nth (kind : Indexed) (as : List α) (index : Nat) : Checked α :=
  expect kind index as.length as[index]?

/-- The array with another element at an index. -/
def writeAt (kind : Indexed) (xs : Array α) (index : Nat) (x : α) : Checked (Array α) :=
  if index < xs.size then pure (xs.setIfInBounds index x) else throw (.index kind index xs.size)

/-- The array with a changed element at an index. -/
def modifyAt (kind : Indexed) (xs : Array α) (index : Nat) (f : α → α) : Checked (Array α) :=
  if index < xs.size then pure (xs.modify index f) else throw (.index kind index xs.size)

/-- The bytes between two places. -/
def cut (bytes : ByteArray) (start stop : Nat) : Checked ByteArray :=
  if start ≤ stop then
    if stop ≤ bytes.size then pure (bytes.extract start stop)
    else throw (.index .payload stop (bytes.size + 1))
  else throw (.index .payload start (stop + 1))

/-- A number of first elements, and the others. -/
def part (kind : Indexed) (as : List α) (count : Nat) : Checked (List α × List α) :=
  if count ≤ as.length then pure (as.take count, as.drop count)
  else throw (.index kind count (as.length + 1))

theorem ite_eq {c : Prop} [Decidable c] {x y : Checked α} {a b : α} (ht : c → x = pure a)
    (hf : ¬ c → y = pure b) : (if c then x else y) = pure (if c then a else b) := by
  by_cases h : c
  · rw [if_pos h, if_pos h, ht h]
  · rw [if_neg h, if_neg h, hf h]

/-- A loop is its first round, and then the loop from there on or its end. -/
theorem repeat_eq {σ β : Type} {_ : Nonempty β} (round : σ → Checked (σ ⊕ β)) (s : σ) :
    repeatM round s = round s >>= Sum.elim (repeatM round) pure := by
  rw [repeatM_eq_of_monadTail]
  refine bind_congr fun outcome => ?_
  cases outcome with
  | inl => rfl
  | inr => rfl

theorem readAt_of_lt (kind : Indexed) (h : index < xs.size) : readAt kind xs index = pure xs[index] := by
  rw [readAt, Array.getElem?_eq_getElem h]
  rfl

theorem readAt_eq (kind : Indexed) (h : index < xs.size) (fallback : α) :
    readAt kind xs index = pure (xs.getD index fallback) := by
  rw [readAt_of_lt kind h, Array.getD_eq_getD_getElem?, Array.getElem?_eq_getElem h]
  rfl

/-- One index too far is a trap, where the look-up gives what it falls back on. -/
example : readAt .row #[5] 1 = throw (.index .row 1 1) ∧ #[5].getD 1 0 = 0 := ⟨rfl, rfl⟩

theorem nth_eq (kind : Indexed) {a : α} (h : as[index]? = some a) : nth kind as index = pure a := by
  rw [nth, h]
  rfl

theorem writeAt_eq (kind : Indexed) (h : index < xs.size) (x : α) :
    writeAt kind xs index x = pure (xs.setIfInBounds index x) := if_pos h

theorem modifyAt_eq (kind : Indexed) (h : index < xs.size) (f : α → α) :
    modifyAt kind xs index f = pure (xs.modify index f) := if_pos h

theorem cut_eq {bytes : ByteArray} {start stop : Nat} (h : start ≤ stop) (hstop : stop ≤ bytes.size) :
    cut bytes start stop = pure (bytes.extract start stop) := by
  rw [cut, if_pos h, if_pos hstop]

theorem part_eq (kind : Indexed) {count : Nat} (h : count ≤ as.length) :
    part kind as count = pure (as.take count, as.drop count) := if_pos h

end Checked
end HashJoin
