/-!
# Memory budgets

A budget counts the bytes that one join has reserved, against a limit. Whoever needs memory reserves
it first and gives it back later; a reservation past the limit is refused and changes nothing.

## Main definitions

* `Budget`, `Refusal` — budgets, and what a refused reservation reports.
* `Budget.reserve`, `Budget.release`, `Budget.releaseAll`.

## Main results

* `reserved_reserve`, `limit_reserve`, `le_limit_reserve` — what a granted reservation does.
-/

namespace HashJoin

/-- The greatest number of a 64-bit counter. -/
def wordMax : Nat := UInt64.size - 1

/-- A refused reservation. -/
structure Refusal where
  /-- Bytes asked for. -/
  requested : Nat
  /-- Bytes that were left. -/
  available : Nat
  deriving DecidableEq

/-- The wording of a refusal. -/
def Refusal.message (r : Refusal) : String :=
  s!"reservation of {r.requested} bytes exceeds {r.available} available"

/-- A count of reserved bytes against a limit. Two more counters tell whether bytes were given back
as they were reserved. -/
structure Budget where
  /-- The most bytes that may be reserved at a time. -/
  limit : Nat
  /-- Bytes reserved now. -/
  reserved : Nat
  /-- The most bytes that were reserved at a time. -/
  peak : Nat
  /-- Bytes that were given back without having been reserved. -/
  overdrawn : Nat
  /-- Bytes that nobody gave back until everything was given back at once. -/
  leaked : Nat
  deriving DecidableEq

namespace Budget

/-- The untouched budget with the given limit. -/
def ofLimit (limit : Nat) : Budget := ⟨limit, 0, 0, 0, 0⟩

/-- Bytes that can still be reserved. -/
def available (b : Budget) : Nat := b.limit - b.reserved

/-- Reserves bytes, if that many are left. -/
def reserve (b : Budget) (bytes : Nat) : Except Refusal Budget :=
  if bytes ≤ b.available then
    .ok { b with reserved := b.reserved + bytes, peak := max b.peak (b.reserved + bytes) }
  else .error ⟨bytes, b.available⟩

/-- Gives bytes back. No more than are reserved can be; what goes beyond is noted. -/
def release (b : Budget) (bytes : Nat) : Budget :=
  { b with reserved := b.reserved - bytes, overdrawn := b.overdrawn + (bytes - b.reserved) }

/-- Gives back all that is reserved, and says how much it was. -/
def releaseAll (b : Budget) : Nat × Budget :=
  (b.reserved, { b with reserved := 0, leaked := b.leaked + b.reserved })

variable {b granted : Budget} {bytes : Nat}

theorem reserve_eq_ok_iff :
    b.reserve bytes = .ok granted ↔ bytes ≤ b.limit - b.reserved ∧
      granted = { b with reserved := b.reserved + bytes, peak := max b.peak (b.reserved + bytes) } := by
  unfold reserve available
  split
  · next h => simp [h, eq_comm]
  · next h => simp [h]

theorem limit_reserve (h : b.reserve bytes = .ok granted) : granted.limit = b.limit := by
  rw [(reserve_eq_ok_iff.mp h).2]

theorem reserved_reserve (h : b.reserve bytes = .ok granted) :
    granted.reserved = b.reserved + bytes := by
  rw [(reserve_eq_ok_iff.mp h).2]

theorem le_limit_reserve (h : b.reserve bytes = .ok granted) : bytes ≤ b.limit - b.reserved :=
  (reserve_eq_ok_iff.mp h).1

@[simp] theorem limit_release (b : Budget) (bytes : Nat) : (b.release bytes).limit = b.limit := rfl

@[simp] theorem reserved_release (b : Budget) (bytes : Nat) :
    (b.release bytes).reserved = b.reserved - bytes := rfl

@[simp] theorem peak_release (b : Budget) (bytes : Nat) : (b.release bytes).peak = b.peak := rfl

end Budget

end HashJoin
