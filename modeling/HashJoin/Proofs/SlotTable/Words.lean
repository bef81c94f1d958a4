import HashJoin.Proofs.SlotTable.Shape

/-!
# Words

The counts of a table and of a budget are words of 64 bits, and few of the sums, differences and products
that are made of them are checked. Done with words, an operation of a table has no result where an unchecked
one of them would leave the range of a word, and none if the buckets are still to be doubled when the loop
has asked often enough. The load factor can ask for doublings for ever, so what ends them is the checked
product: more than a number of buckets is never granted, whatever the budget.

## Main definitions

* `fit?`, `minus?` — numbers that have to be words.
* `Budget.reserve?`, `SlotTable.double?`, `SlotTable.makeRoom?`, `SlotTable.insert?` — the operations with
  words, and with any question in the place of the load factor.
* `SlotTable.Sized` — the invariant of a table after any attempts to insert.
* `SlotTable.Attempt`, `SlotTable.attemptAll` — one attempt after the other.
* `SlotTable.Ends` — how an attempt ends.

## Main results

* `makeRoom?_ends` — the buckets are doubled sixty times at most.
* `ends_of_attemptAll` — every attempt ends, and no number leaves its word.
-/

namespace HashJoin

/-! ### Numbers that are words -/

/-- A number, if it is a word. -/
def fit? (n : Nat) : Option Nat := if n ≤ wordMax then some n else none

/-- A difference, if it is a word. -/
def minus? (a b : Nat) : Option Nat := if b ≤ a then some (a - b) else none

theorem fit?_of_le {n : Nat} (h : n ≤ wordMax) : fit? n = some n := if_pos h

theorem minus?_of_le {a b : Nat} (h : b ≤ a) : minus? a b = some (a - b) := if_pos h

namespace Budget

/-- Reserves bytes. The sum has to be a word. -/
def reserve? (b : Budget) (bytes : Nat) : Option (Except Refusal Budget) :=
  if bytes ≤ b.available then do
    let reserved ← fit? (b.reserved + bytes)
    return .ok { b with reserved := reserved, peak := max b.peak reserved }
  else some (.error ⟨bytes, b.available⟩)

/-- The limit and what is reserved are words. -/
structure InWords (b : Budget) : Prop where
  /-- The limit. -/
  limit : b.limit ≤ wordMax
  /-- What is reserved. -/
  reserved : b.reserved ≤ wordMax

variable {b granted : Budget} {bytes : Nat}

/-- What is granted is within the limit, so its sum is a word. -/
theorem reserve?_eq (h : b.InWords) (bytes : Nat) : b.reserve? bytes = some (b.reserve bytes) := by
  have hlimit := h.limit
  have hreserved := h.reserved
  rw [reserve?, reserve]
  by_cases hfits : bytes ≤ b.available
  · have hsum : b.reserved + bytes ≤ wordMax := by
      rw [available] at hfits
      omega
    rw [if_pos hfits, if_pos hfits, fit?_of_le hsum]
    rfl
  · rw [if_neg hfits, if_neg hfits]

theorem inWords_reserve (h : b.InWords) (hres : b.reserve bytes = .ok granted) : granted.InWords := by
  have hlimit := h.limit
  have hreserved := h.reserved
  obtain ⟨hfits, rfl⟩ := reserve_eq_ok_iff.mp hres
  refine ⟨hlimit, ?_⟩
  show b.reserved + bytes ≤ wordMax
  omega

theorem inWords_release (h : b.InWords) (bytes : Nat) : (b.release bytes).InWords :=
  ⟨h.limit, Nat.le_trans (Nat.sub_le _ _) h.reserved⟩

end Budget

namespace SlotTable

open Budget (InWords)

/-! ### Operations with words -/

/-- Doubles the buckets. The number of buckets and their bytes are checked, and what is checked is refused;
the other numbers have to be words. -/
def double? (t : SlotTable) (budget : Budget) : Option (Except TableError Unit × SlotTable × Budget) :=
  match fit? (2 * t.buckets) with
  | none => some (.error (.slotsExhausted t.length), t, budget)
  | some buckets =>
    match fit? (bucketBytes * buckets) with
    | none => some (.error (.retryAfterSpill ⟨wordMax, budget.available⟩), t, budget)
    | some bytes => do
      match ← budget.reserve? bytes with
      | .error refusal => return (.error (.retryAfterSpill refusal), t, budget)
      | .ok granted =>
        let old := (fit? (bucketBytes * t.buckets)).getD 0
        let rest ← minus? t.reservedBytes old
        let reservedBytes ← fit? (rest + bytes)
        let resizes ← fit? (t.resizes + 1)
        let chains := t.chains.rebucket buckets
        return (.ok (), ⟨chains, t.loadFactor, t.arenaCapacity, resizes, reservedBytes⟩, granted.release old)

/-- Doubles the buckets while the answer to a question about the table is yes. There is no result if the
question would have to be asked more often than is given. -/
def makeRoom? (more : SlotTable → Bool) :
    Nat → SlotTable → Budget → Option (Except TableError Unit × SlotTable × Budget)
  | 0, _, _ => none
  | questions + 1, t, budget =>
    if more t then do
      match ← t.double? budget with
      | (.error e, t, budget) => return (.error e, t, budget)
      | (.ok (), t, budget) => makeRoom? more questions t budget
    else some (.ok (), t, budget)

/-- Makes room for one more entry. All numbers have to be words. -/
def extendArena? (t : SlotTable) (budget : Budget) : Option (Except TableError Unit × SlotTable × Budget) :=
  if t.length < t.arenaCapacity then some (.ok (), t, budget)
  else do
    let step := max t.arenaCapacity minArenaStep
    let bytes ← fit? (entryBytes * step)
    match ← budget.reserve? bytes with
    | .error refusal => return (.error (.retryAfterSpill refusal), t, budget)
    | .ok granted =>
      let arenaCapacity ← fit? (t.arenaCapacity + step)
      let reservedBytes ← fit? (t.reservedBytes + bytes)
      return (.ok (), { t with arenaCapacity := arenaCapacity, reservedBytes := reservedBytes }, granted)

/-- Inserts a hash, with any question in the place of the load factor. -/
def insert? (t : SlotTable) (more : SlotTable → Bool) (questions : Nat) (hash : UInt32) (budget : Budget) :
    Option (Except TableError Nat × SlotTable × Budget) :=
  let slot := t.length
  if maxSlots ≤ slot then some (.error (.slotsExhausted slot), t, budget)
  else do
    match ← makeRoom? more questions t budget with
    | (.error e, t, budget) => return (.error e, t, budget)
    | (.ok (), t, budget) =>
      match ← t.extendArena? budget with
      | (.error e, t, budget) => return (.error e, t, budget)
      | (.ok (), t, budget) => return (.ok slot, t.append hash, budget)

/-- The question that the load factor answers: whether there are too many entries with one more. -/
def isFull (t : SlotTable) : Bool := t.exceeds (t.length + 1)

/-! ### The size of a table -/

/-- The most doublings of the buckets of a table. -/
def maxDoublings : Nat := 60

/-- The table has slots with the given hashes, and all its numbers are far from the end of a word. -/
structure Sized (t : SlotTable) (j : Nat) (hs : List UInt32) : Prop where
  /-- The slots are linked. -/
  holds : t.Holds hs
  /-- The number of buckets is a power of two. -/
  buckets : t.buckets = 1 <<< j
  /-- The bytes of more buckets would not be a word. -/
  le_max : j ≤ maxDoublings
  /-- The buckets were doubled no more often than that. -/
  resizes : t.resizes ≤ j
  /-- The bytes are those of the buckets and the entries. -/
  accounted : t.Accounted
  /-- Room for entries is made only where slots are left. -/
  room : t.arenaCapacity ≤ 1 <<< 33
  /-- The slots are below their end. -/
  fits : t.length ≤ maxSlots

variable {t t' : SlotTable} {hs : List UInt32} {hash : UInt32} {budget granted left : Budget} {j : Nat}

theorem shiftLeft_le_max (h : j ≤ maxDoublings) : 1 <<< j ≤ 1 <<< maxDoublings := by
  rw [Nat.shiftLeft_eq, Nat.shiftLeft_eq, Nat.one_mul, Nat.one_mul]
  exact Nat.pow_le_pow_right Nat.two_pos h

theorem Sized.buckets_le (h : t.Sized j hs) : t.buckets ≤ 1 <<< maxDoublings := by
  rw [h.buckets]
  exact shiftLeft_le_max h.le_max

/-- The bytes of a granted number of buckets are a word. -/
theorem le_wordMax_of_reserveBuckets {n : Nat} (h : reserveBuckets n budget = .ok granted) :
    bucketBytes * n ≤ wordMax := by
  unfold reserveBuckets at h
  split at h
  · assumption
  · cases h

/-- More buckets than the most are never granted: their bytes are not a word. -/
theorem le_maxDoublings_of_bytes (h : bucketBytes * 1 <<< j ≤ wordMax) : j ≤ maxDoublings := by
  apply Nat.le_of_lt_succ
  apply Nat.lt_of_not_le
  intro hle
  have hpow : 2 ^ (maxDoublings + 1) ≤ 2 ^ j := Nat.pow_le_pow_right Nat.two_pos hle
  rw [Nat.shiftLeft_eq, Nat.one_mul] at h
  simp only [bucketBytes, wordMax, maxDoublings, UInt64.size] at *
  omega

theorem length_doubled (h : t.Holds hs) : t.doubled.length = t.length := by
  rw [length_of_holds (holds_doubled h), length_of_holds h]

/-- A granted doubling. -/
theorem sized_doubled (h : t.Sized j hs) (hres : reserveBuckets (2 * t.buckets) budget = .ok granted) :
    t.doubled.Sized (j + 1) hs := by
  have hbuckets : t.doubled.buckets = 1 <<< (j + 1) := by
    rw [buckets_doubled h.holds.pos, h.buckets, Nat.shiftLeft_succ]
  refine ⟨holds_doubled h.holds, hbuckets, ?_, Nat.succ_le_succ h.resizes, ?_, h.room, ?_⟩
  · apply le_maxDoublings_of_bytes
    rw [← hbuckets, buckets_doubled h.holds.pos]
    exact le_wordMax_of_reserveBuckets hres
  · have hheld := h.accounted
    have hbytes : t.doubled.reservedBytes =
        t.reservedBytes - bucketBytes * t.buckets + bucketBytes * (2 * t.buckets) := rfl
    rw [Accounted] at hheld ⊢
    rw [hbytes, buckets_doubled h.holds.pos, hheld]
    show _ = _ + entryBytes * t.arenaCapacity
    omega
  · rw [length_doubled h.holds]
    exact h.fits

/-- The bytes of a table are a word. -/
theorem Sized.bytes_le (h : t.Sized j hs) : t.reservedBytes ≤ wordMax := by
  have hbuckets := h.buckets_le
  have hroom := h.room
  rw [h.accounted]
  simp only [bucketBytes, entryBytes, maxDoublings, wordMax, UInt64.size] at *
  omega

/-- A doubling with words is a doubling. -/
theorem double?_eq (h : t.Sized j hs) (hb : budget.InWords) : t.double? budget =
    some (match reserveBuckets (2 * t.buckets) budget with
      | .error e => (.error e, t, budget)
      | .ok granted => (.ok (), t.doubled, granted.release (bucketBytes * t.buckets))) := by
  have hbuckets := h.buckets_le
  have hheld := h.bytes_le
  have hold : bucketBytes * t.buckets ≤ t.reservedBytes := by
    rw [h.accounted]
    omega
  have htwice : 2 * t.buckets ≤ wordMax := by
    simp only [maxDoublings, wordMax, UInt64.size] at *
    omega
  have hresizes : t.resizes + 1 ≤ wordMax := by
    have hresizes := h.resizes
    have hmax := h.le_max
    simp only [maxDoublings, wordMax, UInt64.size] at *
    omega
  by_cases hbytes : bucketBytes * (2 * t.buckets) ≤ wordMax
  · simp only [double?, fit?_of_le htwice, fit?_of_le hbytes, Budget.reserve?_eq hb, bind, Option.bind]
    cases hres : budget.reserve (bucketBytes * (2 * t.buckets)) with
    | error refusal => simp only [reserveBuckets, if_pos hbytes, hres, pure]
    | ok granted =>
      -- the bytes of the table with more buckets are a word like those of the table
      have hmore : reserveBuckets (2 * t.buckets) budget = .ok granted := by
        simp only [reserveBuckets, if_pos hbytes, hres]
      have hsum : t.reservedBytes - bucketBytes * t.buckets + bucketBytes * (2 * t.buckets) ≤ wordMax :=
        (sized_doubled h hmore).bytes_le
      simp only [hmore, fit?_of_le (Nat.le_trans hold hheld), Option.getD_some, minus?_of_le hold,
        fit?_of_le hsum, fit?_of_le hresizes]
      rfl
  · have hnone : fit? (bucketBytes * (2 * t.buckets)) = none := if_neg hbytes
    simp only [double?, fit?_of_le htwice, hnone, reserveBuckets, if_neg hbytes]

/-- **The doublings end.** Whatever is answered to the question for more, the buckets are doubled until they
are the most that there can be, or less often, and no number leaves its word. -/
theorem makeRoom?_ends (more : SlotTable → Bool) {questions : Nat} (h : t.Sized j hs) (hb : budget.InWords)
    (hquestions : maxDoublings < questions + j) :
    ∃ result k left, t.makeRoom? more questions budget = some (result, doubled^[k] t, left) ∧
      (doubled^[k] t).Sized (j + k) hs ∧ left.InWords ∧
      ∀ e, result = .error e → ∃ refusal, e = .retryAfterSpill refusal := by
  -- on the questions that may still be asked
  induction questions generalizing t j budget with
  | zero => exact absurd h.le_max (by omega)
  | succ questions ih =>
    rw [makeRoom?]
    by_cases hmore : more t = true
    · rw [if_pos hmore, double?_eq h hb]
      cases hres : reserveBuckets (2 * t.buckets) budget with
      | error e =>
        refine ⟨.error e, 0, budget, rfl, h, hb, ?_⟩
        intro e' he'
        cases he'
        exact reserveBuckets_eq_error hres
      | ok granted =>
        have hgranted := Budget.inWords_reserve hb (reserve_of_reserveBuckets hres)
        obtain ⟨result, k, left, hroom, hsized, hleft, hrefused⟩ :=
          ih (sized_doubled h hres) (Budget.inWords_release hgranted (bucketBytes * t.buckets)) (by omega)
        refine ⟨result, k + 1, left, hroom, ?_, hleft, hrefused⟩
        rw [Function.iterate_succ_apply, ← Nat.add_assoc, Nat.add_right_comm]
        exact hsized
    · rw [if_neg hmore]
      exact ⟨.ok (), 0, budget, rfl, h, hb, nofun⟩

/-- With the question that the load factor answers the doublings are those of the table. -/
theorem makeRoom?_isFull {questions : Nat} (h : t.Sized j hs) (hb : budget.InWords)
    (hquestions : maxDoublings < questions + j) :
    t.makeRoom? isFull questions budget = some (t.makeRoom budget) := by
  obtain ⟨fewer, rfl⟩ : ∃ n, questions = n + 1 := ⟨questions - 1, by have := h.le_max; omega⟩
  -- on the doublings that are granted
  fun_induction t.makeRoom budget generalizing j fewer with
  | case1 t _ hempty => exact absurd hempty (Nat.ne_of_gt h.holds.pos)
  | case2 t budget _ hmore e hres =>
    have hfull : t.isFull = true := hmore
    rw [makeRoom?, if_pos hfull, double?_eq h hb, hres]
    rfl
  | case3 t budget _ hmore granted hres _ ih =>
    have hfull : t.isFull = true := hmore
    have hgranted := Budget.inWords_reserve hb (reserve_of_reserveBuckets hres)
    have hsized := sized_doubled h hres
    obtain ⟨fewer, rfl⟩ : ∃ n, fewer = n + 1 := ⟨fewer - 1, by have := hsized.le_max; omega⟩
    rw [makeRoom?, if_pos hfull, double?_eq h hb, hres]
    exact ih hsized (Budget.inWords_release hgranted _) fewer (by omega)
  | case4 t _ _ hfree =>
    have hfree : ¬ t.isFull = true := hfree
    rw [makeRoom?, if_neg hfree]

/-! ### One entry more -/

/-- Room for entries with words is room for entries. -/
theorem extendArena?_eq (h : t.Sized j hs) (hb : budget.InWords) (hslots : t.length < maxSlots) :
    t.extendArena? budget = some (t.extendArena budget) := by
  rw [extendArena?, extendArena]
  by_cases hspace : t.length < t.arenaCapacity
  · rw [if_pos hspace, if_pos hspace]
  · have hroom : t.arenaCapacity ≤ maxSlots := by omega
    have hheld := h.accounted
    have hbuckets := h.buckets_le
    have hstep : entryBytes * max t.arenaCapacity minArenaStep ≤ wordMax ∧
        t.arenaCapacity + max t.arenaCapacity minArenaStep ≤ wordMax ∧
        t.reservedBytes + entryBytes * max t.arenaCapacity minArenaStep ≤ wordMax := by
      simp only [Accounted, bucketBytes, entryBytes, minArenaStep, maxSlots, maxDoublings, wordMax,
        UInt32.size, UInt64.size] at *
      omega
    obtain ⟨hbytes, hcapacity, hsum⟩ := hstep
    rw [if_neg hspace, if_neg hspace]
    simp only [fit?_of_le hbytes, fit?_of_le hcapacity, fit?_of_le hsum, Budget.reserve?_eq hb, bind,
      Option.bind]
    cases budget.reserve (entryBytes * max t.arenaCapacity minArenaStep) <;> rfl

theorem sized_extendArena (h : t.Sized j hs) (hslots : t.length < maxSlots)
    {result : Except TableError Unit} (hext : t.extendArena budget = (result, t', left)) :
    t'.Sized j hs ∧ t'.length = t.length := by
  rcases extendArena_cases hext with ⟨-, -, rfl, -⟩ | ⟨-, rfl, -⟩ | ⟨hfull, -, -, rfl⟩
  · exact ⟨h, rfl⟩
  · exact ⟨h, rfl⟩
  · refine ⟨⟨⟨h.holds.linked, h.holds.pos⟩, h.buckets, h.le_max, h.resizes, ?_, ?_, h.fits⟩, rfl⟩
    · show t.reservedBytes + _ = bucketBytes * t.buckets + entryBytes * (_ + _)
      rw [h.accounted, Nat.mul_add]
      omega
    · show t.arenaCapacity + max t.arenaCapacity minArenaStep ≤ 1 <<< 33
      simp only [minArenaStep, maxSlots, UInt32.size] at *
      omega

/-! ### Attempts -/

/-- An attempt to insert a hash. -/
structure Attempt where
  /-- The question whether the buckets are to be doubled once more. -/
  more : SlotTable → Bool
  /-- The hash. -/
  hash : UInt32
  /-- The budget. -/
  budget : Budget

/-- What comes of an attempt that may ask its question once more than the buckets can be doubled. -/
def attempt (t : SlotTable) (a : Attempt) : Option (Except TableError Nat × SlotTable × Budget) :=
  t.insert? a.more (maxDoublings + 1) a.hash a.budget

/-- What comes of one attempt after the other. -/
def attemptAll (t : SlotTable) : List Attempt → Option (List (Except TableError Nat) × SlotTable)
  | [] => some ([], t)
  | a :: attempts => do
    let (result, t, _) ← t.attempt a
    let (results, t) ← t.attemptAll attempts
    return (result :: results, t)

/-- How an attempt ends. -/
structure Ends (t : SlotTable) (a : Attempt) (result : Except TableError Nat) (t' : SlotTable)
    (left : Budget) : Prop where
  /-- It does, and no number has left its word. -/
  ends : t.attempt a = some (result, t', left)
  /-- The buckets were doubled some times. -/
  doublings : ∃ k, t'.buckets = t.buckets <<< k ∧ t'.resizes = t.resizes + k
  /-- They are not doubled more than sixty times in all. -/
  resizes : t'.resizes ≤ maxDoublings
  /-- The hash has the next slot, or memory was refused, or no slot was left. -/
  outcome : (result = .ok t.length ∧ t'.length = t.length + 1 ∧
      t'.chains.entries[t.length]?.map Entry.hash = some a.hash) ∨
    (t'.length = t.length ∧ ∃ refusal, result = .error (.retryAfterSpill refusal)) ∨
    (maxSlots ≤ t.length ∧ t' = t ∧ result = .error (.slotsExhausted t.length))
  /-- The bucket of a hash can be found by masking, as there is one and their number is a power of two. -/
  mask : 1 ≤ t'.buckets ∧ ∀ hash : UInt32, hash.toNat &&& (t'.buckets - 1) = Chains.bucketOf hash t'.buckets
  /-- With the question that the load factor answers it is an insertion. -/
  insert : a.more = isFull → (result, t', left) = t.insert a.hash a.budget

theorem Sized.mask (h : t.Sized j hs) :
    1 ≤ t.buckets ∧ ∀ hash : UInt32, hash.toNat &&& (t.buckets - 1) = Chains.bucketOf hash t.buckets := by
  refine ⟨h.holds.pos, ?_⟩
  intro hash
  rw [Chains.bucketOf, h.buckets, Nat.shiftLeft_eq, Nat.one_mul]
  exact Nat.and_two_pow_sub_one_eq_mod _ j

/-- The last slot has the hash that came last. -/
theorem hash_of_holds (h : t.Holds (hs ++ [hash])) :
    t.chains.entries[hs.length]?.map Entry.hash = some hash := by
  have hhashes : t.chains.hashes = hs ++ [hash] := h.linked.hashes
  rw [← Array.getElem?_toList, ← List.getElem?_map]
  show t.chains.hashes[hs.length]? = _
  rw [hhashes, List.getElem?_concat_length]

theorem sized_append (h : t.Sized j hs) (hslots : t.length < maxSlots) (hash : UInt32) :
    (t.append hash).Sized j (hs ++ [hash]) := by
  have hholds := holds_append h.holds hash
  refine ⟨hholds, by rw [buckets_append, h.buckets], h.le_max, h.resizes, accounted_append h.accounted hash,
    h.room, ?_⟩
  rw [length_of_holds hholds, List.length_append, ← length_of_holds h.holds]
  exact hslots

theorem extendArena_eq_error {e : TableError} (h : t.extendArena budget = (.error e, t', left)) :
    ∃ refusal, e = .retryAfterSpill refusal := by
  rcases extendArena_cases h with ⟨-, hok, -⟩ | ⟨-, -, -, refusal, -, hno⟩ | ⟨-, hok, -⟩
  · cases hok
  · exact ⟨refusal, Except.error.inj hno⟩
  · cases hok

/-- An attempt whose doublings went through. Room for entries may still be refused. -/
theorem ends_of_roomy {a : Attempt} {roomy : SlotTable} {k : Nat} (h : t.Sized j hs)
    (hslots : t.length < maxSlots)
    (hroom : t.makeRoom? a.more (maxDoublings + 1) a.budget = some (.ok (), roomy, granted))
    (hmade : a.more = isFull → t.makeRoom a.budget = (.ok (), roomy, granted))
    (hsized : roomy.Sized (j + k) hs) (hgranted : granted.InWords)
    (hbuckets : roomy.buckets = t.buckets <<< k) (hresizes : roomy.resizes = t.resizes + k) :
    ∃ result t' left, t.Ends a result t' left ∧ ∃ j' hs', t'.Sized j' hs' := by
  have hfull := Nat.not_le_of_lt hslots
  have hlength : roomy.length = t.length := by rw [length_of_holds hsized.holds, length_of_holds h.holds]
  have hspare : roomy.length < maxSlots := by rw [hlength]; exact hslots
  obtain ⟨extended, ready, left, hext⟩ : ∃ extended ready left,
      roomy.extendArena granted = (extended, ready, left) := ⟨_, _, _, rfl⟩
  have hext? : roomy.extendArena? granted = some (extended, ready, left) := by
    rw [extendArena?_eq hsized hgranted hspare, hext]
  obtain ⟨hready, hsame⟩ := sized_extendArena hsized hspare hext
  obtain ⟨hchains, -, hcount⟩ := frame_extendArena hext
  have hbuckets' : ready.buckets = t.buckets <<< k := by rw [buckets, hchains]; exact hbuckets
  have hmax := Nat.le_trans hready.resizes hready.le_max
  cases extended with
  | error e =>
    obtain ⟨refusal, rfl⟩ := extendArena_eq_error hext
    refine ⟨.error (.retryAfterSpill refusal), ready, left, ⟨?_, ⟨k, hbuckets', hcount.trans hresizes⟩, hmax,
      .inr (.inl ⟨hsame.trans hlength, refusal, rfl⟩), hready.mask, ?_⟩, _, _, hready⟩
    · simp only [attempt, insert?, if_neg hfull, hroom, hext?, bind, Option.bind, pure]
    · intro hmore
      simp only [insert, if_neg hfull, hmade hmore, hext]
  | ok =>
    have happended := sized_append hready (by rw [hsame]; exact hspare) a.hash
    refine ⟨.ok t.length, ready.append a.hash, left, ⟨?_, ⟨k, ?_, hcount.trans hresizes⟩, hmax,
      .inl ⟨rfl, ?_, ?_⟩, happended.mask, ?_⟩, _, _, happended⟩
    · simp only [attempt, insert?, if_neg hfull, hroom, hext?, bind, Option.bind, pure]
    · rw [buckets_append, hbuckets']
    · rw [length_of_holds happended.holds, List.length_append, length_of_holds h.holds]
      rfl
    · rw [length_of_holds h.holds]
      exact hash_of_holds happended.holds
    · intro hmore
      simp only [insert, if_neg hfull, hmade hmore, hext]

/-- Every attempt ends, with a table of its size. -/
theorem ends_of_sized (h : t.Sized j hs) (a : Attempt) (hb : a.budget.InWords) :
    ∃ result t' left, t.Ends a result t' left ∧ ∃ j' hs', t'.Sized j' hs' := by
  by_cases hfull : maxSlots ≤ t.length
  · refine ⟨_, t, a.budget, ⟨by rw [attempt, insert?, if_pos hfull], ⟨0, rfl, rfl⟩,
      Nat.le_trans h.resizes h.le_max, .inr (.inr ⟨hfull, rfl, rfl⟩), h.mask, ?_⟩, j, hs, h⟩
    intro _
    rw [insert, if_pos hfull]
  have hquestions : maxDoublings < maxDoublings + 1 + j := by omega
  obtain ⟨made, k, granted, hroom, hsized, hgranted, hrefused⟩ := makeRoom?_ends a.more h hb hquestions
  have hmade : a.more = isFull → t.makeRoom a.budget = (made, doubled^[k] t, granted) := by
    intro hmore
    rw [hmore, makeRoom?_isFull h hb hquestions] at hroom
    exact Option.some.inj hroom
  have hbuckets := buckets_iterate h.holds k
  have hresizes := resizes_iterate t k
  cases made with
  | error e =>
    obtain ⟨refusal, rfl⟩ := hrefused e rfl
    have hlength : (doubled^[k] t).length = t.length := by
      rw [length_of_holds hsized.holds, length_of_holds h.holds]
    refine ⟨.error (.retryAfterSpill refusal), doubled^[k] t, granted, ⟨?_, ⟨k, hbuckets, hresizes⟩,
      Nat.le_trans hsized.resizes hsized.le_max, .inr (.inl ⟨hlength, refusal, rfl⟩), hsized.mask, ?_⟩,
      _, _, hsized⟩
    · simp only [attempt, insert?, if_neg hfull, hroom, bind, Option.bind, pure]
    · intro hmore
      rw [insert, if_neg hfull, hmade hmore]
  | ok => exact ends_of_roomy h (Nat.lt_of_not_le hfull) hroom hmade hsized hgranted hbuckets hresizes

/-- A new table has its size, whatever the budget. -/
theorem sized_create {minBuckets : Nat} {loadFactor : Binary64}
    (h : create minBuckets loadFactor budget = .ok (t, left)) : ∃ j, t.Sized j [] := by
  have hholds := holds_create h
  obtain ⟨hres, rfl⟩ := create_eq_ok h
  obtain ⟨j, hj⟩ := Nat.isPowerOfTwo_nextPowerOfTwo (max minBuckets 1)
  have hpow : (max minBuckets 1).nextPowerOfTwo = 1 <<< j := by rw [hj, Nat.shiftLeft_eq, Nat.one_mul]
  refine ⟨j, hholds, ?_, ?_, Nat.zero_le _, ?_, Nat.zero_le _, Nat.zero_le _⟩
  · rw [← hpow]
    simp [buckets, Chains.empty]
  · apply le_maxDoublings_of_bytes
    rw [← hpow]
    exact le_wordMax_of_reserveBuckets hres
  · simp [Accounted, buckets, Chains.empty]

/-- Attempts one after the other all end. With the question that the load factor answers they are
insertions. -/
theorem sized_attemptAll (h : t.Sized j hs) (attempts : List Attempt)
    (hwords : ∀ a ∈ attempts, a.budget.InWords) :
    ∃ results filled, t.attemptAll attempts = some (results, filled) ∧ (∃ j' hs', filled.Sized j' hs') ∧
      ((∀ a ∈ attempts, a.more = isFull) →
        filled = (t.insertEach (attempts.map fun a => (a.hash, a.budget))).2) := by
  induction attempts generalizing t j hs with
  | nil => exact ⟨[], t, rfl, ⟨j, hs, h⟩, fun _ => rfl⟩
  | cons a attempts ih =>
    obtain ⟨result, t', left, hends, j', hs', hsized⟩ := ends_of_sized h a (hwords a List.mem_cons_self)
    obtain ⟨results, filled, hall, hfilled, hinserts⟩ :=
      ih hsized fun other hother => hwords other (List.mem_cons_of_mem _ hother)
    refine ⟨result :: results, filled, ?_, hfilled, ?_⟩
    · simp only [attemptAll, hends.ends, hall, bind, Option.bind, pure]
    · intro hmore
      rw [hinserts fun other hother => hmore other (List.mem_cons_of_mem _ hother), List.map_cons,
        insertEach, ← hends.insert (hmore a List.mem_cons_self)]

/-- **Every attempt to insert ends.** A table is made with any number of buckets and any load factor. In
every attempt the buckets may be doubled for any reason, again and again, under a budget of any limit that
is a word. Then each attempt ends within sixty doublings, of which there are no more in all: the hash has
the next slot, or memory is refused, or there is no slot left; and no unchecked sum, difference or product
of the numbers of buckets, entries and bytes leaves its word. If the load factor is what the buckets are
doubled for, the attempts are insertions. -/
theorem ends_of_attemptAll {minBuckets : Nat} {loadFactor : Binary64}
    (h : create minBuckets loadFactor budget = .ok (t, left)) (attempts : List Attempt)
    (hwords : ∀ a ∈ attempts, a.budget.InWords) :
    ∃ results filled, t.attemptAll attempts = some (results, filled) ∧
      ((∀ a ∈ attempts, a.more = isFull) →
        filled = (t.insertEach (attempts.map fun a => (a.hash, a.budget))).2) ∧
      ∀ a : Attempt, a.budget.InWords → ∃ result t' rest, filled.Ends a result t' rest := by
  obtain ⟨j, hsized⟩ := sized_create h
  obtain ⟨results, filled, hall, ⟨j', hs', hfilled⟩, hinserts⟩ := sized_attemptAll hsized attempts hwords
  refine ⟨results, filled, hall, hinserts, ?_⟩
  intro a hb
  obtain ⟨result, t', rest, hends, -⟩ := ends_of_sized hfilled a hb
  exact ⟨result, t', rest, hends⟩

/-- A load factor that is no number, and the greatest limit that there is. The first attempt asks for more
buckets for ever, and the second one goes by the load factor. -/
theorem ends_of_attemptAll_insatiable :
    let t : SlotTable := ⟨.empty 1, .nan, 0, 0, 8⟩
    let attempts : List Attempt :=
      [⟨fun _ => true, 7, .ofLimit wordMax⟩, ⟨isFull, 5, .ofLimit wordMax⟩]
    create 1 .nan (.ofLimit wordMax) = .ok (t, ⟨wordMax, 8, 8, 0, 0⟩) ∧
      (∀ a ∈ attempts, a.budget.InWords) ∧
      ∃ results filled, t.attemptAll attempts = some (results, filled) ∧
        ∃ result t' rest, filled.Ends ⟨fun _ => true, 9, .ofLimit wordMax⟩ result t' rest := by
  intro t attempts
  have hsize : (max 1 1).nextPowerOfTwo = 1 := by decide +kernel
  have hcreate : create 1 .nan (.ofLimit wordMax) = .ok (t, ⟨wordMax, 8, 8, 0, 0⟩) := by
    rw [create, hsize]
    rfl
  have hwide : (Budget.ofLimit wordMax).InWords := ⟨Nat.le_refl _, Nat.zero_le _⟩
  have hwords : ∀ a ∈ attempts, a.budget.InWords := by
    intro a ha
    rcases List.mem_cons.mp ha with rfl | ha
    · exact hwide
    · rw [List.mem_singleton.mp ha]
      exact hwide
  obtain ⟨results, filled, hall, -, hends⟩ := ends_of_attemptAll hcreate attempts hwords
  exact ⟨hcreate, hwords, results, filled, hall, hends _ hwide⟩

end SlotTable
end HashJoin
