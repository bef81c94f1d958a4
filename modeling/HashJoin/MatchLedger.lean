import HashJoin.Budget
import HashJoin.Error.Join

/-!
# The match ledger

The ledger holds for every slot of the table the build row that the slot stands for, and one bit
that says whether the row has been matched. The bits are packed sixty-four to a word, and room for
rows and bits is reserved in steps that double.

## Main definitions

* `MatchLedger`, `MatchLedger.link`, `MatchLedger.mark`, `MatchLedger.clear`.
* `MatchLedger.isMatched`, `MatchLedger.nextUnmatched?` — the reading of the bits.
-/

namespace HashJoin

/-- The build rows by slot, and which of them have been matched. -/
structure MatchLedger where
  /-- The rows, by slot. -/
  links : Array RowRef
  /-- The bits of the slots, packed. -/
  words : Array UInt64
  /-- Number of bits that are set. -/
  matchedCount : Nat
  /-- The rows that there is room for. -/
  capacity : Nat
  /-- Bytes reserved for rows and bits. -/
  reservedBytes : Nat
  deriving DecidableEq

namespace MatchLedger

/-- Bits of a word. -/
def wordBits : Nat := 64

/-- The least number of rows to make room for. -/
def minStep : Nat := 1024

/-- Bytes for the references and the bits of some rows: eight for a reference, and eight for each
word of bits that is begun. -/
def bytesFor (rows : Nat) : Nat := 8 * rows + 8 * ((rows + wordBits - 1) / wordBits)

/-- The ledger of no slots. -/
def empty : MatchLedger := ⟨#[], #[], 0, 0, 0⟩

/-- Number of slots. -/
def length (l : MatchLedger) : Nat := l.links.size

/-- Makes room for one more slot. -/
def makeRoom (l : MatchLedger) (budget : Budget) : Except JoinError Unit × MatchLedger × Budget :=
  if l.length < l.capacity then (.ok (), l, budget)
  else
    let step := max l.capacity minStep
    match budget.reserve (bytesFor step) with
    | .error refusal => (.error (.ofRefusal .link refusal), l, budget)
    | .ok budget =>
      (.ok (), { l with
        capacity := l.capacity + step
        reservedBytes := l.reservedBytes + bytesFor step }, budget)

/-- The ledger with one more slot, not matched. A new word starts out clear. -/
def append : MatchLedger → RowRef → MatchLedger
  | ⟨links, words, matchedCount, capacity, reservedBytes⟩, ref =>
    let words := if words.size * wordBits < links.size + 1 then words.push 0 else words
    ⟨links.push ref, words, matchedCount, capacity, reservedBytes⟩

/-- Records the row of a slot. Slots have to come in order. -/
def link (l : MatchLedger) (slot : Nat) (ref : RowRef) (budget : Budget) :
    Except JoinError Unit × MatchLedger × Budget :=
  if slot ≠ l.length then
    let expected := l.length
    (.error (.internal (.slotOrder expected slot)), l, budget)
  else match l.makeRoom budget with
    | (.error e, l, budget) => (.error e, l, budget)
    | (.ok (), l, budget) => (.ok (), l.append ref, budget)

/-- The row of a slot. -/
def rowRef? (l : MatchLedger) (slot : Nat) : Option RowRef := l.links[slot]?

/-- The bit of a slot within its word. -/
def bitOf (slot : Nat) : UInt64 := UInt64.ofNat (1 <<< (slot % wordBits))

/-- Whether the row of a slot has been matched. -/
def isMatched (l : MatchLedger) (slot : Nat) : Bool :=
  slot < l.length && (l.words.getD (slot / wordBits) 0).toNat.testBit (slot % wordBits)

/-- Marks the row of a slot as matched. The result says whether this is news. -/
def mark (l : MatchLedger) (slot : Nat) : Bool × MatchLedger :=
  if slot < l.length && !l.isMatched slot then
    match l with
    | ⟨links, words, matchedCount, capacity, reservedBytes⟩ =>
      (true, ⟨links, words.modify (slot / wordBits) (· ||| bitOf slot), matchedCount + 1, capacity,
        reservedBytes⟩)
  else (false, l)

/-- The rest of a word from the bit of a slot on, with ones where the rows have not been matched. Bits
past the end of the word are zero. -/
def freeBits (l : MatchLedger) (slot : Nat) : BitVec 64 :=
  ~~~(l.words.getD (slot / wordBits) 0).toBitVec >>> (slot % wordBits)

/-- The first slot from the given one on whose row has not been matched. A word without one is passed
over at once. The last word may have bits past the last slot, and these do not count. -/
def nextUnmatched? (l : MatchLedger) (slot : Nat) : Option Nat :=
  if slot < l.length then
    if l.freeBits slot = 0 then l.nextUnmatched? ((slot / wordBits + 1) * wordBits)
    else
      let candidate := slot + (l.freeBits slot).ctz.toNat
      if candidate < l.length then some candidate else none
  else none
  termination_by l.length - slot
  decreasing_by simp only [wordBits] at *; omega

theorem bounds_of_nextUnmatched? {l : MatchLedger} {slot found : Nat}
    (h : l.nextUnmatched? slot = some found) : slot ≤ found ∧ found < l.length := by
  fun_induction l.nextUnmatched? slot with
  | case1 slot _ _ ih =>
    have := ih h
    simp only [wordBits] at this
    omega
  | case2 slot _ _ candidate hin =>
    rw [← Option.some.inj h]
    exact ⟨Nat.le_add_right _ _, hin⟩
  | case3 => cases h
  | case4 => cases h

/-- The slots from the given one on whose rows have not been matched. -/
def unmatchedFrom (l : MatchLedger) (slot : Nat) : List Nat :=
  match found : l.nextUnmatched? slot with
  | none => []
  | some free =>
    have := bounds_of_nextUnmatched? found
    free :: l.unmatchedFrom (free + 1)
  termination_by l.length - slot

/-- Number of slots whose rows have not been matched. -/
def unmatchedCount (l : MatchLedger) : Nat := l.length - l.matchedCount

/-- Drops all slots and gives their bytes back. -/
def clear (l : MatchLedger) (budget : Budget) : MatchLedger × Budget :=
  (empty, budget.release l.reservedBytes)

end MatchLedger

end HashJoin
