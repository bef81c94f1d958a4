/-!
# Reading bytes as UTF-8

Bytes that are valid UTF-8 stand for their characters. In other bytes every longest piece that
begins like a character and is then broken off becomes one replacement character, and so does each
byte that cannot begin a character.

## Main definitions

* `Text.trailRanges` — the bytes that may follow a first byte, one range for each place.
* `Text.decode` — the text that a sequence of bytes stands for.
-/

namespace HashJoin.Text

/-- The range of any further byte of a character. -/
def tail : UInt8 × UInt8 := (0x80, 0xBF)

/-- The ranges of the bytes that follow a first byte, or `none` if no character begins with it. -/
def trailRanges (lead : UInt8) : Option (List (UInt8 × UInt8)) :=
  if lead ≤ 0x7F then some []
  else if lead < 0xC2 then none
  else if lead ≤ 0xDF then some [tail]
  else if lead = 0xE0 then some [(0xA0, 0xBF), tail]
  else if lead = 0xED then some [(0x80, 0x9F), tail]
  else if lead ≤ 0xEF then some [tail, tail]
  else if lead = 0xF0 then some [(0x90, 0xBF), tail, tail]
  else if lead ≤ 0xF3 then some [tail, tail, tail]
  else if lead = 0xF4 then some [(0x80, 0x8F), tail, tail]
  else none

/-- The bytes at the start of `bytes` that lie in the ranges, up to the first that does not. -/
def takeTrail : List (UInt8 × UInt8) → List UInt8 → List UInt8
  | (low, high) :: ranges, b :: bytes =>
    if low ≤ b && b ≤ high then b :: takeTrail ranges bytes else []
  | _, _ => []

/-- The character of a first byte and all the bytes that follow it: the first byte gives what its
length marker leaves, every other byte its low six bits. -/
def assemble (lead : UInt8) (trail : List UInt8) : Char :=
  let marker := if trail.isEmpty then 256 else 1 <<< (6 - trail.length)
  Char.ofNat (trail.foldl (fun code b => code * 64 + b.toNat % 64) (lead.toNat % marker))

/-- The character that stands for bytes that are not UTF-8. -/
def replacement : Char := '\uFFFD'

/-- The characters of a sequence of bytes. -/
def decodeList : List UInt8 → List Char
  | [] => []
  | lead :: rest =>
    match trailRanges lead with
    | none => replacement :: decodeList rest
    | some ranges =>
      let trail := takeTrail ranges rest
      let char := if trail.length = ranges.length then assemble lead trail else replacement
      char :: decodeList (rest.drop trail.length)
  termination_by bytes => bytes.length
  decreasing_by all_goals simp +arith

/-- The text of a sequence of bytes. -/
def decode (bytes : ByteArray) : String :=
  (String.fromUTF8? bytes).getD (String.ofList (decodeList bytes.toList))

end HashJoin.Text
