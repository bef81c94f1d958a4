/-!
# Binary floating-point numbers

A number of an interchange format is its bit pattern: a sign, a biased exponent and a fraction.
Everything here works on the pattern with exact natural-number arithmetic; a result that the
format cannot hold is rounded once, to the nearest number, halfway cases going to the even
neighbour.

## Main definitions

* `FloatWidth`, `Binary` — the two formats and their bit patterns.
* `Binary.significand`, `Binary.exponent` — a finite number is `± significand * 2 ^ exponent`.
* `Binary.ofQuotient` — the number nearest to `± num / den`.
* `Binary.ofInt`, `Binary.convert`, `Binary.mul` — operations that round an exact result once.
* `Binary.eq`, `Binary.lt`, `Binary.le` — comparison, in which a NaN is never related to anything.
* `Binary.canonical` — one pattern for both zeros and one for all NaNs.
-/

namespace HashJoin

/-- The two formats that columns are stored in. -/
inductive FloatWidth
  /-- 32 bits, 23 of them fraction. -/
  | single
  /-- 64 bits, 52 of them fraction. -/
  | double
  deriving DecidableEq

namespace FloatWidth

/-- Bytes that one number takes. -/
def byteSize : FloatWidth → Nat
  | single => 4
  | double => 8

/-- Bits that one number takes. -/
def size : FloatWidth → Nat
  | single => 32
  | double => 64

/-- Bits of the fraction field. -/
def fractionBits : FloatWidth → Nat
  | single => 23
  | double => 52

/-- The exponent of two of the least positive number. -/
def minExponent : FloatWidth → Int
  | single => -149
  | double => -1074

/-- The magnitude bits of infinity; larger magnitude bits are NaNs. -/
def infinity : FloatWidth → Nat
  | single => 255 <<< 23
  | double => 2047 <<< 52

end FloatWidth

/-- A floating-point number, as its bit pattern. -/
structure Binary (w : FloatWidth) where
  /-- Sign, biased exponent and fraction, from the highest bit down. -/
  pattern : BitVec w.size
  deriving DecidableEq

/-- A number of the 32-bit format. -/
abbrev Binary32 := Binary .single

/-- A number of the 64-bit format. -/
abbrev Binary64 := Binary .double

/-- The natural number nearest to `num / den`; a quotient halfway between two goes to the even
one. -/
def divNearest (num den : Nat) : Nat :=
  let q := num / den
  let r := num % den
  if 2 * r < den then q else if den < 2 * r then q + 1 else q + q % 2

namespace Binary

variable {v w : FloatWidth}

/-! ### Reading a pattern -/

/-- The pattern without its sign bit. -/
def magnitude (x : Binary w) : Nat := x.pattern.toNat % 1 <<< (w.size - 1)

/-- Whether the sign bit is set. -/
def isNegative (x : Binary w) : Bool := x.pattern.msb

/-- Whether the pattern stands for no number. -/
def isNaN (x : Binary w) : Bool := w.infinity < x.magnitude

/-- Whether the pattern is an infinity of either sign. -/
def isInfinite (x : Binary w) : Bool := x.magnitude == w.infinity

/-- The biased exponent field. -/
def exponentField (x : Binary w) : Nat := x.magnitude >>> w.fractionBits

/-- The integer significand of a finite number. -/
def significand (x : Binary w) : Nat :=
  let fraction := x.magnitude % 1 <<< w.fractionBits
  if x.exponentField = 0 then fraction else 1 <<< w.fractionBits + fraction

/-- The power of two that scales the significand of a finite number. -/
def exponent (x : Binary w) : Int := w.minExponent + (x.exponentField - 1 : Nat)

/-! ### Building a pattern -/

/-- The pattern with the given sign and magnitude bits. -/
def ofMagnitude (negative : Bool) (magnitude : Nat) : Binary w :=
  ⟨BitVec.ofNat w.size (magnitude + if negative then 1 <<< (w.size - 1) else 0)⟩

/-- Positive zero. -/
def zero : Binary w := ofMagnitude false 0

/-- The NaN that results stand on: quiet, positive, and otherwise all zero. -/
def nan : Binary w := ofMagnitude false (w.infinity + 1 <<< (w.fractionBits - 1))

/-- The infinity of the given sign. -/
def signedInfinity (negative : Bool) : Binary w := ofMagnitude negative w.infinity

/-- The exponent `e` with `2 ^ e ≤ num / den < 2 ^ (e + 1)`, for positive `num` and `den`. -/
def quotientExponent (num den : Nat) : Int :=
  let e : Int := (num.log2 : Int) - den.log2
  if den <<< e.toNat ≤ num <<< (-e).toNat then e else e - 1

/-- The number nearest to `± num / den`, where `den` is positive. The unit in the last place is
fixed first; since the fields of a pattern are adjacent, a significand that rounds up to the next
power of two carries into the exponent, and a magnitude past the last finite one is infinity. -/
def ofQuotient (negative : Bool) (num den : Nat) : Binary w :=
  if num = 0 then ofMagnitude negative 0
  else
    let unit := max (quotientExponent num den - w.fractionBits) w.minExponent
    let significand := divNearest (num <<< (-unit).toNat) (den <<< unit.toNat)
    let magnitude := (unit - w.minExponent).toNat <<< w.fractionBits + significand
    ofMagnitude negative (min magnitude w.infinity)

/-- The number nearest to `± significand * 2 ^ exponent`. -/
def ofScaled (negative : Bool) (significand : Nat) (exponent : Int) : Binary w :=
  ofQuotient negative (significand <<< exponent.toNat) (1 <<< (-exponent).toNat)

/-- The number nearest to an integer. -/
def ofInt (i : Int) : Binary w := ofQuotient (i < 0) i.natAbs 1

/-- The number nearest to a natural number. -/
def ofNat (n : Nat) : Binary w := ofInt n

/-! ### Arithmetic -/

/-- The number of another format that is nearest to `x`. -/
def convert (x : Binary v) : Binary w :=
  if x.isNaN then nan
  else if x.isInfinite then signedInfinity x.isNegative
  else ofScaled x.isNegative x.significand x.exponent

/-- The product, rounded once. -/
def mul (x y : Binary w) : Binary w :=
  let negative := x.isNegative != y.isNegative
  if x.isNaN || y.isNaN then nan
  else if x.isInfinite || y.isInfinite then
    if x.magnitude = 0 || y.magnitude = 0 then nan else signedInfinity negative
  else ofScaled negative (x.significand * y.significand) (x.exponent + y.exponent)

/-! ### Comparison -/

/-- The place of a number that is not a NaN on the line of numbers; both zeros are at `0`. -/
def rank (x : Binary w) : Int := if x.isNegative then -(x.magnitude : Int) else x.magnitude

/-- Numeric equality: zeros of either sign are equal, and a NaN equals nothing. -/
def eq (x y : Binary w) : Bool := !x.isNaN && !y.isNaN && x.rank == y.rank

/-- Numeric order; a NaN is below nothing and above nothing. -/
def lt (x y : Binary w) : Bool := !x.isNaN && !y.isNaN && x.rank < y.rank

/-- Less or equal in numeric order. -/
def le (x y : Binary w) : Bool := x.lt y || x.eq y

/-- The representative of a number for grouping: both zeros become positive zero, and every NaN
becomes one NaN. -/
def canonical (x : Binary w) : Binary w :=
  if x.isNaN then nan else if x.magnitude = 0 then zero else x

instance : BEq (Binary w) := ⟨eq⟩

end Binary

end HashJoin
