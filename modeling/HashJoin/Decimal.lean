import HashJoin.Binary

/-!
# Decimals

The decimal that stands for a binary number is the one with the fewest digits among those that
read back to it, and of several with that many digits the nearest. A candidate is tested in exact
arithmetic: it reads back when it lies between the midpoints to the two neighbouring numbers, the
midpoints included when the significand is even.

## Main definitions

* `Decimal` — an integer with a power of ten.
* `Binary.roundsTo` — the decimals at a given scale that read back to a number.
* `Binary.shortest` — the first scale, from coarse to fine, at which there is one.
* `Binary.ofDecimal` — the number that a decimal reads as.
-/

namespace HashJoin

/-- The number `digits * 10 ^ exponent`. -/
structure Decimal where
  /-- The digits, read as one natural number. -/
  digits : Nat
  /-- The power of ten of the last digit. -/
  exponent : Int
  deriving DecidableEq

namespace Decimal

/-- A power of ten. -/
def tens (n : Nat) : Nat := Nat.pow 10 n

/-- The same number with no zero at the end of its digits. -/
def trim (d : Decimal) : Decimal :=
  if d.digits = 0 then ⟨0, 0⟩
  else if d.digits % 10 = 0 then trim ⟨d.digits / 10, d.exponent + 1⟩
  else d
  termination_by d.digits
  decreasing_by omega

end Decimal

namespace Binary

variable {w : FloatWidth}

/-- The exponent `e` with `10 ^ e ≤ num / den < 10 ^ (e + 1)`, for positive `num` and `den`. The
binary exponent gives it up to one. -/
def leadingExponent (num den : Nat) : Int :=
  let reaches (e : Int) : Bool := den * Decimal.tens e.toNat ≤ num * Decimal.tens (-e).toNat
  let guess := quotientExponent num den * 30103 / 100000
  if reaches (guess + 1) then guess + 1 else if reaches guess then guess else guess - 1

/-- Of the integers `c` for which `c * 10 ^ scale` reads back to the positive finite number `x`, the
one nearest to `x / 10 ^ scale`, and the greater one on a tie. Only the two neighbours of the
quotient can be nearest. Distances are counted in quarters of the last place of `x`; the midpoint
below a power of two lies one quarter away, all others two. -/
def roundsTo (x : Binary w) (scale : Int) : Option Nat :=
  let m := x.significand
  let quarter := x.exponent - 2
  let up := Decimal.tens (-scale).toNat <<< quarter.toNat
  let down := Decimal.tens scale.toNat <<< (-quarter).toNat
  let value := 4 * m * up
  let below := if m = 1 <<< w.fractionBits && 1 < x.exponentField then 1 else 2
  let low := (4 * m - below) * up
  let high := (4 * m + 2) * up
  let readsBack (c : Nat) : Bool :=
    if m % 2 = 0 then low ≤ c * down && c * down ≤ high else low < c * down && c * down < high
  let floor := value / down
  if readsBack floor then
    if readsBack (floor + 1) && down ≤ 2 * (value - floor * down) then some (floor + 1)
    else some floor
  else if readsBack (floor + 1) then some (floor + 1)
  else none

/-- The exact decimal value of a finite number's magnitude. -/
def exactDecimal (x : Binary w) : Decimal :=
  ⟨x.significand <<< x.exponent.toNat * Nat.pow 5 (-x.exponent).toNat, min x.exponent 0⟩

/-- The shortest decimal for the magnitude of a finite number. Seventeen digits suffice for either
format. -/
def shortest (x : Binary w) : Decimal :=
  if x.significand = 0 then ⟨0, 0⟩
  else
    let leading := leadingExponent (x.significand <<< x.exponent.toNat) (1 <<< (-x.exponent).toNat)
    let found := (List.range 17).findSome? fun (further : Nat) =>
      (x.roundsTo (leading - further)).map fun c => (⟨c, leading - further⟩ : Decimal)
    (found.getD x.exactDecimal).trim

/-- The number nearest to a decimal. The powers of ten that are worked with stay bounded by the
digits: a decimal of four hundred places or more before the point is past the finite numbers of
either format, and one with as many zeros behind it is below half of their least. -/
def ofDecimal (negative : Bool) (d : Decimal) : Binary w :=
  let places : Int := (Nat.toDigits 10 d.digits).length + d.exponent
  if d.digits = 0 || places < -400 then ofMagnitude negative 0
  else if 400 < places then signedInfinity negative
  else ofQuotient negative (d.digits * Decimal.tens d.exponent.toNat) (Decimal.tens (-d.exponent).toNat)

end Binary

end HashJoin
