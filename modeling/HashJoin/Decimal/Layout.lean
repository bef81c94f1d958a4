import HashJoin.Decimal

/-!
# Number layout

The text of a binary number is its shortest decimal, laid out positionally or with a power of ten.
A `Layout` holds the decisions of one layout.

## Main definitions

* `Layout` — when a number is written positionally, and whether an integral one shows a point.
* `Binary.render` — the text of a number.
-/

namespace HashJoin

/-- The decisions of a layout. -/
structure Layout where
  /-- Whether a number whose leading digit counts this power of ten is written positionally. -/
  positional : Int → Bool
  /-- Whether a positional text without a fraction ends in a point and a zero. -/
  showsPoint : Bool

namespace Layout

/-- Every number is written positionally, an integral one without a point. -/
def plain : Layout := ⟨fun _ => true, false⟩

/-- Numbers from `10 ^ -4` up to `10 ^ 16` are written positionally with a point, all others with a
power of ten. -/
def ranged : Layout := ⟨fun e => -5 < e && e < 16, true⟩

/-- A text of `n` zeros. -/
def zeros (n : Nat) : String := String.ofList (List.replicate n '0')

/-- The positional text of a decimal. -/
def positionalText (style : Layout) (d : Decimal) : String :=
  let digits := (toString d.digits).toList
  let whole : Int := digits.length + d.exponent
  if d.exponent ≥ 0 then
    toString d.digits ++ zeros d.exponent.toNat ++ if style.showsPoint then ".0" else ""
  else if whole ≤ 0 then "0." ++ zeros (-whole).toNat ++ toString d.digits
  else String.ofList (digits.take whole.toNat) ++ "." ++ String.ofList (digits.drop whole.toNat)

/-- The text of a decimal with one digit before the point and a power of ten behind. -/
def scientificText (d : Decimal) (leading : Int) : String :=
  let digits := (toString d.digits).toList
  let fraction := String.ofList (digits.drop 1)
  String.ofList (digits.take 1) ++ (if fraction.isEmpty then "" else "." ++ fraction) ++ "e" ++
    toString leading

/-- The text of a decimal that has no zero at the end of its digits. -/
def text (style : Layout) (d : Decimal) : String :=
  let leading : Int := (toString d.digits).length + d.exponent - 1
  if d.digits = 0 || style.positional leading then style.positionalText d
  else scientificText d leading

end Layout

/-- The text of a number. The sign of zero is shown, the sign of a NaN is not. -/
def Binary.render {w : FloatWidth} (style : Layout) (x : Binary w) : String :=
  if x.isNaN then "NaN"
  else (if x.isNegative then "-" else "") ++
    if x.isInfinite then "inf" else style.text x.shortest

end HashJoin
