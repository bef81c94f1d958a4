/-!
# Hexadecimal text

Bytes are written with two hexadecimal digits each, in lower case.

## Main definitions

* `Text.hex` — the digits of bytes.
* `Text.isHexDigit`, `Text.digitValue`, `Text.hexNumber`, `Text.unhex` — the reading of digits, as one number and as
  bytes.
-/

namespace HashJoin.Text

/-- The two digits of a byte. -/
def hexByte (b : UInt8) : List Char :=
  [Nat.digitChar (b.toNat / 16), Nat.digitChar (b.toNat % 16)]

/-- The digits of a sequence of bytes. -/
def hex (bytes : ByteArray) : String := String.ofList (bytes.toList.flatMap hexByte)

/-- The digits of a number, at least the given count of them. -/
def hexPadded (n digits : Nat) : String :=
  let shown := Nat.toDigits 16 n
  String.ofList (List.replicate (digits - shown.length) '0' ++ shown)

/-- Whether a character is a digit, in either case. -/
def isHexDigit (c : Char) : Bool :=
  c.isDigit || 'a' ≤ c && c ≤ 'f' || 'A' ≤ c && c ≤ 'F'

/-- The value of a digit in lower case. -/
def digitValue (c : Char) : Nat :=
  if '0' ≤ c && c ≤ '9' then c.toNat - '0'.toNat else c.toNat - 'a'.toNat + 10

/-- The number that digits stand for. -/
def hexNumber (digits : String) : Nat :=
  digits.toList.foldl (fun n c => 16 * n + digitValue c) 0

/-- The bytes that pairs of digits stand for, behind others. -/
def unhexList (bytes : ByteArray) : List Char → ByteArray
  | a :: b :: rest => unhexList (bytes.push (UInt8.ofNat (16 * digitValue a + digitValue b))) rest
  | _ => bytes

/-- The bytes that pairs of digits stand for. -/
def unhex (digits : String) : ByteArray := unhexList .empty digits.toList

end HashJoin.Text
