import HashJoin.Text.Hidden

/-!
# Quoted text

A quoted text stands between double quotes. A backslash marks the quote, the backslash itself and
the four controls that have a letter; a character without a face of its own is written by its
number in braces.

## Main definitions

* `Text.escape` — how one character is written.
* `Text.quoted` — the quoted form of a text.
-/

namespace HashJoin.Text

/-- The characters that one character is written with. -/
def escape (c : Char) : List Char :=
  if c = '\x00' then ['\\', '0']
  else if c = '\t' then ['\\', 't']
  else if c = '\n' then ['\\', 'n']
  else if c = '\r' then ['\\', 'r']
  else if c = '"' || c = '\\' then ['\\', c]
  else if isHidden c then ['\\', 'u', '\x7b'] ++ Nat.toDigits 16 c.toNat ++ ['\x7d']
  else [c]

/-- The quoted form of a text. -/
def quoted (text : String) : String := "\"" ++ String.ofList (text.toList.flatMap escape) ++ "\""

end HashJoin.Text
