import HashJoin.Decimal
import HashJoin.Text.Hex
import HashJoin.Toml.Reader
import HashJoin.Toml.Value

/-!
# Scalars of TOML

The written forms of texts, numbers, truth values and moments.

## Main definitions

* `Reader.newline`, `Reader.blanks` — line ends and blanks.
* `Reader.quotedText`, `Reader.rawText`, `Reader.text` — texts in double and in single quotes, on
  one line, and in all forms.
* `Reader.integer`, `Reader.float`, `Reader.moment`.
* `Reader.scalar` — any of them.
-/

namespace HashJoin.Toml

/-- Whether a document can hold an integer: it has to fit into 64 bits. -/
def holdsInteger (i : Int) : Bool := -9223372036854775808 ≤ i && i ≤ 9223372036854775807

namespace Reader

/-! ### Blanks and characters -/

/-- Whether a character is a blank within a line. -/
def isBlank (c : Char) : Bool := c == ' ' || c == '\t'

/-- Blanks within a line, if any. -/
def blanks : Reader Unit := discard (run isBlank)

/-- The end of a line. -/
def newline : Reader Unit := exactly '\n' <|> literal ['\r', '\n']

/-- Whether a character may stand in a comment or a text: all but the controls, of which only the
tab may. -/
def isPlain (c : Char) : Bool := c == '\t' || (' ' ≤ c && c != '\x7F')

/-- The number that digits stand for. -/
def numberOf (base : Nat) (digits : List Char) : Nat :=
  digits.foldl (fun n c => base * n + Text.digitValue c.toLower) 0

/-! ### Texts -/

/-- The character that some hexadecimal digits stand for. -/
def codePoint (digits : Nat) : Reader Char := do
  let code := numberOf 16 (← times Text.isHexDigit digits)
  if code.isValidChar then return Char.ofNat code else failure

/-- The characters that a letter behind a backslash stands for. -/
def escapes : List (Char × Char) :=
  [('b', '\x08'), ('t', '\t'), ('n', '\n'), ('f', '\x0C'), ('r', '\r'), ('"', '"'), ('\\', '\\')]

/-- A backslash and what follows it. -/
def escape : Reader Char := do
  exactly '\\'
  match ← char fun _ => true with
  | 'u' => codePoint 4
  | 'U' => codePoint 8
  | c => escapes.lookup c

/-- A run of characters that stand for themselves between the given quotes. -/
def selves (quote : Char) : Reader (List Char) :=
  someRun fun c => isPlain c && c != quote && (c != '\\' || quote == '\'')

/-- A text in double quotes, on one line. -/
def quotedText : Reader String := do
  exactly '"'
  let pieces ← many (selves '"' <|> List.singleton <$> escape)
  exactly '"'
  return String.ofList pieces.flatten

/-- A text in single quotes, on one line. -/
def rawText : Reader String := do
  exactly '\''
  let pieces ← many (selves '\'')
  exactly '\''
  return String.ofList pieces.flatten

/-- A line end with the blanks and line ends behind it, which a backslash in front removes. -/
def foldedLines : Reader (List Char) := do
  exactly '\\'
  blanks
  newline
  discard (many (newline <|> discard (someRun isBlank)))
  return []

/-- A run of quotes whose length lies in a range. -/
def quotes (quote : Char) (low high : Nat) : Reader (List Char) := do
  let found ← run (· == quote)
  if low ≤ found.length && found.length ≤ high then return found else failure

/-- A text over several lines, in three quotes on either side. A line end right at the start does
not count, and up to two quotes in a row are part of the text, at its end too. -/
def linesOf (quote : Char) (piece : Reader (List Char)) : Reader String := do
  literal [quote, quote, quote]
  discard (optional newline)
  let pieces ← many (piece <|> newline *> pure ['\n'] <|> quotes quote 1 2)
  let last ← quotes quote 3 5
  return String.ofList (pieces.flatten ++ last.drop 3)

/-- A text in any form. -/
def text : Reader String :=
  linesOf '"' (selves '"' <|> foldedLines <|> List.singleton <$> escape) <|> quotedText <|>
    linesOf '\'' (selves '\'') <|> rawText

/-! ### Numbers -/

/-- Whether there is a minus sign. A plus sign says nothing. -/
def sign : Reader Bool :=
  exactly '-' *> pure true <|> exactly '+' *> pure false <|> pure false

/-- Digits, with underscores only between them. -/
def digits (isDigit : Char → Bool) : Reader (List Char) := do
  let first ← char isDigit
  return first :: (← many (optional (exactly '_') *> char isDigit))

/-- The digits of a decimal integer, without a zero in front of others. -/
def decimalDigits : Reader (List Char) :=
  exactly '0' *> pure ['0'] <|> digits Char.isDigit

/-- The digits of another base, behind the letter that names it. -/
def prefixed (letter : Char) (base : Nat) (isDigit : Char → Bool) : Reader Int := do
  literal ['0', letter]
  return numberOf base (← digits isDigit)

/-- An integer in 64 bits. -/
def integer : Reader Int := do
  let signed : Reader Int := do
    let negative ← sign
    let n : Int := numberOf 10 (← decimalDigits)
    return if negative then -n else n
  let i ← prefixed 'x' 16 Text.isHexDigit <|> prefixed 'o' 8 (fun c => '0' ≤ c && c ≤ '7') <|>
    prefixed 'b' 2 (fun c => c == '0' || c == '1') <|> signed
  if holdsInteger i then return i else failure

/-- The digits behind a decimal point. -/
def fraction : Reader (List Char) := exactly '.' *> digits Char.isDigit

/-- A power of ten. -/
def exponent : Reader Int := do
  exactly 'e' <|> exactly 'E'
  let negative ← sign
  let n : Int := numberOf 10 (← digits Char.isDigit)
  return if negative then -n else n

/-- A floating-point number that is written in digits. One above all finite numbers is refused, but
one below all of them is infinite. -/
def finite : Reader Binary64 := do
  let negative ← sign
  let whole ← decimalDigits
  let places ← optional fraction
  let power ← optional exponent
  if places.isNone && power.isNone then failure
  let places := places.getD []
  let x := Binary.ofDecimal negative
    ⟨numberOf 10 (whole ++ places), power.getD 0 - places.length⟩
  if x.isInfinite && !negative then failure else return x

/-- A floating-point number. -/
def float : Reader Binary64 :=
  let infinite : Reader Binary64 := do
    let negative ← sign
    literal ['i', 'n', 'f']
    return .signedInfinity negative
  finite <|> infinite <|> sign *> literal ['n', 'a', 'n'] *> pure .nan

/-! ### Moments -/

/-- A number of some digits within a range. -/
def field (digits low high : Nat) : Reader Nat := do
  let n := numberOf 10 (← times Char.isDigit digits)
  if low ≤ n && n ≤ high then return n else failure

/-- Number of days of a month. -/
def daysOf (year month : Nat) : Nat :=
  if month = 2 then if year % 4 = 0 && (year % 100 ≠ 0 || year % 400 = 0) then 29 else 28
  else if month = 4 || month = 6 || month = 9 || month = 11 then 30
  else 31

/-- A day of the calendar. -/
def date : Reader Unit := do
  let year ← field 4 0 9999
  exactly '-'
  let month ← field 2 1 12
  exactly '-'
  discard (field 2 1 (daysOf year month))

/-- Hours and minutes. -/
def hourMinute : Reader Unit := do
  discard (field 2 0 23)
  exactly ':'
  discard (field 2 0 59)

/-- A time of day, to the second or finer. -/
def time : Reader Unit := do
  hourMinute
  exactly ':'
  discard (field 2 0 60)
  discard (optional (exactly '.' *> someRun Char.isDigit))

/-- The distance from universal time. -/
def zone : Reader Unit :=
  discard (char (· ∈ ['Z', 'z'])) <|> char (· ∈ ['+', '-']) *> hourMinute

/-- A date, a time, or both, the latter with or without a zone. -/
def moment : Reader Unit :=
  (date *> discard (optional (char (· ∈ ['T', 't', ' ']) *> time *> optional zone))) <|> time

/-! ### All scalars -/

/-- A scalar. -/
def scalar : Reader Value :=
  Value.text <$> text <|> moment *> pure .moment <|> Value.float <$> float <|>
    Value.integer <$> integer <|> literal ['t', 'r', 'u', 'e'] *> pure (.boolean true) <|>
    literal ['f', 'a', 'l', 's', 'e'] *> pure (.boolean false)

end Reader

end HashJoin.Toml
