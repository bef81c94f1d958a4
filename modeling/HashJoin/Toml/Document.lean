import HashJoin.Toml.Scalar

/-!
# TOML documents

A document is a sequence of lines: assignments, headers, comments and empty lines. The assignments
below a header belong to the table that the header opens.

## Main definitions

* `Reader.value`, `Reader.assignment` — values, and keys with values.
* `Section`, `Document`, `Reader.document` — the written parts of a document.
* `Document.entries?` — the table that a document stands for.
* `read?` — the table of a text.
-/

namespace HashJoin.Toml

/-- How deep arrays and tables may be nested in one value. -/
def maxNesting : Nat := 79

/-- The most parts of a dotted key. -/
def maxKeyParts : Nat := 79

namespace Reader

/-! ### Keys and values -/

/-- A comment, up to the end of its line. -/
def comment : Reader Unit := exactly '#' *> discard (run isPlain)

/-- The end of a line or of the document. -/
def lineEnd : Reader Unit := newline <|> atEnd

/-- The rest of a line, in which only a comment may stand. -/
def trailing : Reader Unit := blanks *> optional comment *> lineEnd

/-- Whether a character may stand in a key without quotes. -/
def isBare (c : Char) : Bool := c.isAlphanum || c == '-' || c == '_'

/-- One part of a key. -/
def keyPart : Reader String := do
  blanks
  let part ← quotedText <|> rawText <|> String.ofList <$> someRun isBare
  blanks
  return part

/-- A key, as the parts in front of the last one and the last one. -/
def key : Reader (List String × String) := do
  let first ← keyPart
  let others ← many (exactly '.' *> keyPart)
  let parts := first :: others
  if parts.length ≤ maxKeyParts then return (parts.dropLast, others.getLastD first) else failure

/-- A key with a value, which is read by the given reader. -/
def assignment (value : Reader Value) : Reader Assignment := do
  let (path, key) ← key
  exactly '='
  blanks
  return ⟨path, key, ← value⟩

/-- Blanks, line ends and comments between the elements of an array. -/
def gap : Reader Unit :=
  many (discard (someRun isBlank) <|> newline <|> comment *> newline) *> pure ()

/-- An array in brackets. A comma may follow the last element. -/
def array (value : Reader Value) : Reader Value := do
  exactly '['
  let elements ← separated (gap *> value <* gap) (exactly ',')
  if !elements.isEmpty then discard (optional (exactly ','))
  gap
  exactly ']'
  return .array elements

/-- A table in braces, on one line. -/
def tableInBraces (value : Reader Value) : Reader Value := do
  exactly '\x7b'
  let assignments ← separated (assignment value <* blanks) (exactly ',')
  blanks
  exactly '\x7d'
  return .table .inBraces (← Entries.assignAll [] assignments)

/-- A value that is nested no deeper than allowed. -/
def value : Nat → Reader Value
  | 0 => scalar
  | depth + 1 => scalar <|> array (value depth) <|> tableInBraces (value depth)

end Reader

/-! ### Documents -/

/-- A header and the assignments below it. -/
structure Section where
  /-- Whether the header, in double brackets, opens an element of an array of tables. -/
  isElement : Bool
  /-- The keys in front of the last one. -/
  path : List String
  /-- The last key. -/
  key : String
  /-- What is assigned. -/
  assignments : List Assignment

/-- The assignments in front of all headers, and the rest. -/
structure Document where
  /-- What is assigned in front of all headers. -/
  assignments : List Assignment
  /-- The headers and what is below them. -/
  sections : List Section

/-- The table that a document stands for, if no rule on tables is broken. -/
def Document.entries? (d : Document) : Option Entries := do
  let start ← Entries.assignAll [] d.assignments
  d.sections.foldlM (fun entries s =>
    if s.isElement then entries.openElement s.path s.key s.assignments
    else entries.openTable s.path s.key s.assignments) start

namespace Reader

/-- Lines without an assignment or a header. -/
def emptyLines : Reader Unit :=
  many (blanks *> (newline <|> comment *> lineEnd)) *> blanks

/-- Lines with assignments. -/
def assignments : Reader (List Assignment) :=
  many (assignment (value maxNesting) <* trailing <* emptyLines)

/-- A header, in as many pairs of brackets as given. -/
def header (pairs : Nat) : Reader (List String × String) :=
  literal (List.replicate pairs '[') *> key <* literal (List.replicate pairs ']')

/-- A header and the lines below it. -/
def headed : Reader Section := do
  let (isElement, path, key) ← Prod.mk true <$> header 2 <|> Prod.mk false <$> header 1
  trailing
  emptyLines
  return ⟨isElement, path, key, ← assignments⟩

/-- A whole document. A mark of the byte order may stand in front. -/
def document : Reader Document := do
  discard (optional (exactly '\uFEFF'))
  emptyLines
  let start ← assignments
  let sections ← many headed
  atEnd
  return ⟨start, sections⟩

end Reader

/-- The table that a text stands for, if it is a document. -/
def read? (text : String) : Option Entries := do
  let (document, _) ← Reader.document (.ofString text)
  document.entries?

end HashJoin.Toml
