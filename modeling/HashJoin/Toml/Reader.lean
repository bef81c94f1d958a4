/-!
# Readers

A reader takes characters off the front of a text and makes something of them, or it fails. Of two
readers the second is tried where the first one began.

## Main definitions

* `Input`, `Reader` — what is still to be read, and readers.
* `Reader.char`, `Reader.run`, `Reader.times`, `Reader.atEnd` — characters and runs of them.
* `Reader.many`, `Reader.separated` — repetition.
-/

namespace HashJoin.Toml

/-- What is still to be read. -/
structure Input where
  /-- The characters. -/
  chars : List Char
  /-- How many there are. -/
  left : Nat

/-- All of a text. -/
def Input.ofString (text : String) : Input := ⟨text.toList, text.length⟩

/-- Something made of the first characters of a text, and the rest of the text. -/
abbrev Reader (α : Type) := StateT Input Option α

namespace Reader

variable {α : Type}

/-- The next character, if it passes a test. -/
def char (test : Char → Bool) : Reader Char
  | ⟨[], _⟩ => none
  | ⟨c :: rest, left⟩ => if test c then some (c, ⟨rest, left - 1⟩) else none

/-- The given character. -/
def exactly (c : Char) : Reader Unit := discard (char (· == c))

/-- The given characters. -/
def literal : List Char → Reader Unit
  | [] => pure ()
  | c :: cs => exactly c *> literal cs

/-- The given number of characters, if all pass a test. -/
def times (test : Char → Bool) : Nat → Reader (List Char)
  | 0 => pure []
  | n + 1 => do return (← char test) :: (← times test n)

/-- The longest run of characters that pass a test. -/
def run (test : Char → Bool) : Reader (List Char)
  | ⟨chars, left⟩ =>
    let taken := chars.takeWhile test
    some (taken, ⟨chars.drop taken.length, left - taken.length⟩)

/-- The longest run of characters that pass a test, if there are any. -/
def someRun (test : Char → Bool) : Reader (List Char) := do
  let chars ← run test
  if chars.isEmpty then failure else return chars

/-- The end of the text. -/
def atEnd : Reader Unit
  | ⟨[], left⟩ => some ((), ⟨[], left⟩)
  | ⟨_ :: _, _⟩ => none

/-- What a reader makes as long as it succeeds and takes something. -/
def many (r : Reader α) (input : Input) : Option (List α × Input) :=
  match r input with
  | none => some ([], input)
  | some (a, rest) =>
    if rest.left < input.left then
      (many r rest).map fun (others, rest) => (a :: others, rest)
    else some ([], input)
  termination_by input.left

/-- What a reader makes of pieces with a separator between each two. -/
def separated (r : Reader α) (separator : Reader Unit) : Reader (List α) := do
  match ← optional r with
  | none => return []
  | some a => return a :: (← many (separator *> r))

end Reader

end HashJoin.Toml
