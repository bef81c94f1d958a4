import HashJoin.Proofs.Column.Refusing

/-!
# Building through refused calls

A builder takes calls one after the other, and some of them are refused. What it makes in the end has a
row for each call that was granted. The rows read as they were appended up to the first call that strayed:
it leaves a cell in some field, and the next record finds that cell in the place of its own.

## Main definitions

* `Column.Builder.performAll`, `Column.Builder.appended`, `Column.Builder.strayed` — the builder after
  some calls, what they appended, and whether one of them strayed.
* `Column.Spans` — columns with as many cells as rows at every depth.
* `Column.Builder.Keeps` — what a column holds that was built by some calls.

## Main results

* `keeps_of_performAll` — any calls can be finished, and the column holds what they appended.
* `value_strayed` — a column whose first row is not the one that was appended.
-/

namespace HashJoin

/-! ### Columns that are level -/

namespace Column

mutual

/-- The column has as many cells as it has rows, `n`, at every depth. -/
def Spans (n : Nat) : Column → Prop
  | fixed _ v buffer => v.length = n ∧ buffer.cells.length = n
  | bytes _ v _ slices => v.length = n ∧ slices.length = n
  | record _ v length children => v.length = n ∧ length = n ∧ SpansAll n children

/-- All columns of a sequence do. -/
def SpansAll (n : Nat) : List Column → Prop
  | [] => True
  | c :: cs => Spans n c ∧ SpansAll n cs

end

end Column

namespace Column.Builder

/-! ### Finishing -/

/-- The column has the rows of the builder. -/
structure Shows (b : Builder) (c : Column) : Prop where
  /-- It is the column that was built. -/
  spec : c.spec = b.spec
  /-- It has as many rows. -/
  length : c.length = b.length
  /-- The rows read alike. -/
  value : ∀ row, c.valueAt row = b.toColumn.valueAt row
  /-- It is level if no cell stands behind the last row. -/
  spans : ∀ n, c.Spans n ↔ b.length = n ∧ b.surplus = 0

/-- The columns have the rows of the builders, `n` of them at least. -/
structure ShowsAll (n : Nat) (bs : List Builder) (cs : List Column) : Prop where
  /-- The rows read alike. -/
  value : ∀ row, rowAt row cs = rowAt row (toColumns bs)
  /-- They are level if no cell stands behind `n` rows. -/
  spans : SpansAll n cs ↔ surplusIn n bs = 0

/-- Every power of two is an alignment for cells. -/
theorem ofCells_eq_ok (cells : Cells) (k : Nat) :
    AlignedCells.ofCells cells (1 <<< k) = .ok ⟨cells, max (1 <<< k) cells.cellSize⟩ := by
  have hsize : ∃ i, cells.cellSize = 2 ^ i := by
    cases cells with
    | ints width values => cases width with
      | bits8 => exact ⟨0, rfl⟩
      | bits16 => exact ⟨1, rfl⟩
      | bits32 => exact ⟨2, rfl⟩
      | bits64 => exact ⟨3, rfl⟩
    | singles values => exact ⟨2, rfl⟩
    | doubles values => exact ⟨3, rfl⟩
  obtain ⟨i, hi⟩ := hsize
  have hmax : ∃ m, max (1 <<< k) cells.cellSize = 2 ^ m := by
    rw [Nat.shiftLeft_eq, Nat.one_mul, hi]
    rcases Nat.le_total (2 ^ k) (2 ^ i) with hle | hle
    · exact ⟨i, Nat.max_eq_right hle⟩
    · exact ⟨k, Nat.max_eq_left hle⟩
  obtain ⟨m, hm⟩ := hmax
  rw [AlignedCells.ofCells, hm, Nat.log2_two_pow, Nat.shiftLeft_eq, Nat.one_mul, if_pos rfl]

mutual

/-- A usable builder can be finished, and the column has its rows. -/
theorem shows_of_finish (k : Nat) : ∀ b : Builder, b.Usable →
    ∃ c, b.finish (1 <<< k) = .ok c ∧ b.Shows c
  | fixed s v cells, h => by
    refine ⟨.fixed s v ⟨cells, max (1 <<< k) cells.cellSize⟩, ?_, rfl, h.2.1, fun row => rfl,
      fun n => ?_⟩
    · rw [finish, ofCells_eq_ok]
      rfl
    show v.length = n ∧ cells.length = n ↔ v.length = n ∧ 0 = 0
    rw [h.2.1]
    omega
  | bytes s v kind slices, h => by
    have hlength : slices.length = v.length := by
      rw [Slices.length, h.2.1.size]
      rfl
    refine ⟨.bytes s v kind slices, rfl, rfl, hlength, fun row => rfl, fun n => ?_⟩
    show v.length = n ∧ slices.length = n ↔ v.length = n ∧ 0 = 0
    rw [hlength]
    omega
  | record s v children, h => by
    obtain ⟨cs, hfinish, hshows⟩ := shows_of_finishAll k children h.2.2.2
    refine ⟨.record s v v.length cs, by rw [finish, hfinish]; rfl, rfl, rfl, fun row => ?_, fun n => ?_⟩
    · rw [toColumn, valueAt, valueAt, hshows.value]
    · show v.length = n ∧ v.length = n ∧ SpansAll n cs ↔ v.length = n ∧ surplusIn v.length children = 0
      constructor
      · rintro ⟨rfl, -, hspans⟩
        exact ⟨rfl, hshows.spans.mp hspans⟩
      · rintro ⟨rfl, hsurplus⟩
        exact ⟨rfl, rfl, hshows.spans.mpr hsurplus⟩

/-- The fields of a record can be finished. -/
theorem shows_of_finishAll (k : Nat) {n : Nat} : ∀ bs : List Builder, UsableIn n bs →
    ∃ cs, finishAll (1 <<< k) bs = .ok cs ∧ ShowsAll n bs cs
  | [], _ => ⟨[], rfl, fun _ => rfl, iff_of_true trivial rfl⟩
  | b :: bs, ⟨hb, hn, hbs⟩ => by
    obtain ⟨c, hfinish, hshows⟩ := shows_of_finish k b hb
    obtain ⟨cs, hfinishAll, hshowsAll⟩ := shows_of_finishAll k bs hbs
    refine ⟨c :: cs, by rw [finishAll, hfinish, hfinishAll]; rfl, fun row => ?_, ?_⟩
    · rw [toColumns, rowAt, rowAt, hshows.value, hshowsAll.value]
    · rw [SpansAll, surplusIn, hshows.spans, hshowsAll.spans]
      omega

end

/-! ### Runs -/

/-- The builder after some calls. -/
def performAll (b : Builder) : List Call → Builder
  | [] => b
  | call :: calls => (b.perform call).2.performAll calls

/-- What the calls append that are granted. -/
def appended (b : Builder) : List Call → List Value
  | [] => []
  | call :: calls =>
    match b.perform call with
    | (.ok (), b') => call.cell b.spec :: b'.appended calls
    | (.error _, b') => b'.appended calls

/-- Whether one of the calls strays. -/
def strayed (b : Builder) : List Call → Bool
  | [] => false
  | call :: calls => b.strays call || (b.perform call).2.strayed calls

theorem performAll_append (b : Builder) (before after : List Call) :
    b.performAll (before ++ after) = (b.performAll before).performAll after := by
  induction before generalizing b with
  | nil => rfl
  | cons call before ih => exact ih (b.perform call).2

/-- What some calls have led to. -/
structure Led (b : Builder) (calls : List Call) (b' : Builder) : Prop where
  /-- It is usable. -/
  usable : b'.Usable
  /-- It builds the same column. -/
  spec : b'.spec = b.spec
  /-- There is a row for each call that was granted. -/
  length : b'.length = b.length + (b.appended calls).length
  /-- The rows from before. -/
  earlier : ∀ row < b.length, b'.toColumn.valueAt row = b.toColumn.valueAt row
  /-- The rows that were appended, if no cell stood in the place of any. -/
  value : b.surplus = 0 → b.strayed calls = false → ∀ i x, (b.appended calls)[i]? = some x →
    b'.toColumn.valueAt (b.length + i) = x
  /-- Cells that stay behind. -/
  astray : b.strayed calls = true → b.surplus < b'.surplus
  /-- No cells stay behind. -/
  level : b.strayed calls = false → b'.surplus = b.surplus

section

variable {b b' last : Builder} {call : Call} {calls : List Call}

theorem appended_of_granted (hresult : b.perform call = (.ok (), b')) :
    b.appended (call :: calls) = call.cell b.spec :: b'.appended calls := by
  rw [appended, hresult]

theorem appended_of_refused {e : FormatError} (hresult : b.perform call = (.error e, b')) :
    b.appended (call :: calls) = b'.appended calls := by
  rw [appended, hresult]

/-- A granted call comes first. -/
theorem Led.granted (h : b'.Led calls last) (hresult : b.perform call = (.ok (), b'))
    (hstray : b.strays call = false) (happended : b.Appended b' (call.cell b.spec)) :
    b.Led (call :: calls) last := by
  have hlength := happended.length
  have hstrayed : b.strayed (call :: calls) = b'.strayed calls := by
    rw [strayed, hstray, hresult, Bool.false_or]
  refine ⟨h.usable, h.spec.trans happended.spec, ?_, ?_, ?_, ?_, ?_⟩
  · rw [h.length, appended_of_granted hresult, List.length_cons]
    omega
  · intro row hrow
    rw [h.earlier row (by omega), happended.earlier row hrow]
  · intro hsurplus hnone i x hx
    rw [appended_of_granted hresult] at hx
    cases i with
    | zero =>
      cases hx
      exact (h.earlier b.length (by omega)).trans (happended.value hsurplus)
    | succ i =>
      have hshift : b.length + (i + 1) = b'.length + i := by omega
      rw [hshift]
      exact h.value (happended.surplus.trans hsurplus) (hstrayed ▸ hnone) i x hx
  · intro hsome
    rw [← happended.surplus]
    exact h.astray (hstrayed ▸ hsome)
  · intro hnone
    rw [← happended.surplus]
    exact h.level (hstrayed ▸ hnone)

/-- A refused call comes first. Cells that it leaves behind stay there. -/
theorem Led.refused {e : FormatError} (h : b'.Led calls last) (hresult : b.perform call = (.error e, b'))
    (hretained : Retained e (b.strays call) b b') : b.Led (call :: calls) last := by
  have hstrayed : b.strayed (call :: calls) = (b.strays call || b'.strayed calls) := by
    rw [strayed, hresult]
  refine ⟨h.usable, h.spec.trans hretained.spec, ?_, ?_, ?_, ?_, ?_⟩
  · rw [h.length, appended_of_refused hresult, hretained.length]
  · intro row hrow
    rw [h.earlier row (by rw [hretained.length]; exact hrow), hretained.rows row hrow]
  · intro hsurplus hnone i x hx
    rw [hstrayed, Bool.or_eq_false_iff] at hnone
    rw [appended_of_refused hresult] at hx
    rw [← hretained.length]
    exact h.value ((hretained.level hnone.1).trans hsurplus) hnone.2 i x hx
  · intro hsome
    have hlater : b'.surplus ≤ last.surplus := le_of_astray h.astray h.level
    cases hcall : b.strays call with
    | true => exact Nat.lt_of_lt_of_le (hretained.astray hcall) hlater
    | false =>
      rw [← hretained.level hcall]
      rw [hstrayed, hcall, Bool.false_or] at hsome
      exact h.astray hsome
  · intro hnone
    rw [hstrayed, Bool.or_eq_false_iff] at hnone
    rw [h.level hnone.2, hretained.level hnone.1]

end

/-- Any calls lead from a usable builder to a usable one. -/
theorem led_of_performAll (b : Builder) (calls : List Call) (h : b.Usable) :
    b.Led calls (b.performAll calls) := by
  induction calls generalizing b with
  | nil => exact ⟨h, rfl, rfl, fun _ _ => rfl, nofun, nofun, fun _ => rfl⟩
  | cons call calls ih =>
    rcases effect_perform b call h with ⟨b', hstray, hresult, happended⟩ | ⟨e, b', hresult, hretained⟩
    · rw [performAll, hresult]
      exact (ih b' happended.usable).granted hresult hstray happended
    · rw [performAll, hresult]
      exact (ih b' hretained.usable).refused hresult hretained

/-! ### What a column holds -/

/-- What a column holds that was built by some calls from nothing. -/
structure Keeps (s : ColumnSpec) (calls : List Call) (c : Column) : Prop where
  /-- It is the column that was asked for. -/
  spec : c.spec = s
  /-- There is a row for each call that was granted. -/
  length : c.length = ((ofSpec s).appended calls).length
  /-- Up to the first call that strayed, each row reads as it was appended. -/
  value : ∀ before, before <+: calls → (ofSpec s).strayed before = false →
    ∀ i x, ((ofSpec s).appended before)[i]? = some x → c.valueAt i = x
  /-- There are as many cells as rows at every depth unless a call strayed. -/
  spans : c.Spans c.length ↔ (ofSpec s).strayed calls = false
  /-- A refused call that does not stray has no effect at all, unless a payload had no room. -/
  unchanged : ∀ before call e after, before ++ [call] <+: calls →
    ((ofSpec s).performAll before).perform call = (.error e, after) →
    ((ofSpec s).performAll before).strays call = false → (∀ full, e ≠ .payload full) →
    after = (ofSpec s).performAll before

/-- **Building through refused calls.** Whatever calls were made, and however many of them were refused,
the builder can be finished under every power of two as alignment. The column has a row for each call that
was granted; the rows up to the first call that strayed are those that were appended; and all its parts
have that many cells if and only if no call strayed, that is, if no field of a record, at any depth,
refused behind one that had taken its cell. -/
theorem keeps_of_performAll (spec : ColumnSpec) (calls : List Call) (k : Nat) :
    ∃ c, ((ofSpec spec).performAll calls).finish (1 <<< k) = .ok c ∧ Keeps spec calls c := by
  have hled := led_of_performAll (ofSpec spec) calls (usable_ofSpec spec)
  obtain ⟨c, hfinish, hshows⟩ := shows_of_finish k _ hled.usable
  have hlength : c.length = ((ofSpec spec).appended calls).length := by
    rw [hshows.length, hled.length, length_ofSpec, Nat.zero_add]
  refine ⟨c, hfinish, ?_, hlength, ?_, ?_, ?_⟩
  · rw [hshows.spec, hled.spec, spec_ofSpec]
  · rintro before ⟨after, rfl⟩ hnone i x hx
    have hbefore := led_of_performAll (ofSpec spec) before (usable_ofSpec spec)
    have hafter := led_of_performAll _ after hbefore.usable
    have hi : i < ((ofSpec spec).appended before).length := (List.getElem?_eq_some_iff.mp hx).1
    have hrow := hbefore.value (surplus_ofSpec spec) hnone i x hx
    rw [length_ofSpec, Nat.zero_add] at hrow
    rw [hshows.value, performAll_append, hafter.earlier i, hrow]
    rw [hbefore.length, length_ofSpec, Nat.zero_add]
    exact hi
  · rw [hshows.spans, hshows.length]
    have hnew := surplus_ofSpec spec
    cases hstrayed : (ofSpec spec).strayed calls with
    | true =>
      have hmore := hled.astray hstrayed
      refine iff_of_false (fun h => ?_) nofun
      omega
    | false => exact iff_of_true ⟨rfl, (hled.level hstrayed).trans hnew⟩ rfl
  · intro before call e after _ hresult hstray hroom
    have hbefore := led_of_performAll (ofSpec spec) before (usable_ofSpec spec)
    rcases effect_perform _ call hbefore.usable with ⟨b', -, hok, -⟩ | ⟨e', b', herror, hretained⟩
    · rw [hresult] at hok
      cases hok
    · rw [hresult] at herror
      cases herror
      exact hretained.unchanged hstray hroom

/-- A record of two integers, of which the second excludes NULL. The first call is refused by the second
field, and the first field keeps the 1 that it has taken: the row of the second call reads as 1 and 3. -/
theorem value_strayed :
    let x : ColumnSpec := .scalar "x" (.int .bits64) true
    let y : ColumnSpec := .scalar "y" (.int .bits64) false
    let pair : ColumnSpec := .record "s" [x, y] true
    let calls : List Call :=
      [.value (.record [.integer 1, .null]) 0, .value (.record [.integer 2, .integer 3]) 1]
    (ofSpec pair).appended calls = [.record [.integer 2, .integer 3]] ∧
      ∃ c, ((ofSpec pair).performAll calls).finish 32 = .ok c ∧ c.length = 1 ∧
        c.valueAt 0 = .record [.integer 1, .integer 3] := by
  intro x y pair calls
  exact ⟨rfl, _, rfl, rfl, rfl⟩

end Column.Builder
end HashJoin
