import HashJoin.Proofs.Column.Appending

/-!
# Sealed columns

There are four ways to append a row, and each descends into the fields of records in a way of its own. A
call that is granted does one thing, whichever it is: it adds one cell at every depth, and the cell is not
NULL where NULL is excluded, not even in a field whose record is NULL itself. So columns that were built by
granted calls are well formed, whatever the columns were like that rows were copied from.

## Main definitions

* `Column.Builder.Extends` — builders with one more cell at every depth.
* `Column.Builder.grants` — whether some calls are all granted.
* `Column.Anchored`, `Column.Sealed` — columns whose payloads are read from their first byte, and columns
  that are what they claim to be.

## Main results

* `extends_of_perform` — what a granted call does.
* `sealed_of_grants` — granted calls make a column with a row for each.
-/

namespace HashJoin

/-! ### Sealed columns -/

namespace Column

mutual

/-- The first sequence of every text or binary column starts where its payload does. -/
def Anchored : Column → Prop
  | fixed .. => True
  | bytes _ _ _ slices => slices.offsets[0]? = some 0
  | record _ _ _ children => AnchoredAll children

/-- The same of all columns of a sequence. -/
def AnchoredAll : List Column → Prop
  | [] => True
  | c :: cs => Anchored c ∧ AnchoredAll cs

end

/-- The column is `n` rows of what was asked for. -/
structure Sealed (s : ColumnSpec) (n : Nat) (c : Column) : Prop where
  /-- It is the column that was asked for. -/
  spec : c.spec = s
  /-- At every depth it stores `n` rows of the type it claims to be, each text and byte sequence ends where
  the next starts, the last one ends the payload, and no row is NULL where NULL is excluded. -/
  wellFormed : c.WellFormed n
  /-- At every depth the first sequence starts the payload. -/
  anchored : c.Anchored

end Column

/-! ### One more sequence -/

/-- The slices `s'` are `s` with one more sequence. -/
inductive Slices.Extends (s : Slices) : Slices → Prop
  /-- An empty one. -/
  | empty : s.Extends s.pushEmpty
  /-- One at the end of the payload. -/
  | added (data : ByteArray) : s.Extends (s.added data)

section

variable {s s' : Slices} {n : Nat}

theorem Slices.wellFormed_of_extends (h : s.Extends s') (hs : s.WellFormed n) : s'.WellFormed (n + 1) := by
  cases h with
  | empty =>
    rw [pushEmpty_eq hs]
    exact wellFormed_added hs .empty
  | added data => exact wellFormed_added hs data

/-- What starts the payload keeps its place. -/
theorem Slices.anchored_of_extends (h : s.Extends s') (hs : s.offsets[0]? = some 0) :
    s'.offsets[0]? = some 0 := by
  have hpush : ∀ x, (s.offsets.push x)[0]? = some 0 := by
    intro x
    have hpos : 0 < s.offsets.size := (Array.getElem?_eq_some_iff.mp hs).1
    rw [Array.getElem?_push, if_neg (Nat.ne_of_lt hpos), hs]
  cases h with
  | empty => exact hpush _
  | added data => exact hpush _

end

namespace Column.Builder

/-! ### One more cell at every depth -/

mutual

/-- The builder on the right is the one on the left with one more cell at every depth. -/
inductive Extends : Builder → Builder → Prop
  /-- Fixed-width cells of the same type. -/
  | fixed {s : ColumnSpec} {v : Validity} {cells cells' : Cells} {valid : Bool}
    (hvalid : s.nullable = false → valid = true) (htype : cells'.type = cells.type)
    (hlength : cells'.length = cells.length + 1) : Extends (.fixed s v cells) (.fixed s (v.push valid) cells')
  /-- Texts or byte sequences. -/
  | bytes {s : ColumnSpec} {v : Validity} {kind : BytesKind} {slices slices' : Slices} {valid : Bool}
    (hvalid : s.nullable = false → valid = true) (hslices : slices.Extends slices') :
    Extends (.bytes s v kind slices) (.bytes s (v.push valid) kind slices')
  /-- Records, whether the new one is NULL or not. -/
  | record {s : ColumnSpec} {v : Validity} {children children' : List Builder} {valid : Bool}
    (hvalid : s.nullable = false → valid = true) (hchildren : ExtendsAll children children') :
    Extends (.record s v children) (.record s (v.push valid) children')

/-- The same of all builders of a sequence. -/
inductive ExtendsAll : List Builder → List Builder → Prop
  /-- There are none. -/
  | nil : ExtendsAll [] []
  /-- The first, and all others. -/
  | cons {b b' : Builder} {bs bs' : List Builder} (hb : Extends b b') (hbs : ExtendsAll bs bs') :
    ExtendsAll (b :: bs) (b' :: bs')

end

theorem spec_of_extends {b b' : Builder} (h : b.Extends b') : b'.spec = b.spec := by
  cases h <;> rfl

theorem map_spec_of_extendsAll : ∀ {bs bs' : List Builder}, ExtendsAll bs bs' →
    bs'.map Builder.spec = bs.map Builder.spec
  | _, _, .nil => rfl
  | _, _, .cons hb hbs => by
    rw [List.map_cons, List.map_cons, spec_of_extends hb, map_spec_of_extendsAll hbs]

mutual

/-- With one more cell at every depth a sound builder has one more row. -/
theorem sound_of_extends {n : Nat} : ∀ {b b' : Builder}, b.Extends b' → b.Sound n → b'.Sound (n + 1)
  | _, _, .fixed hvalid htype hlength, ⟨hv, hclear, hcells, hspec⟩ =>
    ⟨Validity.suits_push hv hclear hvalid, Validity.clear_push hclear _, by rw [hlength, hcells],
      by rw [htype, hspec]⟩
  | _, _, .bytes hvalid hslices, ⟨hv, hclear, hformed, hspec⟩ =>
    ⟨Validity.suits_push hv hclear hvalid, Validity.clear_push hclear _,
      Slices.wellFormed_of_extends hslices hformed, hspec⟩
  | _, _, .record hvalid hchildren, ⟨hv, hclear, hrec, hspecs, hall⟩ =>
    ⟨Validity.suits_push hv hclear hvalid, Validity.clear_push hclear _, hrec,
      (map_spec_of_extendsAll hchildren).trans hspecs, soundAll_of_extendsAll hchildren hall⟩

theorem soundAll_of_extendsAll {n : Nat} : ∀ {bs bs' : List Builder}, ExtendsAll bs bs' → SoundAll n bs →
    SoundAll (n + 1) bs'
  | _, _, .nil, _ => trivial
  | _, _, .cons hb hbs, ⟨hsound, hall⟩ => ⟨sound_of_extends hb hsound, soundAll_of_extendsAll hbs hall⟩

end

mutual

theorem anchored_of_extends : ∀ {b b' : Builder}, b.Extends b' → b.toColumn.Anchored → b'.toColumn.Anchored
  | _, _, .fixed .., _ => trivial
  | _, _, .bytes _ hslices, h => Slices.anchored_of_extends hslices h
  | _, _, .record _ hchildren, h => anchoredAll_of_extendsAll hchildren h

theorem anchoredAll_of_extendsAll : ∀ {bs bs' : List Builder}, ExtendsAll bs bs' →
    AnchoredAll (toColumns bs) → AnchoredAll (toColumns bs')
  | _, _, .nil, _ => trivial
  | _, _, .cons hb hbs, ⟨hfirst, hrest⟩ => ⟨anchored_of_extends hb hfirst, anchoredAll_of_extendsAll hbs hrest⟩

end

/-! ### What a granted call does -/

mutual

/-- A row of zeros has one at every depth, and the fields of a NULL record that exclude NULL have present
ones. -/
theorem extends_pushBlank : ∀ (b : Builder) (valid : Bool), (b.spec.nullable = false → valid = true) →
    b.Extends (b.pushBlank valid)
  | fixed _ _ cells, _, hvalid => .fixed hvalid (Cells.type_pushZero cells) (Cells.length_pushZero cells)
  | bytes .., _, hvalid => .bytes hvalid .empty
  | record _ _ children, _, hvalid => .record hvalid (extendsAll_pushAbsentAll children)

theorem extendsAll_pushAbsentAll : ∀ bs : List Builder, ExtendsAll bs (pushAbsentAll bs)
  | [] => .nil
  | b :: bs => .cons (extends_pushBlank b (!b.spec.nullable) fun hnull => by rw [hnull]; rfl)
    (extendsAll_pushAbsentAll bs)

end

theorem extends_pushNull {b b' : Builder} (h : b.pushNull = (.ok (), b')) : b.Extends b' := by
  unfold pushNull at h
  split at h
  · next hnull =>
    cases h
    exact extends_pushBlank b false fun hexcluded => by rw [hnull] at hexcluded; cases hexcluded
  · cases h

/-- What is not excluded is present in a column that excludes NULL. -/
theorem valid_of_excludes {s : ColumnSpec} {source : Column} {row : Nat}
    (h : ¬ excludes s source row = true) (hnull : s.nullable = false) : source.validity.isValid row = true := by
  simpa [excludes, hnull, isValid] using h

section

variable {s : ColumnSpec} {v : Validity} {valid : Bool} {b' : Builder}

theorem extends_push_slices {kind : BytesKind} {slices : Slices} {data : ByteArray}
    (hvalid : s.nullable = false → valid = true)
    (h : (match slices.push data s with
      | (.ok (), slices) => (.ok (), bytes s (v.push valid) kind slices)
      | (.error e, slices) => (.error e, bytes s v kind slices)) = ((.ok () : Except FormatError Unit), b')) :
    (bytes s v kind slices).Extends b' := by
  rcases Slices.push_cases slices data s with ⟨-, hpush⟩ | ⟨-, hpush⟩
  · rw [hpush] at h
    cases h
    exact .bytes hvalid (.added data)
  · rw [hpush] at h
    cases h

theorem extends_push_fixed {cells : Cells} {x : Value} {row : Nat}
    (h : push row (fixed s v cells) x = (.ok (), b')) : (fixed s v cells).Extends b' := by
  by_cases hnull : x = .null
  · rw [hnull] at h
    exact extends_pushNull h
  · rw [push_fixed hnull] at h
    split at h
    · cases h
    · cases h
      exact .fixed (fun _ => rfl) (Cells.type_pushValue cells x) (Cells.length_pushValue cells x)

theorem extends_push_bytes {slices : Slices} {row : Nat} : ∀ {kind : BytesKind} {x : Value},
    push row (bytes s v kind slices) x = (.ok (), b') → (bytes s v kind slices).Extends b'
  | _, .null, h => extends_pushNull h
  | .binary, .blob _, h | .text, .text _, h => extends_push_slices (fun _ => rfl) h
  -- values of another kind
  | .binary, .integer _, h | .binary, .float _, h | .binary, .text _, h | .binary, .record _, h
  | .text, .integer _, h | .text, .float _, h | .text, .blob _, h | .text, .record _, h => nomatch h

theorem extends_pushFrom_fixed {cells : Cells} {row : Nat} : ∀ {source : Column},
    pushFrom row (fixed s v cells) source = (.ok (), b') → (fixed s v cells).Extends b'
  | .fixed _ w buffer, h => by
    rw [pushFrom] at h
    split at h
    · cases h
    · next hin =>
      split at h
      · cases h
        exact .fixed (valid_of_excludes hin) (Cells.type_pushCell cells buffer.cells row)
          (Cells.length_pushCell cells buffer.cells row)
      · cases h
  | .bytes .., h | .record .., h => by
    simp only [pushFrom] at h
    split at h <;> cases h

theorem extends_pushFrom_bytes {kind : BytesKind} {slices : Slices} {row : Nat} : ∀ {source : Column},
    pushFrom row (bytes s v kind slices) source = (.ok (), b') → (bytes s v kind slices).Extends b'
  | .bytes _ w kind' others, h => by
    rw [pushFrom] at h
    split at h
    · cases h
    · next hin =>
      split at h
      · exact extends_push_slices (valid_of_excludes hin) h
      · cases h
  | .fixed .., h | .record .., h => by
    simp only [pushFrom] at h
    split at h <;> cases h

end

mutual

/-- **A granted call.** Whichever way the row comes, there is one more cell at every depth. -/
theorem extends_of_perform : ∀ (b : Builder) (call : Call) {b' : Builder}, b.perform call = (.ok (), b') →
    b.Extends b'
  | b, .null, _, h => extends_pushNull h
  | b, .absent, _, h => by
    cases h
    exact extends_pushBlank b _ fun hnull => by rw [hnull]; rfl
  | fixed .., .value _ _, _, h => extends_push_fixed h
  | fixed .., .copy _ _, _, h => extends_pushFrom_fixed h
  | bytes .., .value _ _, _, h => extends_push_bytes h
  | bytes .., .copy _ _, _, h => extends_pushFrom_bytes h
  | record s v children, .value (.record values) row, _, h => by
    simp only [perform, push] at h
    split at h
    · cases h
    · next hwidth =>
      rw [pushAll_eq] at h
      split at h
      · next hparts =>
        cases h
        refine .record (fun _ => rfl) (extendsAll_of_performIn children _ ?_ hparts)
        rw [List.length_map]
        omega
      · cases h
  | record s v children, .copy source row, _, h => by
    simp only [perform, pushFrom] at h
    split at h
    · cases h
    · next hin =>
      split at h
      · split at h
        · cases h
        · next hwidth =>
          rw [pushFromAll_eq] at h
          split at h
          · next hparts =>
            cases h
            refine .record (valid_of_excludes hin) (extendsAll_of_performIn children _ ?_ hparts)
            rw [List.length_map]
            omega
          · cases h
      · cases h
  | record .., .value .null _, _, h => extends_pushNull h
  | record .., .value (.integer _) _, _, h | record .., .value (.float _) _, _, h
  | record .., .value (.text _) _, _, h | record .., .value (.blob _) _, _, h => nomatch h

/-- The fields of a record, if all are granted their calls. -/
theorem extendsAll_of_performIn : ∀ (bs : List Builder) (calls : List Call) {bs' : List Builder},
    calls.length = bs.length → performIn bs calls = (.ok (), bs') → ExtendsAll bs bs'
  | [], [], _, _, h => by
    cases h
    exact .nil
  | b :: bs, call :: calls, _, hlength, h => by
    rw [performIn] at h
    split at h
    · next b' hfirst =>
      cases hrest : performIn bs calls with
      | mk result bs' =>
        rw [hrest] at h
        cases h
        exact .cons (extends_of_perform b call hfirst)
          (extendsAll_of_performIn bs calls (Nat.succ.inj hlength) hrest)
    · cases h

end

/-! ### Sealing -/

mutual

/-- A builder without rows has its payloads start at zero. -/
theorem anchored_ofSpec : ∀ c : ColumnSpec, (ofSpec c).toColumn.Anchored
  | .scalar _ (.int _) _ | .scalar _ (.float _) _ => trivial
  | .scalar _ .binary _ | .scalar _ .text _ => rfl
  | .record _ fields _ => anchoredAll_ofSpecs fields

theorem anchoredAll_ofSpecs : ∀ cs : List ColumnSpec, AnchoredAll (toColumns (ofSpecs cs))
  | [] => trivial
  | c :: cs => ⟨anchored_ofSpec c, anchoredAll_ofSpecs cs⟩

end

mutual

/-- Every power of two is an alignment, and it has no part in what the column stores. -/
theorem sealed_of_finish (k : Nat) {n : Nat} : ∀ b : Builder, b.Sound n → b.toColumn.Anchored →
    ∃ c, b.finish (1 <<< k) = .ok c ∧ c.Sealed b.spec n
  | fixed s v cells, ⟨hv, _, hcells, hspec⟩, hanchored => by
    refine ⟨.fixed s v ⟨cells, max (1 <<< k) cells.cellSize⟩, ?_, rfl, ⟨hv, hcells, hspec⟩, hanchored⟩
    rw [finish, ofCells_eq_ok]
    rfl
  | bytes s v kind slices, ⟨hv, _, hslices, hspec⟩, hanchored =>
    ⟨.bytes s v kind slices, rfl, rfl, ⟨hv, hslices, hspec⟩, hanchored⟩
  | record s v children, ⟨hv, _, hrec, hspecs, hall⟩, hanchored => by
    obtain ⟨cs, hfinish, hspec, hformed, hanchoredAll⟩ := sealed_of_finishAll k children hall hanchored
    refine ⟨.record s v v.length cs, by rw [finish, hfinish]; rfl, rfl, ?_, hanchoredAll⟩
    exact ⟨hv, hv.length, hrec, hspec.trans hspecs, hformed⟩

theorem sealed_of_finishAll (k : Nat) {n : Nat} : ∀ bs : List Builder, SoundAll n bs →
    AnchoredAll (toColumns bs) → ∃ cs, finishAll (1 <<< k) bs = .ok cs ∧
      cs.map Column.spec = bs.map Builder.spec ∧ WellFormedAll n cs ∧ AnchoredAll cs
  | [], _, _ => ⟨[], rfl, rfl, trivial, trivial⟩
  | b :: bs, ⟨hb, hbs⟩, ⟨hanchored, hrest⟩ => by
    obtain ⟨c, hfinish, hc⟩ := sealed_of_finish k b hb hanchored
    obtain ⟨cs, hfinishAll, hspec, hformed, hanchoredAll⟩ := sealed_of_finishAll k bs hbs hrest
    refine ⟨c :: cs, by rw [finishAll, hfinish, hfinishAll]; rfl, ?_, ⟨hc.wellFormed, hformed⟩,
      hc.anchored, hanchoredAll⟩
    rw [List.map_cons, List.map_cons, hc.spec, hspec]

end

/-- Whether some calls are all granted, one after the other. -/
def grants (b : Builder) : List Call → Bool
  | [] => true
  | call :: calls => (b.perform call).1.isOk && (b.perform call).2.grants calls

/-- Granted calls add a row each. -/
theorem sound_of_grants {calls : List Call} : ∀ {b : Builder} {n : Nat}, b.grants calls = true → b.Sound n →
    b.toColumn.Anchored → (b.performAll calls).Sound (n + calls.length) ∧
      (b.performAll calls).toColumn.Anchored ∧ (b.performAll calls).spec = b.spec := by
  induction calls with
  | nil =>
    intro b n _ hsound hanchored
    exact ⟨hsound, hanchored, rfl⟩
  | cons call calls ih =>
    intro b n hgrants hsound hanchored
    obtain ⟨hgranted, hrest⟩ := Bool.and_eq_true_iff.mp hgrants
    cases hperform : b.perform call with
    | mk result b' =>
      rw [hperform] at hgranted hrest
      cases result with
      | error e => cases hgranted
      | ok =>
        have hstep : b.Extends b' := extends_of_perform b call hperform
        obtain ⟨hsound', hanchored', hspec'⟩ :=
          ih hrest (sound_of_extends hstep hsound) (anchored_of_extends hstep hanchored)
        rw [performAll, hperform, List.length_cons, Nat.add_comm calls.length 1, ← Nat.add_assoc]
        exact ⟨hsound', hanchored', hspec'.trans (spec_of_extends hstep)⟩

/-- **Sealed columns.** Calls that are all granted, with values, NULLs, absent rows and copied rows in any
order, make a column that can be finished under every power of two as alignment. It is what was asked for,
with a row for each call: at every depth it stores the type it claims to be, with as many cells and validity
bits as there were calls; texts and byte sequences follow each other from the first byte of the payload to
the last; and no row is NULL where NULL is excluded, be it in a field of a record that is NULL or absent. -/
theorem sealed_of_grants (spec : ColumnSpec) (calls : List Call) (k : Nat)
    (h : (ofSpec spec).grants calls = true) :
    ∃ c, ((ofSpec spec).performAll calls).finish (1 <<< k) = .ok c ∧ c.Sealed spec calls.length := by
  obtain ⟨hsound, hanchored, hspec⟩ := sound_of_grants h (sound_ofSpec spec) (anchored_ofSpec spec)
  rw [Nat.zero_add] at hsound
  obtain ⟨c, hfinish, hsealed⟩ := sealed_of_finish k _ hsound hanchored
  rw [hspec, spec_ofSpec] at hsealed
  exact ⟨c, hfinish, hsealed⟩

/-- A record with a required integer and a record of a required text, from a value, NULL, an absent row and
a copied row. The copied record is NULL, and its integer comes from a column that admits NULL. -/
theorem sealed_of_grants_nested :
    let spec : ColumnSpec := .record "s"
      [.scalar "n" (.int .bits16) false, .record "t" [.scalar "x" .text false] true] true
    let one : Validity := .ofList [true]
    let text : Column := .bytes (.scalar "x" .text false) one .text ⟨#[0, 2], ⟨#[104, 105]⟩⟩
    let source : Column := .record (.record "s" [] true) (.ofList [false]) 1
      [.fixed (.scalar "m" (.int .bits16) true) one ⟨.ints .bits16 #[7], 32⟩,
        .record (.record "t" [] false) one 1 [text]]
    let calls : List Call := [.value (.record [.integer 5, .record [.text "hello"]]) 0, .null, .absent,
      .copy source 0]
    (ofSpec spec).grants calls = true ∧
      ∃ c, ((ofSpec spec).performAll calls).finish (1 <<< 6) = .ok c ∧ c.Sealed spec 4 := by
  intro spec one text source calls
  have hgrants : (ofSpec spec).grants calls = true := by
    unfold spec calls source one text
    decide +kernel
  exact ⟨hgrants, sealed_of_grants spec calls 6 hgrants⟩

end Column.Builder
end HashJoin
