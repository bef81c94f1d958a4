import HashJoin.Proofs.Column.Growth

/-!
# Building columns

A builder is sound if what it has collected makes a well-formed column. Every way to append a row
keeps it sound, leaves the rows before in place, and adds a row that is known: the row copied, or
the absent one.

## Main definitions

* `Column.Builder.toColumn` — the column that a builder makes.
* `Column.Builder.Sound` — builders of as many rows at every depth.
* `Column.Builder.Grown` — a builder with one more row.
* `ColumnSpec.Admits` — the columns whose rows a builder takes.
* `Column.Builder.Full` — a row that was refused for want of room in a payload.

## Main results

* `finish_eq` — a builder can always be finished.
* `grown_pushAbsent`, `grown_pushFrom` — the rows that are appended.
-/

namespace HashJoin

/-! ### Specifications -/

namespace ColumnSpec

/-- The cell of a present row of zeros. -/
def blank : ColumnSpec → Value
  | scalar _ t _ => t.zero
  | record _ fields _ => .record (absentAll fields)

theorem absent_eq (c : ColumnSpec) : c.absent = if !c.nullable then c.blank else .null := by
  cases c with
  | scalar n t nullable => cases nullable <;> simp [absent, blank, ColumnSpec.nullable]
  | record n fields nullable => cases nullable <;> simp [absent, blank, ColumnSpec.nullable]

theorem blank_of_type {c : ColumnSpec} {t : ScalarType} (h : c.scalarType? = some t) :
    c.blank = t.zero := by
  cases c with
  | scalar name t' nullable =>
    cases h
    rfl
  | record name fields nullable => cases h

theorem blank_of_isRecord {c : ColumnSpec} (h : c.isRecord = true) :
    c.blank = .record (absentAll c.fields) := by
  cases c with
  | scalar name t nullable => cases h
  | record name fields nullable => rfl

/-- Whether the column holds texts or byte sequences. -/
def holdsBytes (c : ColumnSpec) : Bool := c.scalarType?.any fun t => t = .binary || t = .text

theorem holdsBytes_of_type {c : ColumnSpec} {kind : BytesKind} (h : c.scalarType? = some kind.type) :
    c.holdsBytes = true := by
  rw [holdsBytes, h]
  cases kind <;> rfl

/-- A column of the first specification takes the rows of one of the second. -/
structure Admits (a b : ColumnSpec) : Prop where
  /-- The same type. -/
  scalarType : a.scalarType? = b.scalarType?
  /-- The same fields. -/
  fields : a.fields = b.fields
  /-- What excludes NULL takes from what excludes NULL. -/
  nullable : a.nullable = false → b.nullable = false

theorem admits_refl (c : ColumnSpec) : c.Admits c := ⟨rfl, rfl, id⟩

theorem admits_widen (c : ColumnSpec) : c.widen.Admits c := by
  cases c with
  | scalar n t nullable => exact ⟨rfl, rfl, nofun⟩
  | record n fields nullable => exact admits_refl _

/-- The columns of one sequence take the rows of those of another. -/
def AdmitsAll : List ColumnSpec → List ColumnSpec → Prop
  | [], [] => True
  | a :: as, b :: bs => a.Admits b ∧ AdmitsAll as bs
  | _, _ => False

theorem admitsAll_refl (cs : List ColumnSpec) : AdmitsAll cs cs := by
  induction cs with
  | nil => trivial
  | cons c cs ih => exact ⟨admits_refl c, ih⟩

theorem admitsAll_widen (cs : List ColumnSpec) : AdmitsAll (cs.map widen) cs := by
  induction cs with
  | nil => trivial
  | cons c cs ih => exact ⟨admits_widen c, ih⟩

end ColumnSpec

namespace Column.Builder

/-! ### The column that is built -/

mutual

/-- The column that a builder makes. -/
def toColumn : Builder → Column
  | fixed s v cells => .fixed s v ⟨cells, max AlignedCells.defaultAlignment cells.cellSize⟩
  | bytes s v kind slices => .bytes s v kind slices
  | record s v children => .record s v v.length (toColumns children)

/-- The columns that builders make. -/
def toColumns : List Builder → List Column
  | [] => []
  | b :: bs => toColumn b :: toColumns bs

end

theorem ofCells_eq (cells : Cells) : AlignedCells.ofCells cells AlignedCells.defaultAlignment =
    .ok ⟨cells, max AlignedCells.defaultAlignment cells.cellSize⟩ := by
  have hsize : max AlignedCells.defaultAlignment cells.cellSize = 32 := by
    cases cells with
    | ints width values => cases width <;> rfl
    | singles values => rfl
    | doubles values => rfl
  simp only [AlignedCells.ofCells, hsize]
  rfl

mutual

/-- A builder can always be finished. -/
theorem finish_eq : ∀ b : Builder, b.finish AlignedCells.defaultAlignment = .ok b.toColumn
  | fixed s v cells => by
    rw [finish, ofCells_eq]
    rfl
  | bytes s v kind slices => rfl
  | record s v children => by
    rw [finish, finishAll_eq children]
    rfl

theorem finishAll_eq : ∀ bs : List Builder,
    finishAll AlignedCells.defaultAlignment bs = .ok (toColumns bs)
  | [] => rfl
  | b :: bs => by
    rw [finishAll, finish_eq b, finishAll_eq bs]
    rfl

end

theorem spec_toColumn (b : Builder) : b.toColumn.spec = b.spec := by
  cases b <;> rfl

theorem map_spec_toColumns (bs : List Builder) :
    (toColumns bs).map Column.spec = bs.map spec := by
  induction bs with
  | nil => rfl
  | cons b bs ih => rw [toColumns, List.map_cons, List.map_cons, spec_toColumn, ih]

/-! ### Sound builders -/

mutual

/-- The builder has collected `n` rows, at every depth. -/
def Sound (n : Nat) : Builder → Prop
  | fixed s v cells =>
    v.Suits s n ∧ v.Clear ∧ cells.length = n ∧ s.scalarType? = some cells.type
  | bytes s v kind slices =>
    v.Suits s n ∧ v.Clear ∧ slices.WellFormed n ∧ s.scalarType? = some kind.type
  | record s v children =>
    v.Suits s n ∧ v.Clear ∧ s.isRecord = true ∧ children.map spec = s.fields ∧ SoundAll n children

/-- All builders of a sequence have collected `n` rows. -/
def SoundAll (n : Nat) : List Builder → Prop
  | [] => True
  | b :: bs => Sound n b ∧ SoundAll n bs

end

mutual

theorem wellFormed_toColumn {n : Nat} : ∀ b : Builder, b.Sound n → b.toColumn.WellFormed n
  | fixed _ _ _, ⟨hv, _, hlen, htype⟩ => ⟨hv, hlen, htype⟩
  | bytes _ _ _ _, ⟨hv, _, hslices, htype⟩ => ⟨hv, hslices, htype⟩
  | record _ _ children, ⟨hv, _, hrec, hspecs, hall⟩ =>
    ⟨hv, hv.length, hrec, (map_spec_toColumns children).trans hspecs,
      wellFormedAll_toColumns children hall⟩

theorem wellFormedAll_toColumns {n : Nat} : ∀ bs : List Builder, SoundAll n bs →
    Column.WellFormedAll n (toColumns bs)
  | [], _ => trivial
  | b :: bs, ⟨hb, hbs⟩ => ⟨wellFormed_toColumn b hb, wellFormedAll_toColumns bs hbs⟩

end

theorem suits_empty (spec : ColumnSpec) : Validity.empty.Suits spec 0 := ⟨rfl, fun _ => nofun⟩

mutual

theorem spec_ofSpec : ∀ c : ColumnSpec, (ofSpec c).spec = c
  | .scalar _ (.int _) _ => rfl
  | .scalar _ (.float _) _ => rfl
  | .scalar _ .binary _ => rfl
  | .scalar _ .text _ => rfl
  | .record _ _ _ => rfl

theorem map_spec_ofSpecs : ∀ cs : List ColumnSpec, (ofSpecs cs).map spec = cs
  | [] => rfl
  | c :: cs => by rw [ofSpecs, List.map_cons, spec_ofSpec c, map_spec_ofSpecs cs]

end

mutual

/-- A new builder has no rows. -/
theorem sound_ofSpec : ∀ c : ColumnSpec, (ofSpec c).Sound 0
  | .scalar _ (.int _) _ => ⟨suits_empty _, Validity.clear_empty, rfl, rfl⟩
  | .scalar _ (.float .single) _ => ⟨suits_empty _, Validity.clear_empty, rfl, rfl⟩
  | .scalar _ (.float .double) _ => ⟨suits_empty _, Validity.clear_empty, rfl, rfl⟩
  | .scalar _ .binary _ => ⟨suits_empty _, Validity.clear_empty, Slices.wellFormed_empty, rfl⟩
  | .scalar _ .text _ => ⟨suits_empty _, Validity.clear_empty, Slices.wellFormed_empty, rfl⟩
  | .record _ fields _ =>
    ⟨suits_empty _, Validity.clear_empty, rfl, map_spec_ofSpecs fields, sound_ofSpecs fields⟩

theorem sound_ofSpecs : ∀ cs : List ColumnSpec, SoundAll 0 (ofSpecs cs)
  | [] => trivial
  | c :: cs => ⟨sound_ofSpec c, sound_ofSpecs cs⟩

end

mutual

theorem payloadSize_ofSpec : ∀ (c : ColumnSpec) (path : List Nat),
    (ofSpec c).toColumn.payloadSize path = 0
  | .scalar _ (.int _) _, _ => rfl
  | .scalar _ (.float _) _, _ => rfl
  | .scalar _ .binary _, [] => rfl
  | .scalar _ .binary _, _ :: _ => rfl
  | .scalar _ .text _, [] => rfl
  | .scalar _ .text _, _ :: _ => rfl
  | .record _ _ _, [] => rfl
  | .record _ fields _, i :: path => payloadSizeIn_ofSpecs fields i path

theorem payloadSizeIn_ofSpecs : ∀ (cs : List ColumnSpec) (i : Nat) (path : List Nat),
    payloadSizeIn (toColumns (ofSpecs cs)) i path = 0
  | [], _, _ => rfl
  | c :: _, 0, path => payloadSize_ofSpec c path
  | _ :: cs, i + 1, path => payloadSizeIn_ofSpecs cs i path

end

/-! ### One more row -/

variable {n : Nat}

/-- The builder `b'` is `b` with one more row, behind `n` others, that holds `value` and takes the
bytes `size` tells. -/
structure Grown (n : Nat) (b b' : Builder) (value : Value) (size : List Nat → Nat) : Prop where
  /-- It is sound. -/
  sound : b'.Sound (n + 1)
  /-- It builds the same column. -/
  spec : b'.spec = b.spec
  /-- The new row, and those before. -/
  value : ∀ row ≤ n, b'.toColumn.valueAt row = if row = n then value else b.toColumn.valueAt row
  /-- The bytes of all rows. -/
  payload : ∀ path, b'.toColumn.payloadSize path = b.toColumn.payloadSize path + size path

/-- The builders `bs'` are `bs` with one more row. -/
structure GrownAll (n : Nat) (bs bs' : List Builder) (values : List Value)
    (size : Nat → List Nat → Nat) : Prop where
  /-- They are sound. -/
  sound : SoundAll (n + 1) bs'
  /-- They build the same columns. -/
  spec : bs'.map Builder.spec = bs.map Builder.spec
  /-- The new row, and those before. -/
  value : ∀ row ≤ n, rowAt row (toColumns bs') =
    if row = n then values else rowAt row (toColumns bs)
  /-- The bytes of all rows. -/
  payload : ∀ i path, payloadSizeIn (toColumns bs') i path =
    payloadSizeIn (toColumns bs) i path + size i path

theorem grownAll_nil (size : Nat → List Nat → Nat) (h : ∀ i path, size i path = 0) :
    GrownAll n [] [] [] size := by
  refine ⟨trivial, rfl, ?_, ?_⟩
  · intro row _
    simp [toColumns, rowAt]
  · intro i path
    rw [h]
    rfl

theorem grownAll_cons {b b' : Builder} {bs bs' : List Builder} {value : Value}
    {values : List Value} {size : List Nat → Nat} {sizes total : Nat → List Nat → Nat}
    (hb : Grown n b b' value size) (hbs : GrownAll n bs bs' values sizes)
    (hzero : ∀ path, total 0 path = size path)
    (hsucc : ∀ i path, total (i + 1) path = sizes i path) :
    GrownAll n (b :: bs) (b' :: bs') (value :: values) total := by
  refine ⟨⟨hb.sound, hbs.sound⟩, ?_, ?_, ?_⟩
  · rw [List.map_cons, List.map_cons, hb.spec, hbs.spec]
  · intro row hrow
    simp only [toColumns, rowAt, hb.value row hrow, hbs.value row hrow]
    split <;> rfl
  · intro i path
    cases i with
    | zero =>
      rw [hzero]
      exact hb.payload path
    | succ i =>
      rw [hsucc]
      exact hbs.payload i path

section

variable {s : ColumnSpec} {v : Validity} {row : Nat}

/-- The rows of fixed-width cells with one more. -/
theorem valueAt_fixed_push {cells cells' : Cells} {value : Value} (hclear : v.Clear) (valid : Bool)
    (hvalue : cells'.valueAt row = if row = v.length then value else cells.valueAt row) :
    (fixed s (v.push valid) cells').toColumn.valueAt row =
      if row = v.length then if valid then value else .null
      else (fixed s v cells).toColumn.valueAt row := by
  simp only [toColumn, valueAt, Validity.isValid_push hclear, hvalue]
  split <;> rfl

/-- The rows of texts or byte sequences with one more. -/
theorem valueAt_bytes_push {kind : BytesKind} {slices slices' : Slices} {data : ByteArray}
    (hclear : v.Clear) (valid : Bool)
    (hget : slices'.get row = if row = v.length then data else slices.get row) :
    (bytes s (v.push valid) kind slices').toColumn.valueAt row =
      if row = v.length then if valid then kind.value data else .null
      else (bytes s v kind slices).toColumn.valueAt row := by
  simp only [toColumn, valueAt, Validity.isValid_push hclear, Slices.valueAt_eq, hget]
  split <;> rfl

/-- The rows of records with one more. -/
theorem valueAt_record_push {children children' : List Builder} {values : List Value}
    (hclear : v.Clear) (valid : Bool) (hrow : rowAt row (toColumns children') =
      if row = v.length then values else rowAt row (toColumns children)) :
    (record s (v.push valid) children').toColumn.valueAt row =
      if row = v.length then if valid then .record values else .null
      else (record s v children).toColumn.valueAt row := by
  simp only [toColumn, valueAt, Validity.isValid_push hclear, hrow]
  split <;> rfl

end

/-- A record with one more row in each of its fields. -/
theorem grown_record {s : ColumnSpec} {v : Validity} {children children' : List Builder}
    {valid : Bool} {values : List Value} {sizes : Nat → List Nat → Nat} {size : List Nat → Nat}
    (h : (record s v children).Sound n) (hvalid : s.nullable = false → valid = true)
    (hchildren : GrownAll n children children' values sizes) (hnil : size [] = 0)
    (hcons : ∀ i path, size (i :: path) = sizes i path) :
    Grown n (record s v children) (record s (v.push valid) children')
      (if valid then .record values else .null) size := by
  obtain ⟨hv, hclear, hrec, hspecs, -⟩ := h
  refine ⟨⟨Validity.suits_push hv hclear hvalid, Validity.clear_push hclear valid, hrec,
    hchildren.spec.trans hspecs, hchildren.sound⟩, rfl, ?_, ?_⟩
  · intro row hrow
    rw [← hv.length]
    exact valueAt_record_push hclear valid (by rw [hv.length]; exact hchildren.value row hrow)
  · intro path
    cases path with
    | nil =>
      rw [hnil]
      rfl
    | cons i path =>
      rw [hcons]
      exact hchildren.payload i path

theorem grown_fixed {s : ColumnSpec} {v : Validity} {cells cells' : Cells} {valid : Bool}
    {value : Value} {size : List Nat → Nat}
    (h : (fixed s v cells).Sound n) (hvalid : s.nullable = false → valid = true)
    (htype : cells'.type = cells.type) (hlen : cells'.length = cells.length + 1)
    (hvalue : ∀ row, cells'.valueAt row = if row = cells.length then value else cells.valueAt row)
    (hsize : ∀ path, size path = 0) :
    Grown n (fixed s v cells) (fixed s (v.push valid) cells') (if valid then value else .null)
      size := by
  obtain ⟨hv, hclear, hcells, hspec⟩ := h
  refine ⟨⟨Validity.suits_push hv hclear hvalid, Validity.clear_push hclear valid, ?_, ?_⟩, rfl,
    ?_, ?_⟩
  · rw [hlen, hcells]
  · rw [htype]
    exact hspec
  · intro row _
    rw [← hv.length]
    exact valueAt_fixed_push hclear valid (by rw [hv.length, ← hcells]; exact hvalue row)
  · intro path
    rw [hsize]
    rfl

theorem grown_bytes {s : ColumnSpec} {v : Validity} {kind : BytesKind} {slices : Slices}
    {valid : Bool} {data : ByteArray} {size : List Nat → Nat}
    (h : (bytes s v kind slices).Sound n) (hvalid : s.nullable = false → valid = true)
    (hnil : size [] = data.size) (hcons : ∀ i path, size (i :: path) = 0) :
    Grown n (bytes s v kind slices) (bytes s (v.push valid) kind (slices.added data))
      (if valid then kind.value data else .null) size := by
  obtain ⟨hv, hclear, hslices, hspec⟩ := h
  refine ⟨⟨Validity.suits_push hv hclear hvalid, Validity.clear_push hclear valid,
    Slices.wellFormed_added hslices data, hspec⟩, rfl, ?_, ?_⟩
  · intro row hrow
    rw [← hv.length]
    exact valueAt_bytes_push hclear valid (by rw [hv.length]; exact Slices.get_added hslices data hrow)
  · intro path
    cases path with
    | nil =>
      rw [hnil]
      exact ByteArray.size_append
    | cons i path =>
      rw [hcons]
      rfl

/-! ### Absent rows -/

mutual

theorem grown_pushBlank : ∀ (b : Builder) (valid : Bool), b.Sound n →
    (b.spec.nullable = false → valid = true) →
    Grown n b (b.pushBlank valid) (if valid then b.spec.blank else .null) fun _ => 0
  | fixed s v cells, valid, h, hvalid => by
    show Grown n _ _ (if valid then s.blank else .null) _
    rw [ColumnSpec.blank_of_type h.2.2.2]
    exact grown_fixed h hvalid (Cells.type_pushZero cells) (Cells.length_pushZero cells)
      (Cells.valueAt_pushZero cells) fun _ => rfl
  | bytes s v kind slices, valid, h, hvalid => by
    show Grown n _ (bytes s (v.push valid) kind slices.pushEmpty) (if valid then s.blank else .null) _
    rw [ColumnSpec.blank_of_type h.2.2.2, kind.zero_type, Slices.pushEmpty_eq h.2.2.1]
    exact grown_bytes h hvalid rfl fun _ _ => rfl
  | record s v children, valid, h, hvalid => by
    show Grown n _ _ (if valid then s.blank else .null) _
    rw [ColumnSpec.blank_of_isRecord h.2.2.1, ← h.2.2.2.1]
    exact grown_record h hvalid (grown_pushAbsentAll children h.2.2.2.2) rfl fun _ _ => rfl

/-- An absent row in every column of a sequence. -/
theorem grown_pushAbsentAll : ∀ bs : List Builder, SoundAll n bs →
    GrownAll n bs (pushAbsentAll bs) (ColumnSpec.absentAll (bs.map spec)) fun _ _ => 0
  | [], _ => grownAll_nil _ fun _ _ => rfl
  | b :: bs, h => by
    have hb := grown_pushBlank b (!b.spec.nullable) h.1 fun hnull => by rw [hnull]; rfl
    rw [← ColumnSpec.absent_eq] at hb
    exact grownAll_cons hb (grown_pushAbsentAll bs h.2) (fun _ => rfl) fun _ _ => rfl

end

/-! ### Rows of another column -/

theorem suits_of_wellFormed {m : Nat} : ∀ {c : Column}, c.WellFormed m → c.validity.Suits c.spec m
  | .fixed .., h => h.1
  | .bytes .., h => h.1
  | .record .., h => h.1

/-- A row of a well-formed column is not NULL where that is excluded. -/
theorem excludes_eq_false {m row : Nat} {s : ColumnSpec} {c : Column} (hrow : row < m)
    (hc : c.WellFormed m) (hadmits : s.Admits c.spec) : excludes s c row = false := by
  unfold excludes
  cases hnull : s.nullable with
  | true => simp
  | false =>
    have hvalid : c.isValid row = true :=
      (suits_of_wellFormed hc).present (hadmits.nullable hnull) row hrow
    simp [hvalid]

theorem valid_of_admits {m row : Nat} {s : ColumnSpec} {c : Column} (hrow : row < m)
    (hc : c.WellFormed m) (hadmits : s.Admits c.spec) (hnull : s.nullable = false) :
    c.validity.isValid row = true :=
  (suits_of_wellFormed hc).present (hadmits.nullable hnull) row hrow

/-- The type that a column stores, unless it stores records. -/
def storedType : Column → Option ScalarType
  | .fixed _ _ buffer => some buffer.cells.type
  | .bytes _ _ kind _ => some kind.type
  | .record .. => none

theorem scalarType_of_wellFormed {m : Nat} : ∀ {c : Column}, c.WellFormed m →
    c.spec.scalarType? = storedType c
  | .fixed .., h => h.2.2
  | .bytes .., h => h.2.2
  | .record .., h => Option.isNone_iff_eq_none.mp h.2.2.1

/-- A builder stores as the columns that it takes rows of. -/
theorem storedType_eq {m : Nat} {b : Builder} {c : Column} (hb : b.Sound n) (hc : c.WellFormed m)
    (hadmits : b.spec.Admits c.spec) : storedType b.toColumn = storedType c := by
  rw [← scalarType_of_wellFormed hc, ← hadmits.scalarType, ← spec_toColumn,
    scalarType_of_wellFormed (wellFormed_toColumn b hb)]

/-- An attempt to append a row was refused because the bytes of some column, the new ones included,
are too many for its offsets. -/
structure Full {α β : Type} (result : Except FormatError Unit × α) (total : β → Nat) : Prop where
  /-- The refusal. It names a column of texts or byte sequences. -/
  refused : ∃ spec after, spec.holdsBytes = true ∧ result = (.error (.payload spec), after)
  /-- The column. -/
  size : ∃ path, Slices.maxOffset < total path

mutual

/-- A row of a well-formed column is appended, unless some payload has no room for it. -/
theorem grown_pushFrom {m row : Nat} (hrow : row < m) : ∀ (b : Builder) (c : Column), b.Sound n →
    c.WellFormed m → b.spec.Admits c.spec →
    (∃ b', pushFrom row b c = (.ok (), b') ∧ Grown n b b' (c.valueAt row) (c.cellSize row)) ∨
      Full (pushFrom row b c) fun path => b.toColumn.payloadSize path + c.cellSize row path
  | fixed s v cells, .fixed s' w buffer, h, hc, hadmits => by
    have hin : excludes s (.fixed s' w buffer) row = false := excludes_eq_false hrow hc hadmits
    have htype : cells.type = buffer.cells.type := Option.some.inj (storedType_eq h hc hadmits)
    refine .inl ⟨_, ?_, grown_fixed h (valid_of_admits hrow hc hadmits)
      (Cells.type_pushCell cells buffer.cells row) (Cells.length_pushCell cells buffer.cells row)
      (Cells.valueAt_pushCell htype row) fun _ => rfl⟩
    simp only [pushFrom, hin, Cells.alike_of_type_eq htype]
    rfl
  | bytes s v kind slices, .bytes s' w kind' others, h, hc, hadmits => by
    have hin : excludes s (.bytes s' w kind' others) row = false := excludes_eq_false hrow hc hadmits
    have hstored : some kind.type = some kind'.type := storedType_eq h hc hadmits
    obtain rfl : kind = kind' := by cases kind <;> cases kind' <;> first | rfl | cases hstored
    -- the only step that can be refused, for want of room in the payload
    by_cases hroom : slices.payload.size + (others.get row).size ≤ Slices.maxOffset
    · have hpush : slices.push (others.get row) s = (.ok (), slices.added (others.get row)) :=
        Slices.push_of_fits hroom
      have hgrown : Grown n (bytes s v kind slices)
          (bytes s (v.push (w.isValid row)) kind (slices.added (others.get row)))
          (if w.isValid row then kind.value (others.get row) else .null)
          (Column.cellSize row (.bytes s' w kind others)) :=
        grown_bytes h (valid_of_admits hrow hc hadmits) rfl fun _ _ => rfl
      rw [← Slices.valueAt_eq] at hgrown
      refine .inl ⟨_, ?_, hgrown⟩
      simp only [pushFrom, hin, hpush]
      rfl
    · have hpush : slices.push (others.get row) s =
          (.error (.payload s), slices.outgrown (others.get row)) :=
        Slices.push_of_full s (Nat.lt_of_not_le hroom)
      refine .inr ⟨⟨s, bytes s v kind (slices.outgrown (others.get row)),
        ColumnSpec.holdsBytes_of_type h.2.2.2, ?_⟩, [], Nat.lt_of_not_le hroom⟩
      simp only [pushFrom, hin, hpush]
      rfl
  | record s v children, .record s' w length columns, h, hc, hadmits => by
    have hin : excludes s (.record s' w length columns) row = false :=
      excludes_eq_false hrow hc hadmits
    have hspecs : children.map spec = columns.map Column.spec := by
      rw [h.2.2.2.1, hc.2.2.2.1]
      exact hadmits.fields
    have hwidth : children.length = columns.length := by
      simpa using congrArg List.length hspecs
    rcases grown_pushFromAll hrow children columns h.2.2.2.2 hc.2.2.2.2
      (by rw [hspecs]; exact ColumnSpec.admitsAll_refl _) with
      ⟨children', hpush, hgrown⟩ | ⟨⟨spec, children', hspec, hpush⟩, ⟨i, path⟩, hfull⟩
    · refine .inl ⟨_, ?_, grown_record h (valid_of_admits hrow hc hadmits) hgrown rfl fun _ _ => rfl⟩
      simp only [pushFrom, hin, hpush, if_neg (not_not_intro hwidth)]
      rfl
    · refine .inr ⟨⟨spec, record s v children', hspec, ?_⟩, i :: path, hfull⟩
      simp only [pushFrom, hin, hpush, if_neg (not_not_intro hwidth)]
      rfl
  -- a builder and a column of different layouts never store one type
  | fixed s v cells, .bytes s' w kind slices, h, hc, hadmits => by
    have hstored : some cells.type = some kind.type := storedType_eq h hc hadmits
    cases cells <;> cases kind <;> cases hstored
  | fixed s v cells, .record s' w length columns, h, hc, hadmits =>
    nomatch storedType_eq h hc hadmits
  | bytes s v kind slices, .fixed s' w buffer, h, hc, hadmits => by
    have hstored : some kind.type = some buffer.cells.type := storedType_eq h hc hadmits
    cases kind <;> cases hcells : buffer.cells <;> rw [hcells] at hstored <;> cases hstored
  | bytes s v kind slices, .record s' w length columns, h, hc, hadmits =>
    nomatch storedType_eq h hc hadmits
  | record s v children, .fixed s' w buffer, h, hc, hadmits =>
    nomatch storedType_eq h hc hadmits
  | record s v children, .bytes s' w kind slices, h, hc, hadmits =>
    nomatch storedType_eq h hc hadmits

/-- A row in every column of a sequence. -/
theorem grown_pushFromAll {m row : Nat} (hrow : row < m) : ∀ (bs : List Builder) (cs : List Column),
    SoundAll n bs → Column.WellFormedAll m cs →
    ColumnSpec.AdmitsAll (bs.map spec) (cs.map Column.spec) →
    (∃ bs', pushFromAll row bs cs = (.ok (), bs') ∧
      GrownAll n bs bs' (rowAt row cs) (cellSizeIn row cs)) ∨
      Full (pushFromAll row bs cs) fun (i, path) =>
        payloadSizeIn (toColumns bs) i path + cellSizeIn row cs i path
  | [], [], _, _, _ => .inl ⟨[], rfl, grownAll_nil _ fun _ _ => rfl⟩
  | b :: bs, c :: cs, h, hc, hadmits => by
    rcases grown_pushFrom hrow b c h.1 hc.1 hadmits.1 with
      ⟨b', hpush, hb⟩ | ⟨⟨spec, b', hspec, hpush⟩, path, hfull⟩
    · rcases grown_pushFromAll hrow bs cs h.2 hc.2 hadmits.2 with
        ⟨bs', hpushes, hbs⟩ | ⟨⟨spec, bs', hspec, hpushes⟩, ⟨i, path⟩, hfull⟩
      · refine .inl ⟨b' :: bs', ?_, grownAll_cons hb hbs (fun _ => rfl) fun _ _ => rfl⟩
        simp only [pushFromAll, hpush, hpushes]
      · refine .inr ⟨⟨spec, b' :: bs', hspec, ?_⟩, (i + 1, path), hfull⟩
        simp only [pushFromAll, hpush, hpushes]
    · refine .inr ⟨⟨spec, b' :: bs, hspec, ?_⟩, (0, path), hfull⟩
      simp only [pushFromAll, hpush]

end

end Column.Builder
end HashJoin
