import HashJoin.Proofs.Column.Building

/-!
# Accepting cells

A column takes the cells of its type, and NULL if it admits it. It stores them as they are, but for
numbers in a column of floats, which become floats of its format. A cell that is not taken is refused
for a reason that the specification, the cell, and the bytes that the column holds already tell.

## Main definitions

* `ColumnSpec.takes`, `ColumnSpec.takesAll` — the cells that a column takes.
* `ColumnSpec.converted`, `ColumnSpec.convertedAll` — what they are read as afterwards.
* `Value.bytesAt`, `Value.bytesIn` — the bytes of a cell, or of a row, in a text or binary column.
* `ColumnSpec.fault?`, `ColumnSpec.faultIn?` — why a cell, or a row, is refused.

## Main results

* `ColumnSpec.faultIn?_eq_none_iff` — which rows are taken.
* `Column.Builder.pushAll_of_sound` — a row is stored, or refused for its reason.
-/

namespace HashJoin

/-! ### Cells that are taken -/

namespace ScalarType

/-- Whether a present cell is one of the type. -/
def takes : ScalarType → Value → Bool
  | int w, .integer i => w.holds i
  | float _, .integer _ => true
  | float _, .float _ => true
  | binary, .blob _ => true
  | text, .text _ => true
  | _, _ => false

/-- What a cell is read as after it was stored: a number in a column of floats is one of their
format. -/
def converted : ScalarType → Value → Value
  | float .single, .integer i => .float (Binary.ofInt i : Binary32).convert
  | float .single, .float x => .float (x.convert : Binary32).convert
  | float .double, .integer i => .float (.ofInt i)
  | _, value => value

end ScalarType

namespace ColumnSpec

mutual

/-- Whether a column takes a cell. -/
def takes : ColumnSpec → Value → Bool
  | c, .null => c.nullable
  | scalar _ t _, value => t.takes value
  | record _ fields _, .record values => takesAll fields values
  | _, _ => false

/-- Whether the columns of a sequence take the cells of a row, which has to have one for each. -/
def takesAll : List ColumnSpec → List Value → Bool
  | [], [] => true
  | c :: cs, value :: values => takes c value && takesAll cs values
  | _, _ => false

end

mutual

/-- What a cell is read as after it was stored. -/
def converted : ColumnSpec → Value → Value
  | scalar _ t _, value => t.converted value
  | record _ fields _, .record values => .record (convertedAll fields values)
  | record .., value => value

/-- What the cells of a row are read as after they were stored. -/
def convertedAll : List ColumnSpec → List Value → List Value
  | c :: cs, value :: values => converted c value :: convertedAll cs values
  | _, values => values

end

theorem length_eq_of_takesAll : ∀ {cs : List ColumnSpec} {values : List Value},
    takesAll cs values = true → values.length = cs.length
  | [], [], _ => rfl
  | _ :: _, _ :: _, h =>
    congrArg (· + 1) (length_eq_of_takesAll (Bool.and_eq_true_iff.mp h).2)

end ColumnSpec

/-! ### Bytes -/

namespace Value

mutual

/-- The bytes of a cell in the text or binary column at a path through the fields of records. -/
def bytesAt : Value → List Nat → Nat
  | text s, [] => s.toUTF8.size
  | blob data, [] => data.size
  | record fields, i :: path => bytesIn fields i path
  | _, _ => 0

/-- The bytes of a row in the column at a path that begins with a place in the row. -/
def bytesIn : List Value → Nat → List Nat → Nat
  | [], _, _ => 0
  | value :: _, 0, path => bytesAt value path
  | _ :: values, i + 1, path => bytesIn values i path

end

@[simp] theorem bytesAt_null (path : List Nat) : bytesAt null path = 0 := by
  cases path <;> rfl

end Value

/-! ### Cells that are refused -/

/-- Why a present cell is refused by a column of the type that holds some bytes already. -/
def ScalarType.fault? (row : Nat) (spec : ColumnSpec) (used : Nat) :
    ScalarType → Value → Option FormatError
  | int w, .integer i => if w.holds i then none else some (.integerRange row spec i)
  | float _, .integer _ => none
  | float _, .float _ => none
  | binary, .blob data => if used + data.size ≤ Slices.maxOffset then none else some (.payload spec)
  | text, .text s => if used + s.toUTF8.size ≤ Slices.maxOffset then none else some (.payload spec)
  | _, value => some (.valueType row spec value)

namespace ColumnSpec

mutual

/-- Why a cell is refused by a column, if it is; `used` tells the bytes that the column holds already,
at every path. The first reason in a record counts. -/
def fault? (row : Nat) : ColumnSpec → Value → (List Nat → Nat) → Option FormatError
  | c, .null, _ => if c.nullable then none else some (.nullValue c)
  | scalar name t nullable, value, used => t.fault? row (scalar name t nullable) (used []) value
  | record name fields nullable, .record values, used =>
    if values.length ≠ fields.length then
      some (.recordWidth row (record name fields nullable) values.length)
    else faultIn? row fields values fun i path => used (i :: path)
  | c, value, _ => some (.valueType row c value)

/-- Why the cells of a row are refused, from the first one on. -/
def faultIn? (row : Nat) :
    List ColumnSpec → List Value → (Nat → List Nat → Nat) → Option FormatError
  | c :: cs, value :: values, used =>
    (fault? row c value (used 0)).or (faultIn? row cs values fun i => used (i + 1))
  | _, _, _ => none

end

end ColumnSpec

theorem ScalarType.fault?_eq_none_iff {t : ScalarType} {row used : Nat} {spec : ColumnSpec}
    {value : Value} (hused : used ≤ Slices.maxOffset) :
    t.fault? row spec used value = none ↔
      t.takes value = true ∧ used + value.bytesAt [] ≤ Slices.maxOffset := by
  cases t <;> cases value <;> simp [fault?, takes, Value.bytesAt, hused]

theorem ScalarType.takes_of_fault? {t : ScalarType} {row used : Nat} {spec : ColumnSpec}
    {value : Value} (h : t.fault? row spec used value = none) : t.takes value = true := by
  cases t <;> cases value <;> simp_all [fault?, takes]

/-- Only texts and byte sequences take bytes, and they have no fields. -/
theorem ScalarType.bytesAt_cons_of_takes {t : ScalarType} {value : Value}
    (h : t.takes value = true) (i : Nat) (path : List Nat) : value.bytesAt (i :: path) = 0 := by
  cases value with
  | record fields => cases t <;> cases h
  | _ => rfl

namespace ColumnSpec

section Present

variable {row : Nat} {name : String} {t : ScalarType} {nullable : Bool} {value : Value}
  {used : List Nat → Nat}

theorem takes_null (c : ColumnSpec) : c.takes .null = c.nullable := by
  cases c <;> rfl

theorem fault?_null (row : Nat) (c : ColumnSpec) (used : List Nat → Nat) :
    c.fault? row .null used = if c.nullable then none else some (.nullValue c) := by
  cases c <;> rfl

theorem takes_scalar (h : value ≠ .null) : (scalar name t nullable).takes value = t.takes value := by
  cases value with
  | null => exact absurd rfl h
  | _ => rfl

theorem fault?_scalar (h : value ≠ .null) : (scalar name t nullable).fault? row value used =
    t.fault? row (scalar name t nullable) (used []) value := by
  cases value with
  | null => exact absurd rfl h
  | _ => rfl

end Present

mutual

/-- A cell is taken if it is one of the column's and its bytes, behind those that the column holds,
can be addressed. -/
theorem fault?_eq_none_iff {row : Nat} : ∀ {c : ColumnSpec} {value : Value} {used : List Nat → Nat},
    (∀ path, used path ≤ Slices.maxOffset) → (c.fault? row value used = none ↔
      c.takes value = true ∧ ∀ path, used path + value.bytesAt path ≤ Slices.maxOffset)
  | scalar name t nullable, value, used, hused => by
    by_cases hnull : value = .null
    · rw [hnull, fault?_null, takes_null]
      simp [hused]
    · rw [fault?_scalar hnull, takes_scalar hnull, ScalarType.fault?_eq_none_iff (hused [])]
      refine and_congr_right fun htakes => ⟨fun hfits path => ?_, fun hfits => hfits []⟩
      cases path with
      | nil => exact hfits
      | cons i path =>
        rw [ScalarType.bytesAt_cons_of_takes htakes]
        exact hused (i :: path)
  | record name fields nullable, .record values, used, hused => by
    rw [fault?, takes]
    by_cases hwidth : values.length = fields.length
    · rw [if_neg (not_not_intro hwidth), faultIn?_eq_none_iff hwidth fun i path => hused (i :: path)]
      refine and_congr_right fun _ => ⟨fun hfits path => ?_, fun hfits i path => hfits (i :: path)⟩
      cases path with
      | nil => exact hused []
      | cons i path => exact hfits i path
    · rw [if_pos hwidth]
      refine iff_of_false nofun fun h => hwidth (length_eq_of_takesAll h.1)
  | record _ _ _, .null, _, hused => by simp [fault?_null, takes_null, hused]
  | record _ _ _, .integer _, _, _ | record _ _ _, .float _, _, _ | record _ _ _, .text _, _, _
  | record _ _ _, .blob _, _, _ => by simp [fault?, takes]

/-- A row is taken if each of its cells is. -/
theorem faultIn?_eq_none_iff {row : Nat} : ∀ {cs : List ColumnSpec} {values : List Value}
    {used : Nat → List Nat → Nat}, values.length = cs.length →
    (∀ i path, used i path ≤ Slices.maxOffset) → (faultIn? row cs values used = none ↔
      takesAll cs values = true ∧ ∀ i path, used i path + Value.bytesIn values i path ≤ Slices.maxOffset)
  | [], [], used, _, hused => by simp [faultIn?, takesAll, Value.bytesIn, hused]
  | c :: cs, value :: values, used, hwidth, hused => by
    have hfirst : c.fault? row value (used 0) = none ↔ _ := fault?_eq_none_iff (hused 0)
    have hrest : faultIn? row cs values (fun i => used (i + 1)) = none ↔ _ :=
      faultIn?_eq_none_iff (Nat.succ.inj hwidth) fun i => hused (i + 1)
    rw [faultIn?, Option.or_eq_none_iff, hfirst, hrest, takesAll, Bool.and_eq_true_iff]
    constructor
    · rintro ⟨⟨htakes, hfits⟩, htakesAll, hfitsAll⟩
      refine ⟨⟨htakes, htakesAll⟩, fun i path => ?_⟩
      cases i with
      | zero => exact hfits path
      | succ i => exact hfitsAll i path
    · rintro ⟨⟨htakes, htakesAll⟩, hfits⟩
      exact ⟨⟨htakes, fun path => hfits 0 path⟩, htakesAll, fun i path => hfits (i + 1) path⟩

end

end ColumnSpec

/-! ### Storing a cell -/

namespace Cells

variable {cells : Cells} {value : Value}

theorem refusal?_eq (cells : Cells) (spec : ColumnSpec) (row used : Nat) (value : Value) :
    cells.refusal? spec row value = cells.type.fault? row spec used value := by
  cases cells <;> cases value <;> rfl

@[simp] theorem type_pushValue (cells : Cells) (value : Value) :
    (cells.pushValue value).type = cells.type := by
  cases cells <;> cases value <;> rfl

@[simp] theorem length_pushValue (cells : Cells) (value : Value) :
    (cells.pushValue value).length = cells.length + 1 := by
  cases cells <;> cases value <;> simp [pushValue, pushZero, length]

theorem valueAt_pushValue (h : cells.type.takes value = true) (row : Nat) :
    (cells.pushValue value).valueAt row =
      if row = cells.length then cells.type.converted value else cells.valueAt row := by
  match cells, value, h with
  | ints _ _, .integer _, _ | singles _, .integer _, _ | singles _, .float _, _
  | doubles _, .integer _, _ | doubles _, .float _, _ =>
    simp only [pushValue, valueAt, length, type, ScalarType.converted, getD_push,
      apply_ite Value.integer, apply_ite Value.float, apply_ite Binary.convert]
    rfl

/-- Numbers take no bytes. -/
theorem bytesAt_of_takes (h : cells.type.takes value = true) (path : List Nat) :
    value.bytesAt path = 0 := by
  match cells, value, h with
  | ints _ _, .integer _, _ | singles _, .integer _, _ | singles _, .float _, _
  | doubles _, .integer _, _ | doubles _, .float _, _ => cases path <;> rfl

end Cells

/-- A text is what its bytes stand for. -/
theorem decode_toUTF8 (s : String) : Text.decode s.toUTF8 = s := by
  have hvalid : s.toUTF8.IsValidUTF8 := s.isValidUTF8
  rw [Text.decode, String.fromUTF8?, dif_pos hvalid]
  rfl

namespace ColumnSpec

theorem converted_null (c : ColumnSpec) : c.converted .null = .null := by
  cases c with
  | scalar name t nullable => cases t with
    | float w => cases w <;> rfl
    | _ => rfl
  | record name fields nullable => rfl

/-! A builder knows the type of its column from what it stores, and not from the form of its
specification. -/

section Stored

variable {c : ColumnSpec} {t : ScalarType} {row : Nat} {value : Value} {values : List Value}
  {used : List Nat → Nat}

theorem converted_of_type (h : c.scalarType? = some t) (value : Value) :
    c.converted value = t.converted value := by
  cases c with
  | scalar name t' nullable =>
    cases h
    rfl
  | record name fields nullable => cases h

theorem fault?_of_type (h : c.scalarType? = some t) (hvalue : value ≠ .null) :
    c.fault? row value used = t.fault? row c (used []) value := by
  cases c with
  | scalar name t' nullable =>
    cases h
    exact fault?_scalar hvalue
  | record name fields nullable => cases h

theorem converted_of_isRecord (h : c.isRecord = true) :
    c.converted (.record values) = .record (convertedAll c.fields values) := by
  cases c with
  | scalar name t nullable => cases h
  | record name fields nullable => rfl

theorem fault?_of_isRecord (h : c.isRecord = true) : c.fault? row (.record values) used =
    if values.length ≠ c.fields.length then some (.recordWidth row c values.length)
    else faultIn? row c.fields values fun i path => used (i :: path) := by
  cases c with
  | scalar name t nullable => cases h
  | record name fields nullable => rfl

theorem fault?_of_isRecord_ne (h : c.isRecord = true) (hnull : value ≠ .null)
    (hvalue : ∀ values, value ≠ .record values) :
    c.fault? row value used = some (.valueType row c value) := by
  cases c with
  | scalar name t nullable => cases h
  | record name fields nullable =>
    cases value with
    | null => exact absurd rfl hnull
    | record values => exact absurd rfl (hvalue values)
    | _ => rfl

end Stored

end ColumnSpec

namespace Column.Builder

variable {n : Nat} {s : ColumnSpec} {v : Validity} {value : Value}

/-- A builder that was given a cell, or some builders that were given a row, have grown, or have refused
it for its reason. -/
inductive Answers {α : Type} (fault : Option FormatError) (Grows : α → Prop)
    (result : Except FormatError Unit × α) : Prop where
  /-- There is no reason to refuse the cell. -/
  | stored (after : α) (hfault : fault = none) (hresult : result = (.ok (), after))
    (hgrown : Grows after)
  /-- There is a reason. -/
  | refused (e : FormatError) (after : α) (hfault : fault = some e)
    (hresult : result = (.error e, after))

theorem answers_pushNull (b : Builder) (h : b.Sound n) :
    Answers (b.spec.fault? row .null used)
      (fun b' => Grown n b b' (b.spec.converted .null) (Value.bytesAt .null)) (b.push row .null) := by
  have hpush : b.push row .null = b.pushNull := by cases b <;> rfl
  rw [hpush, pushNull, ColumnSpec.fault?_null, ColumnSpec.converted_null]
  cases hnull : b.spec.nullable with
  | true =>
    refine .stored _ rfl rfl ?_
    have hgrown := grown_pushBlank b false h (by rw [hnull]; nofun)
    refine ⟨hgrown.sound, hgrown.spec, hgrown.value, fun path => ?_⟩
    rw [hgrown.payload, Value.bytesAt_null]
  | false => exact .refused _ _ rfl rfl

/-- A cell that is present is put in a fixed-width column, or refused there. -/
theorem push_fixed {cells : Cells} (hvalue : value ≠ .null) (row : Nat) :
    push row (fixed s v cells) value =
      match cells.refusal? s row value with
      | some e => (.error e, fixed s v cells)
      | none => (.ok (), fixed s (v.push true) (cells.pushValue value)) := by
  cases value with
  | null => exact absurd rfl hvalue
  | _ => rfl

/-- A cell for a fixed-width column. -/
theorem answers_push_fixed {cells : Cells} (h : (fixed s v cells).Sound n) (hvalue : value ≠ .null)
    (row : Nat) (used : List Nat → Nat) :
    Answers (s.fault? row value used)
      (fun b' => Grown n (fixed s v cells) b' (s.converted value) value.bytesAt)
      (push row (fixed s v cells) value) := by
  have htype : s.scalarType? = some cells.type := h.2.2.2
  rw [push_fixed hvalue, ColumnSpec.fault?_of_type htype hvalue, ColumnSpec.converted_of_type htype,
    Cells.refusal?_eq cells s row (used [])]
  cases hfault : cells.type.fault? row s (used []) value with
  | some e => exact .refused _ _ rfl rfl
  | none =>
    have htakes := ScalarType.takes_of_fault? hfault
    exact .stored _ rfl rfl (grown_fixed h (fun _ => rfl) (Cells.type_pushValue _ _)
      (Cells.length_pushValue _ _) (Cells.valueAt_pushValue htakes) (Cells.bytesAt_of_takes htakes))

/-- The bytes of a cell for a column of texts or byte sequences. -/
theorem answers_push_bytes {kind : BytesKind} {slices : Slices} {data : ByteArray}
    (h : (bytes s v kind slices).Sound n) (hvalue : kind.value data = value)
    (hnil : value.bytesAt [] = data.size) (hcons : ∀ i path, value.bytesAt (i :: path) = 0) :
    Answers (if slices.payload.size + data.size ≤ Slices.maxOffset then none else some (.payload s))
      (fun b' => Grown n (bytes s v kind slices) b' value value.bytesAt)
      (match slices.push data s with
        | (.ok (), slices) => (.ok (), bytes s (v.push true) kind slices)
        | (.error e, slices) => (.error e, bytes s v kind slices)) := by
  by_cases hroom : slices.payload.size + data.size ≤ Slices.maxOffset
  · rw [if_pos hroom, Slices.push_of_fits hroom, ← hvalue]
    exact .stored _ rfl rfl (grown_bytes h (fun _ => rfl) (by rw [hvalue, hnil]) (by rwa [hvalue]))
  · rw [if_neg hroom, Slices.push_of_full s (Nat.lt_of_not_le hroom)]
    exact .refused _ _ rfl rfl

mutual

/-- A cell is stored, or refused for its reason. -/
theorem push_of_sound (row : Nat) : ∀ (b : Builder) (value : Value), b.Sound n →
    Answers (b.spec.fault? row value b.toColumn.payloadSize)
      (fun b' => Grown n b b' (b.spec.converted value) value.bytesAt) (b.push row value)
  | b, .null, h => answers_pushNull b h
  | fixed s v cells, value, h => by
    by_cases hnull : value = .null
    · rw [hnull]
      exact answers_pushNull _ h
    · exact answers_push_fixed h hnull row _
  | bytes s v .binary slices, .blob data, h => by
    have hblob : Value.blob data ≠ .null := nofun
    show Answers (s.fault? row (.blob data) _) (fun b' => Grown n _ b' (s.converted (.blob data)) _) _
    rw [ColumnSpec.fault?_of_type h.2.2.2 hblob, ColumnSpec.converted_of_type h.2.2.2]
    exact answers_push_bytes h rfl rfl fun _ _ => rfl
  | bytes s v .text slices, .text t, h => by
    have htext : Value.text t ≠ .null := nofun
    show Answers (s.fault? row (.text t) _) (fun b' => Grown n _ b' (s.converted (.text t)) _) _
    rw [ColumnSpec.fault?_of_type h.2.2.2 htext, ColumnSpec.converted_of_type h.2.2.2]
    exact answers_push_bytes h (congrArg Value.text (decode_toUTF8 t)) rfl fun _ _ => rfl
  -- cells of another type
  | bytes s v .binary slices, .integer _, h | bytes s v .binary slices, .float _, h
  | bytes s v .binary slices, .text _, h | bytes s v .binary slices, .record _, h
  | bytes s v .text slices, .integer _, h | bytes s v .text slices, .float _, h
  | bytes s v .text slices, .blob _, h | bytes s v .text slices, .record _, h =>
    .refused _ _ (ColumnSpec.fault?_of_type h.2.2.2 nofun) rfl
  | record s v children, .record values, h => by
    obtain ⟨-, -, hrec, hspecs, hchildren⟩ := id h
    have hwidth : s.fields.length = children.length := by rw [← hspecs, List.length_map]
    show Answers (s.fault? row (.record values) _)
      (fun b' => Grown n _ b' (s.converted (.record values)) _) _
    rw [ColumnSpec.fault?_of_isRecord hrec, ColumnSpec.converted_of_isRecord hrec, push, hwidth, ← hspecs]
    by_cases hvalues : values.length = children.length
    · rw [if_neg (not_not_intro hvalues), if_neg (not_not_intro hvalues)]
      rcases pushAll_of_sound row children values hchildren hvalues with
        ⟨children', hfault, hpush, hgrown⟩ | ⟨e, children', hfault, hpush⟩
      · refine .stored _ hfault (by rw [hpush]) ?_
        exact grown_record h (fun _ => rfl) hgrown rfl fun _ _ => rfl
      · exact .refused e _ hfault (by rw [hpush])
    · rw [if_pos hvalues, if_pos hvalues]
      exact .refused _ _ rfl rfl
  | record s v children, .integer _, h | record s v children, .float _, h
  | record s v children, .text _, h | record s v children, .blob _, h =>
    .refused _ _ (ColumnSpec.fault?_of_isRecord_ne h.2.2.1 nofun nofun) rfl

/-- The cells of a row are stored, or the first that has a reason is refused for it. -/
theorem pushAll_of_sound (row : Nat) : ∀ (bs : List Builder) (values : List Value), SoundAll n bs →
    values.length = bs.length →
    Answers (ColumnSpec.faultIn? row (bs.map spec) values (payloadSizeIn (toColumns bs)))
      (fun bs' => GrownAll n bs bs' (ColumnSpec.convertedAll (bs.map spec) values)
        (Value.bytesIn values)) (pushAll row bs values)
  | [], [], _, _ => .stored [] rfl rfl (grownAll_nil _ fun _ _ => rfl)
  | b :: bs, value :: values, h, hwidth => by
    rw [List.map_cons, ColumnSpec.faultIn?, pushAll]
    rcases push_of_sound row b value h.1 with ⟨b', hfault, hpush, hb⟩ | ⟨e, b', hfault, hpush⟩
    · rcases pushAll_of_sound row bs values h.2 (Nat.succ.inj hwidth) with
        ⟨bs', hfaults, hpushes, hbs⟩ | ⟨e, bs', hfaults, hpushes⟩
      · refine .stored (b' :: bs') ?_ ?_ (grownAll_cons hb hbs (fun _ => rfl) fun _ _ => rfl)
        · exact Option.or_eq_none_iff.mpr ⟨hfault, hfaults⟩
        · simp only [hpush, hpushes]
      · refine .refused e (b' :: bs') ?_ ?_
        · exact (congrArg (Option.or · _) hfault).trans hfaults
        · simp only [hpush, hpushes]
    · refine .refused e (b' :: bs) ?_ ?_
      · exact congrArg (Option.or · _) hfault
      · simp only [hpush]

end

end Column.Builder
end HashJoin
