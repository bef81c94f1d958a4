import HashJoin.Checked.Rows
import HashJoin.Proofs.Column.Growth
import HashJoin.Proofs.Key.Matching

/-!
# Checked rows are rows

The checked operations on rows come to what the others come to: all indexes are in range when the columns
of a batch are what they claim to be, the row is one of the batch, and the keys were resolved by its schema.

## Main definitions

* `Checked.Readable` — a row of a batch whose columns are what they claim to be.
* `Checked.Covers` — key columns that a batch has.

## Main results

* `hashRow_eq`, `canMatch_eq`, `keysEqual_eq` — the key cells of readable rows.
* `append_eq` — a writer that takes readable rows.
* `resolve_eq` — the key columns, for any schemas.
-/

namespace HashJoin

namespace JoinKeys

theorem lt_of_indexOf? {schema : Schema} {name : String} {index : Nat}
    (h : schema.indexOf? name = some index) : index < schema.fields.length :=
  (List.findIdx?_eq_some_iff_getElem.mp h).1

/-- Resolved keys of a side are columns of its schema. -/
theorem lt_of_resolveSide {side : Side} {schema : Schema} {conditions : List Condition}
    {keys : List KeyColumn} (h : resolveSide side (some schema) conditions = .ok keys) :
    ∀ key ∈ keys, key.index < schema.fields.length := by
  simp only [resolveSide] at h
  induction conditions generalizing keys with
  | nil =>
    cases h
    intro key hkey
    cases hkey
  | cons c conditions ih =>
    obtain ⟨key, rest, rfl, hkey, hrest⟩ := mapM_cons_eq_ok h
    intro key' hmem
    rcases List.mem_cons.mp hmem with rfl | hmem
    · exact lt_of_indexOf? (indexOf?_of_resolveColumn hkey)
    · exact ih hrest key' hmem

/-- Resolved keys of the build side are columns of its batches. -/
theorem lt_of_resolve_build {conditions : List Condition} {b : Batch} {probe : Option Schema}
    {keys : JoinKeys} (h : resolve conditions (some b.schema) probe = .ok keys) :
    ∀ key ∈ keys.build, key.index < b.columns.length := by
  intro key hkey
  have hlt := lt_of_resolveSide (resolve_eq_ok h).1 key hkey
  rw [Batch.schema, List.length_map] at hlt
  exact hlt

/-- Resolved keys of the probe side are columns of its batches. -/
theorem lt_of_resolve_probe {conditions : List Condition} {b : Batch} {build : Option Schema}
    {keys : JoinKeys} (h : resolve conditions build (some b.schema) = .ok keys) :
    ∀ key ∈ keys.probe, key.index < b.columns.length := by
  intro key hkey
  have hlt := lt_of_resolveSide (resolve_eq_ok h).2.1 key hkey
  rw [Batch.schema, List.length_map] at hlt
  exact hlt

end JoinKeys

namespace Checked

open Column (Builder WellFormed WellFormedAll)

/-! ### Lists -/

theorem foldlM_eq {α β : Type} {f : β → α → Checked β} {g : β → α → β} {as : List α}
    (h : ∀ b, ∀ a ∈ as, f b a = pure (g b a)) (b : β) : as.foldlM f b = pure (as.foldl g b) := by
  induction as generalizing b with
  | nil => rfl
  | cons a as ih =>
    rw [List.foldlM_cons, h b a List.mem_cons_self, pure_bind]
    exact ih (fun b a ha => h b a (List.mem_cons_of_mem _ ha)) (g b a)

theorem allM_eq {α : Type} {p : α → Checked Bool} {q : α → Bool} {as : List α}
    (h : ∀ a ∈ as, p a = pure (q a)) : as.allM p = pure (as.all q) := by
  induction as with
  | nil => rfl
  | cons a as ih =>
    rw [List.allM, h a List.mem_cons_self, pure_bind, List.all_cons]
    cases q a with
    | false => rfl
    | true => exact ih fun a ha => h a (List.mem_cons_of_mem _ ha)

/-! ### Cells -/

theorem isValid_eq (v : Validity) (row : Nat) : isValid v row = pure (v.isValid row) := by
  unfold isValid Validity.isValid
  by_cases h : row < v.length
  · have hbyte : row / 8 < v.bytes.size := by
      have hcovers := v.covers
      omega
    rw [if_pos h, dif_pos h, readAt_of_lt .bits hbyte]
    rfl
  · rw [if_neg h, dif_neg h]

theorem pushBit_eq (v : Validity) (valid : Bool) : pushBit v valid = pure (v.push valid) := by
  obtain ⟨bytes, length, covers⟩ := v
  have hgrown : (length + 1 + 7) / 8 ≤
      (if length / 8 = bytes.size then bytes.push 0 else bytes).size := by
    split
    · rw [Array.size_push]
      omega
    · omega
  cases valid with
  | false =>
    simp only [pushBit, Bool.false_eq_true, if_false, pure_bind, dif_pos hgrown]
    rfl
  | true =>
    simp only [pushBit, if_true]
    rw [modifyAt_eq .bits (by omega), pure_bind, dif_pos (by rw [Array.size_modify]; exact hgrown)]
    rfl

variable {n row : Nat}

theorem sliceAt_eq {s : Slices} (h : s.WellFormed n) (hrow : row < n) :
    sliceAt s row = pure (s.get row) := by
  have hsize := h.size
  rw [sliceAt, readAt_eq .offset (by omega) 0, pure_bind, readAt_eq .offset (by omega) 0, pure_bind]
  exact cut_eq (h.ascending row hrow) (h.le_size hrow)

theorem cellKey_eq {cells : Cells} (h : row < cells.length) :
    cellKey cells row = pure (cells.keyAt row) := by
  cases cells with
  | ints width values => rw [cellKey, readAt_eq .row h 0, pure_bind, Cells.keyAt]
  | singles values => rw [cellKey, readAt_eq .row h .zero, pure_bind, Cells.keyAt]
  | doubles values => rw [cellKey, readAt_eq .row h .zero, pure_bind, Cells.keyAt]

theorem pushCell_eq {cells others : Cells} (h : row < others.length) :
    pushCell cells others row = pure (cells.pushCell others row) := by
  cases cells <;> cases others <;> try rfl
  all_goals
    simp only [pushCell, Cells.pushCell]
    rw [readAt_eq .row h]
    rfl

/-- The key cell of a row of a column that is what it claims to be. -/
theorem keyAt_eq {c : Column} (h : c.WellFormed n) (hrow : row < n) :
    keyAt c row = pure (c.keyAt row) := by
  unfold keyAt Column.keyAt
  rw [isValid_eq, pure_bind, Column.isValid]
  cases c.validity.isValid row with
  | false => rfl
  | true =>
    cases c with
    | fixed _ _ buffer => exact cellKey_eq (by rw [h.2.1]; exact hrow)
    | bytes _ _ _ slices =>
      simp only [if_true, sliceAt_eq h.2.1 hrow]
      rfl
    | record => rfl

/-! ### Rows -/

/-- The row is one of its batch, and the columns of the batch are what they claim to be. -/
structure Readable (r : BatchRow) : Prop where
  /-- The columns. -/
  columns : WellFormedAll r.1.rowCount r.1.columns
  /-- The row. -/
  row : r.2 < r.1.rowCount

/-- The batch has the key columns. -/
def Covers (batch : Batch) (keys : List KeyColumn) : Prop :=
  ∀ key ∈ keys, key.index < batch.columns.length

variable {batch : Batch} {keys : JoinKeys}

theorem column_of_lt {key : KeyColumn} (h : key.index < batch.columns.length) :
    ∃ c, nth .column batch.columns key.index = pure c ∧ batch.column? key.index = some c ∧
      c ∈ batch.columns := by
  have hget : batch.columns[key.index]? = some batch.columns[key.index] := List.getElem?_eq_getElem h
  exact ⟨_, nth_eq .column hget, hget, List.getElem_mem h⟩

theorem cellOf_eq {key : KeyColumn} (h : Readable (batch, row)) (hkey : key.index < batch.columns.length) :
    cellOf key batch row = pure (key.cell batch row) := by
  obtain ⟨c, hread, hcolumn, hmem⟩ := column_of_lt hkey
  rw [cellOf, hread, pure_bind, KeyColumn.cell, hcolumn]
  exact keyAt_eq (Column.wellFormedAll_iff.mp h.columns c hmem) h.row

/-- **The hash of a row** by columns that its batch has. -/
theorem hashRow_eq {columns : List KeyColumn} (h : Readable (batch, row)) (hkeys : Covers batch columns) :
    hashRow columns batch row = pure (rowHash Digest.xxh3 columns batch row) := by
  have hstep : ∀ seed, ∀ key ∈ columns, (do return (← cellOf key batch row).absorb Digest.xxh3 seed) =
      (pure ((key.cell batch row).absorb Digest.xxh3 seed) : Checked UInt64) := by
    intro seed key hkey
    rw [cellOf_eq h (hkeys key hkey), pure_bind]
  rw [hashRow, foldlM_eq hstep, pure_bind, rowHash]

/-- Whether a probe row can match at all. -/
theorem canMatch_eq (hkeys : Covers batch keys.probe) :
    canMatch keys batch row = pure (keys.canMatch batch row) := by
  apply allM_eq
  rintro ⟨key, comparator⟩ hmem
  obtain ⟨c, hread, hcolumn, -⟩ := column_of_lt (hkeys key (List.of_mem_zip hmem).1)
  cases hnulls : comparator.nullsEqual with
  | true => simp [hnulls]
  | false => simp [hnulls, hread, hcolumn, isValid_eq, Column.isValid]

/-- **Whether a probe row and a build row match.** -/
theorem keysEqual_eq {build : Batch} {buildRow : Nat} (hprobe : Readable (batch, row))
    (hbuild : Readable (build, buildRow)) (hprobeKeys : Covers batch keys.probe)
    (hbuildKeys : Covers build keys.build) :
    keysEqual keys batch row build buildRow = pure (keys.keysEqual batch row build buildRow) := by
  apply allM_eq
  rintro ⟨⟨p, b⟩, comparator⟩ hmem
  obtain ⟨hp, hb⟩ := List.of_mem_zip (List.of_mem_zip hmem).1
  simp only [cellOf_eq hprobe (hprobeKeys p hp), cellOf_eq hbuild (hbuildKeys b hb), pure_bind]

/-! ### Resolving the keys -/

theorem resolveColumn_eq (side : Side) (schema : Schema) (c : Condition) :
    resolveColumn side schema c = pure (JoinKeys.resolveColumn side schema c) := by
  cases hindex : schema.indexOf? (c.columnOn side) with
  | none => simp only [resolveColumn, JoinKeys.resolveColumn, hindex]
  | some index =>
    have hlt := JoinKeys.lt_of_indexOf? hindex
    have hget : schema.fields[index]? = some schema.fields[index] := List.getElem?_eq_getElem hlt
    simp only [resolveColumn, JoinKeys.resolveColumn, hindex, nth_eq .column hget, pure_bind,
      Schema.field?, hget]
    cases KeyFamily.ofSpec? schema.fields[index] with
    | none => rfl
    | some family => rfl

theorem resolveColumns_eq (side : Side) (schema : Schema) (conditions : List Condition) :
    resolveColumns side schema conditions =
      pure (conditions.mapM (JoinKeys.resolveColumn side schema)) := by
  induction conditions with
  | nil => rfl
  | cons c cs ih =>
    rw [resolveColumns, resolveColumn_eq, pure_bind, List.mapM_cons]
    cases JoinKeys.resolveColumn side schema c with
    | error e => rfl
    | ok key =>
      simp only [ih, pure_bind]
      cases cs.mapM (JoinKeys.resolveColumn side schema) with
      | error e => rfl
      | ok keys => rfl

theorem resolveSide_eq (side : Side) (schema : Option Schema) (conditions : List Condition) :
    resolveSide side schema conditions = pure (JoinKeys.resolveSide side schema conditions) := by
  cases schema with
  | none => rfl
  | some schema => exact resolveColumns_eq side schema conditions

/-- **Resolving the keys** takes no index but those of columns that are there. -/
theorem resolve_eq (conditions : List Condition) (build probe : Option Schema) :
    resolve conditions build probe = pure (JoinKeys.resolve conditions build probe) := by
  rw [resolve, resolveSide_eq, pure_bind, JoinKeys.resolve]
  cases JoinKeys.resolveSide .build build conditions with
  | error e => rfl
  | ok buildKeys =>
    simp only [resolveSide_eq, pure_bind]
    cases JoinKeys.resolveSide .probe probe conditions with
    | error e => rfl
    | ok probeKeys =>
      simp only [bind, Except.bind]
      cases JoinKeys.familyFault? conditions buildKeys probeKeys with
      | none => rfl
      | some fault => rfl

/-! ### Writing -/

mutual

theorem pushBlank_eq (valid : Bool) :
    ∀ b : Builder, pushBlank valid b = pure (b.pushBlank valid)
  | .fixed s v cells => by
    rw [pushBlank, pushBit_eq, pure_bind, Builder.pushBlank]
  | .bytes s v kind slices => by
    rw [pushBlank, pushBit_eq, pure_bind, Builder.pushBlank]
  | .record s v children => by
    rw [pushBlank, pushAbsentAll_eq children, pure_bind, pushBit_eq, pure_bind, Builder.pushBlank]

theorem pushAbsentAll_eq : ∀ bs : List Builder, pushAbsentAll bs = pure (Builder.pushAbsentAll bs)
  | [] => by rw [pushAbsentAll, Builder.pushAbsentAll]
  | b :: bs => by
    rw [pushAbsentAll, pushBlank_eq _ b, pure_bind, pushAbsentAll_eq bs, pure_bind,
      Builder.pushAbsentAll]

end

mutual

/-- A row of a column that is what it claims to be. -/
theorem pushFrom_eq (hrow : row < n) : ∀ (b : Builder) {c : Column}, c.WellFormed n →
    pushFrom row b c = pure (b.pushFrom row c)
  | .fixed s v cells, c, h => by
    cases c <;> simp only [pushFrom, Builder.pushFrom, isValid_eq, pure_bind, Builder.excludes,
      Column.isValid, Column.validity]
    case fixed w buffer =>
      refine ite_eq (fun _ => rfl) fun _ => ite_eq (fun _ => ?_) fun _ => rfl
      rw [pushCell_eq (by rw [h.2.1]; exact hrow), pure_bind, pushBit_eq, pure_bind]
    all_goals exact ite_eq (fun _ => rfl) fun _ => rfl
  | .bytes s v kind slices, c, h => by
    cases c <;> simp only [pushFrom, Builder.pushFrom, isValid_eq, pure_bind, Builder.excludes,
      Column.isValid, Column.validity]
    case bytes w kind' others =>
      refine ite_eq (fun _ => rfl) fun _ => ite_eq (fun _ => ?_) fun _ => rfl
      rw [sliceAt_eq h.2.1 hrow, pure_bind]
      rcases slices.push (others.get row) s with ⟨_ | _, slices'⟩
      · rfl
      · simp only [pushBit_eq, pure_bind]
    all_goals exact ite_eq (fun _ => rfl) fun _ => rfl
  | .record s v children, c, h => by
    cases c <;> simp only [pushFrom, Builder.pushFrom, isValid_eq, pure_bind, Builder.excludes,
      Column.isValid, Column.validity]
    case record w length columns =>
      refine ite_eq (fun _ => rfl) fun _ => ite_eq (fun _ => rfl) fun _ => ?_
      rw [pushFromAll_eq hrow children h.2.2.2.2, pure_bind]
      rcases Builder.pushFromAll row children columns with ⟨_ | _, children'⟩
      · rfl
      · simp only [pushBit_eq, pure_bind]
    all_goals exact ite_eq (fun _ => rfl) fun _ => rfl

theorem pushFromAll_eq (hrow : row < n) : ∀ (bs : List Builder) {cs : List Column},
    WellFormedAll n cs → pushFromAll row bs cs = pure (Builder.pushFromAll row bs cs)
  | [], cs, _ => by
    cases cs with
    | nil => rfl
    | cons => rfl
  | _ :: _, [], _ => rfl
  | b :: bs, c :: cs, h => by
    rw [pushFromAll, pushFrom_eq hrow b h.1, pure_bind, Builder.pushFromAll]
    rcases b.pushFrom row c with ⟨_ | _, b'⟩
    · rfl
    · simp only [pushFromAll_eq hrow bs h.2, pure_bind]

end

/-- The build columns are among the columns of a join. -/
theorem buildWidth_le (build probe : Option Schema) (joinType : JoinType) :
    (OutputSchema.ofSides build probe joinType).buildWidth ≤
      (OutputSchema.ofSides build probe joinType).schema.fields.length := by
  rw [OutputSchema.ofSides, List.length_append]
  exact Nat.le_add_right _ _

theorem openWriter_eq {output : OutputSchema} (h : output.buildWidth ≤ output.schema.fields.length) :
    openWriter output = pure (.ofSchema output) := by
  rw [openWriter, part_eq .column h, pure_bind, RowWriter.ofSchema]

theorem writeSide_eq (builders : List Builder) {source : Option BatchRow}
    (h : ∀ r, source = some r → Readable r) :
    writeSide builders source = pure (RowWriter.writeSide builders source) := by
  cases source with
  | none => rw [writeSide, pushAbsentAll_eq, pure_bind, RowWriter.writeSide]
  | some r => exact pushFromAll_eq (h r rfl).row builders (h r rfl).columns

/-- **A writer takes readable rows.** -/
theorem append_eq (w : RowWriter) {build probe : Option BatchRow}
    (hbuild : ∀ r, build = some r → Readable r) (hprobe : ∀ r, probe = some r → Readable r) :
    append w build probe = pure (w.append build probe) := by
  obtain ⟨buildColumns, probeColumns, rows⟩ := w
  simp only [append, writeSide_eq _ hbuild, pure_bind, RowWriter.append]
  rcases RowWriter.writeSide buildColumns build with ⟨_ | _, builders⟩
  · rfl
  · simp only [writeSide_eq _ hprobe, pure_bind]
    rcases RowWriter.writeSide probeColumns probe with ⟨_ | _, builders'⟩
    · rfl
    · rfl

end Checked
end HashJoin
