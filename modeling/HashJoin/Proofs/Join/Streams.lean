import HashJoin.Proofs.BuildSide.Filling
import HashJoin.Proofs.NestedLoop.Remaining
import HashJoin.Proofs.Output.Writing

/-!
# Streams that can be joined

Two streams of batches can be joined if their batches are what they claim to be, rows come under one
schema on each side, and the keys can be resolved. The join of the streams is the nested loop over
their rows, and its output columns can take every row of it.

## Main definitions

* `Joining` — two streams whose rows come under two schemas with keys.
* `Joinable` — two streams that can be joined.
* `joinedRows` — the rows of their join.
* `outputOf` — the columns of these rows.

## Main results

* `Joining.rowFits` — the output columns can take the rows.
* `Joining.fields_ne_nil` — there are output columns as soon as there is a row.
-/

namespace HashJoin

/-! ### Configurations -/

theorem Config.conditions_ne_nil {config : Config} (h : config.fault? = none) :
    config.conditions ≠ [] := by
  rintro hnil
  rw [fault?, hnil] at h
  cases h

theorem Config.batchRows_pos {config : Config} (h : config.fault? = none) : 0 < config.batchRows := by
  unfold fault? at h
  split at h
  · cases h
  · split at h
    · cases h
    · split at h
      · cases h
      · split at h
        · cases h
        · split at h
          · cases h
          · next hsize =>
            simp only [Bool.or_eq_true, decide_eq_true_eq, not_or] at hsize
            omega

theorem Config.minBuckets_pos {config : Config} (h : config.fault? = none) : 0 < config.minBuckets := by
  unfold fault? at h
  split at h
  · cases h
  · split at h
    · cases h
    · split at h
      · cases h
      · split at h
        · cases h
        · next hbuckets =>
          simp only [Bool.or_eq_true, decide_eq_true_eq, not_or] at hbuckets
          omega

/-! ### Output columns -/

namespace OutputSchema

variable {build probe : Option Schema} {joinType : JoinType}

theorem buildSpecs_ofSides :
    (ofSides build probe joinType).buildSpecs = sideFields build joinType.keepsProbe :=
  List.take_left

theorem probeSpecs_ofSides :
    (ofSides build probe joinType).probeSpecs = sideFields probe joinType.keepsBuild :=
  List.drop_left

theorem length_sideFields (schema : Schema) (mayLack : Bool) :
    (sideFields (some schema) mayLack).length = schema.fields.length := by
  cases mayLack with
  | true => exact List.length_map _
  | false => rfl

end OutputSchema

/-! ### Rows under two schemas -/

/-- The rows of two streams come under two schemas, by which the keys are resolved. A side without rows
may have any schema, or none. -/
structure Joining (config : Config) (probe build : List Batch) (probeSchema buildSchema : Option Schema)
    (keys : JoinKeys) : Prop where
  /-- The probe rows belong to batches that are what they claim to be. -/
  probeFormed : ∀ p ∈ streamRows probe, p.1.WellFormed
  /-- The build rows belong to batches that are what they claim to be. -/
  buildFormed : ∀ b ∈ streamRows build, b.1.WellFormed
  /-- The schema of the probe rows. -/
  probeRows : ∀ p ∈ streamRows probe, probeSchema = some p.1.schema
  /-- The schema of the build rows. -/
  buildRows : ∀ b ∈ streamRows build, buildSchema = some b.1.schema
  /-- The keys. -/
  keys : JoinKeys.resolve config.conditions buildSchema probeSchema = .ok keys

namespace Joining

variable {config : Config} {probe build : List Batch} {probeSchema buildSchema : Option Schema}
  {keys : JoinKeys} {b p : BatchRow} {kind : JoinType}

/-- The keys are resolved by the schemas of any two rows. -/
theorem resolve_eq (h : Joining config probe build probeSchema buildSchema keys)
    (hb : b ∈ streamRows build) (hp : p ∈ streamRows probe) :
    JoinKeys.resolve config.conditions (some b.1.schema) (some p.1.schema) = .ok keys := by
  have hkeys := h.keys
  rw [h.buildRows b hb, h.probeRows p hp] at hkeys
  exact hkeys

theorem admitsAll_sideFields (batch : Batch) (mayLack : Bool) :
    ColumnSpec.AdmitsAll (OutputSchema.sideFields (some batch.schema) mayLack)
      (batch.columns.map Column.spec) := by
  cases mayLack with
  | true => exact ColumnSpec.admitsAll_widen _
  | false => exact ColumnSpec.admitsAll_refl _

/-- The output columns can take every row of the join. -/
theorem rowFits (h : Joining config probe build probeSchema buildSchema keys)
    {r : JoinedRow BatchRow BatchRow} (hr : r ∈ NestedLoop.rows (rowsMatch config.conditions) kind
      (streamRows probe) (streamRows build)) :
    RowFits (.ofSides buildSchema probeSchema config.joinType) r := by
  obtain ⟨hbuild, hprobe, -⟩ := NestedLoop.sides_of_mem_rows hr
  refine ⟨?_, ?_⟩
  · intro b hb
    have hmem := hbuild b hb
    obtain ⟨-, hrow⟩ := mem_streamRows hmem
    refine ⟨(h.buildFormed b hmem).columns, hrow, ?_⟩
    rw [OutputSchema.buildSpecs_ofSides, h.buildRows b hmem]
    exact admitsAll_sideFields b.1 _
  · intro p hp
    have hmem := hprobe p hp
    obtain ⟨-, hrow⟩ := mem_streamRows hmem
    refine ⟨(h.probeFormed p hmem).columns, hrow, ?_⟩
    rw [OutputSchema.probeSpecs_ofSides, h.probeRows p hmem]
    exact admitsAll_sideFields p.1 _

/-- A schema in which a key column was found has columns. -/
theorem fields_ne_nil_of_resolveSide {side : Side} {schema : Schema} {conditions : List Condition}
    {columns : List KeyColumn}
    (h : JoinKeys.resolveSide side (some schema) conditions = .ok columns) (hne : conditions ≠ []) :
    schema.fields ≠ [] := by
  cases conditions with
  | nil => exact absurd rfl hne
  | cons c conditions =>
    obtain ⟨key, _, -, hkey, -⟩ := JoinKeys.mapM_cons_eq_ok h
    intro hnil
    have hindex := JoinKeys.indexOf?_of_resolveColumn hkey
    rw [Schema.indexOf?, hnil] at hindex
    cases hindex

theorem sideFields_ne_nil {schema : Schema} (h : schema.fields ≠ []) (mayLack : Bool) :
    OutputSchema.sideFields (some schema) mayLack ≠ [] := by
  cases mayLack with
  | true => simpa [OutputSchema.sideFields] using h
  | false => exact h

/-- There are output columns as soon as there is a row. -/
theorem fields_ne_nil (h : Joining config probe build probeSchema buildSchema keys)
    (hconditions : config.conditions ≠ []) (hrows : NestedLoop.rows (rowsMatch config.conditions) kind
      (streamRows probe) (streamRows build) ≠ []) :
    (OutputSchema.ofSides buildSchema probeSchema config.joinType).schema.fields ≠ [] := by
  obtain ⟨r, hr⟩ := List.exists_mem_of_ne_nil _ hrows
  obtain ⟨hbuild, hprobe, hside⟩ := NestedLoop.sides_of_mem_rows hr
  obtain ⟨hkeysBuild, hkeysProbe, -⟩ := JoinKeys.resolve_eq_ok h.keys
  intro hnil
  obtain ⟨hbuildNil, hprobeNil⟩ := List.append_eq_nil_iff.mp hnil
  rcases hside with hside | hside
  · obtain ⟨b, hb⟩ := Option.isSome_iff_exists.mp hside
    rw [h.buildRows b (hbuild b hb)] at hkeysBuild hbuildNil
    exact sideFields_ne_nil (fields_ne_nil_of_resolveSide hkeysBuild hconditions) _ hbuildNil
  · obtain ⟨p, hp⟩ := Option.isSome_iff_exists.mp hside
    rw [h.probeRows p (hprobe p hp)] at hkeysProbe hprobeNil
    exact sideFields_ne_nil (fields_ne_nil_of_resolveSide hkeysProbe hconditions) _ hprobeNil

end Joining

/-! ### Streams that can be joined -/

/-- The schema of a probe stream: that of its first batch, and otherwise the one announced. -/
def probeSchemaOf (batches : List Batch) (declared : Option Schema) : Option Schema :=
  (batches.head?.map Batch.schema).or declared

/-- The schema of a build stream: that of its first batch with rows, otherwise that of its first
batch, and otherwise the one announced. -/
def buildSchemaOf (batches : List Batch) (declared : Option Schema) : Option Schema :=
  (streamSchema batches).or declared

/-- A probe stream and a build stream, with the schemas that are announced in advance, can be joined
by some keys. -/
structure Joinable (config : Config) (probe build : List Batch)
    (probeDeclared buildDeclared : Option Schema) (keys : JoinKeys) : Prop where
  /-- The probe batches are what they claim to be. -/
  probeFormed : ∀ b ∈ probe, b.WellFormed
  /-- The build batches are what they claim to be. -/
  buildFormed : ∀ b ∈ build, b.WellFormed
  /-- The rows of each build batch can be addressed. -/
  size : ∀ b ∈ build, b.rowCount ≤ maxBatchRows
  /-- Probe rows come under the schema of the first probe batch. -/
  probeSchema : ∀ b ∈ probe, b.rowCount ≠ 0 → probe.head?.map Batch.schema = some b.schema
  /-- Build rows come under one schema. -/
  buildSchema : ∀ b ∈ build, ∀ c ∈ build, b.rowCount ≠ 0 → c.rowCount ≠ 0 → b.schema = c.schema
  /-- There are slots for all build rows. -/
  slots : (streamRows build).length ≤ SlotTable.maxSlots
  /-- The keys can be resolved. -/
  keys : JoinKeys.resolve config.conditions (buildSchemaOf build buildDeclared)
    (probeSchemaOf probe probeDeclared) = .ok keys

/-- The rows of the join of two streams. -/
def joinedRows (config : Config) (probe build : List Batch) : List (JoinedRow BatchRow BatchRow) :=
  NestedLoop.rows (rowsMatch config.conditions) config.joinType (streamRows probe) (streamRows build)

/-- The columns of the join of two streams. -/
def outputOf (config : Config) (probe build : List Batch) (probeDeclared buildDeclared : Option Schema) :
    OutputSchema :=
  .ofSides (buildSchemaOf build buildDeclared) (probeSchemaOf probe probeDeclared) config.joinType

namespace Joinable

variable {config : Config} {probe build : List Batch} {probeDeclared buildDeclared : Option Schema}
  {keys : JoinKeys} {b p : BatchRow}

theorem buildSchemaOf_eq (h : Joinable config probe build probeDeclared buildDeclared keys)
    (hb : b ∈ streamRows build) : buildSchemaOf build buildDeclared = some b.1.schema := by
  obtain ⟨hmem, hrow⟩ := mem_streamRows hb
  have hone : ∀ r ∈ streamRows build, r.1.schema = b.1.schema := by
    intro r hr
    obtain ⟨hmem', hrow'⟩ := mem_streamRows hr
    exact h.buildSchema _ hmem' _ hmem (by omega) (by omega)
  rw [buildSchemaOf, streamSchema_of_rows hone (List.ne_nil_of_mem hb), Option.some_or]

theorem probeSchemaOf_eq (h : Joinable config probe build probeDeclared buildDeclared keys)
    (hp : p ∈ streamRows probe) : probeSchemaOf probe probeDeclared = some p.1.schema := by
  obtain ⟨hmem, hrow⟩ := mem_streamRows hp
  rw [probeSchemaOf, h.probeSchema _ hmem (by omega), Option.some_or]

theorem buildable (h : Joinable config probe build probeDeclared buildDeclared keys) :
    Loading.Buildable config (probeSchemaOf probe probeDeclared) buildDeclared build keys := by
  refine ⟨h.buildFormed, h.size, ?_, h.slots, h.keys⟩
  intro b hb hrows
  have hmem := mem_streamRows_of_mem hb hrows
  refine streamSchema_of_rows ?_ (List.ne_nil_of_mem hmem)
  intro r hr
  obtain ⟨hmem', hrow'⟩ := mem_streamRows hr
  exact h.buildSchema _ hmem' _ hb (by omega) hrows

/-- The rows come under the schemas by which the keys are resolved. -/
theorem joining (h : Joinable config probe build probeDeclared buildDeclared keys) :
    Joining config probe build (probeSchemaOf probe probeDeclared)
      (buildSchemaOf build buildDeclared) keys :=
  ⟨fun _ hp => h.probeFormed _ (mem_streamRows hp).1, fun _ hb => h.buildFormed _ (mem_streamRows hb).1,
    fun _ hp => h.probeSchemaOf_eq hp, fun _ hb => h.buildSchemaOf_eq hb, h.keys⟩

end Joinable
end HashJoin
