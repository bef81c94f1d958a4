import HashJoin.Proofs.Key.Matching

/-!
# Keys that cannot be resolved

The conditions of a join are read three times: for the columns of the build side, for those of the
probe side, and for the families of both. A side whose schema is not known is passed over. What is
found first is what the keys are refused for.

## Main definitions

* `JoinKeys.columnFault?` — what is wrong with the column that a condition names on one side.
* `JoinKeys.pairFault?` — what is wrong with the two columns of a condition.
* `JoinKeys.fault?` — what is wrong with the conditions of a join.

## Main results

* `resolve_eq_error_iff` — keys are refused for the first fault of their conditions, and only for it.
-/

namespace HashJoin

/-- The column that a name stands for: the first of that name. -/
def Schema.named? (s : Schema) (name : String) : Option ColumnSpec := s.fields.find? (·.name == name)

theorem Schema.named?_eq (s : Schema) (name : String) :
    s.named? name = (s.indexOf? name).bind s.field? :=
  List.find?_eq_bind_findIdx?_getElem?

theorem KeyFamily.ofSpec?_eq_none_iff {spec : ColumnSpec} :
    KeyFamily.ofSpec? spec = none ↔ spec.isRecord = true := by
  rw [KeyFamily.ofSpec?, Option.map_eq_none_iff, ColumnSpec.isRecord, Option.isNone_iff_eq_none]

namespace JoinKeys

/-! ### One condition -/

/-- What is wrong with the column that a condition names on one side: it is missing, or it holds
records. -/
def columnFault? (side : Side) (schema : Schema) (c : Condition) : Option JoinError :=
  match schema.named? (c.columnOn side) with
  | none => some (.unsupported side (.missingKey (c.columnOn side) schema))
  | some spec => if spec.isRecord then some (.unsupported side (.recordKey spec)) else none

/-- The family of the column that a condition names on one side, if there is nothing wrong with it. -/
def family? (side : Side) (schema : Schema) (c : Condition) : Option KeyFamily :=
  (schema.named? (c.columnOn side)).bind KeyFamily.ofSpec?

/-- What is wrong with the two columns that a condition names: they belong to different families. -/
def pairFault? (build probe : Schema) (c : Condition) : Option JoinError :=
  match family? .build build c, family? .probe probe c with
  | some b, some p =>
    if b = p then none else some (.unsupported .probe (.keyFamilies c.probe p c.build b))
  | _, _ => none

variable {side : Side} {schema build probe : Schema} {c : Condition} {conditions : List Condition}
  {e : JoinError}

theorem resolveColumn_eq_error_iff :
    resolveColumn side schema c = .error e ↔ columnFault? side schema c = some e := by
  simp only [resolveColumn, columnFault?, Schema.named?_eq]
  cases schema.indexOf? (c.columnOn side) with
  | none => simp
  | some index =>
    simp only [Option.bind_some]
    cases schema.field? index with
    | none => simp
    | some spec =>
      simp only
      cases hfamily : KeyFamily.ofSpec? spec with
      | none => simp [KeyFamily.ofSpec?_eq_none_iff.mp hfamily]
      | some family =>
        have hscalar : spec.isRecord = false := by
          rw [← Bool.not_eq_true, ← KeyFamily.ofSpec?_eq_none_iff, hfamily]
          rintro ⟨⟩
        simp [hscalar]

theorem family?_of_resolveColumn {key : KeyColumn} (h : resolveColumn side schema c = .ok key) :
    family? side schema c = some key.family := by
  simp only [resolveColumn] at h
  rw [family?, Schema.named?_eq]
  split at h
  · cases h
  · next hindex =>
    split at h
    · cases h
    · next hfield =>
      split at h
      · cases h
      · next hfamily =>
        cases h
        rw [hindex, Option.bind_some, hfield, Option.bind_some, hfamily]

/-! ### All conditions -/

/-- What succeeds has no fault. -/
theorem none_of_ok {α ε : Type} {result : Except ε α} {fault? : Option ε}
    (hfault : ∀ e, result = .error e ↔ fault? = some e) {a : α} (h : result = .ok a) :
    fault? = none := by
  rw [Option.eq_none_iff_forall_ne_some]
  intro e he
  rw [← hfault, h] at he
  cases he

/-- The columns of a side are refused for the first fault among them. -/
theorem mapM_eq_error_iff {α β ε : Type} {f : α → Except ε β} {fault? : α → Option ε}
    (hfault : ∀ a e, f a = .error e ↔ fault? a = some e) {as : List α} {e : ε} :
    as.mapM f = .error e ↔ as.findSome? fault? = some e := by
  induction as with
  | nil => simp [pure, Except.pure]
  | cons a as ih =>
    rw [List.mapM_cons, List.findSome?_cons]
    cases hfirst : f a with
    | error e' =>
      rw [(hfault a e').mp hfirst]
      simp [bind, Except.bind]
    | ok b =>
      rw [none_of_ok (hfault a) hfirst, ← ih]
      cases as.mapM f <;> simp [bind, Except.bind, pure, Except.pure]

theorem resolveSide_eq_error_iff {schema : Option Schema} :
    resolveSide side schema conditions = .error e ↔
      (schema.bind fun schema => conditions.findSome? (columnFault? side schema)) = some e := by
  cases schema with
  | none => simp [resolveSide]
  | some schema => exact mapM_eq_error_iff fun c e => resolveColumn_eq_error_iff

/-- The families of resolved columns are compared pair by pair. -/
theorem familyFault?_eq {buildKeys probeKeys : List KeyColumn}
    (hbuild : conditions.mapM (resolveColumn .build build) = .ok buildKeys)
    (hprobe : conditions.mapM (resolveColumn .probe probe) = .ok probeKeys) :
    familyFault? conditions buildKeys probeKeys = conditions.findSome? (pairFault? build probe) := by
  induction conditions generalizing buildKeys probeKeys with
  | nil =>
    cases hbuild
    rfl
  | cons c conditions ih =>
    obtain ⟨b, bs, rfl, hb, hbs⟩ := mapM_cons_eq_ok hbuild
    obtain ⟨p, ps, rfl, hp, hps⟩ := mapM_cons_eq_ok hprobe
    rw [familyFault?, List.findSome?_cons, ih hbs hps, pairFault?, family?_of_resolveColumn hb,
      family?_of_resolveColumn hp]
    by_cases hsame : b.family = p.family
    · simp [hsame]
    · simp [hsame]

/-- What is wrong with the conditions of a join, as far as the schemas are known. -/
def fault? (conditions : List Condition) (build probe : Option Schema) : Option JoinError :=
  (build.bind fun schema => conditions.findSome? (columnFault? .build schema)).or <|
    (probe.bind fun schema => conditions.findSome? (columnFault? .probe schema)).or <|
      build.bind fun b => probe.bind fun p => conditions.findSome? (pairFault? b p)

/-- The families are compared if both schemas are known. -/
theorem familyFault?_of_resolveSide {build probe : Option Schema} {buildKeys probeKeys : List KeyColumn}
    (hbuild : resolveSide .build build conditions = .ok buildKeys)
    (hprobe : resolveSide .probe probe conditions = .ok probeKeys) :
    familyFault? conditions buildKeys probeKeys =
      build.bind fun b => probe.bind fun p => conditions.findSome? (pairFault? b p) := by
  cases build with
  | none =>
    cases hbuild
    cases conditions <;> rfl
  | some build =>
    cases probe with
    | none =>
      cases hprobe
      unfold familyFault?
      split <;> trivial
    | some probe => exact familyFault?_eq hbuild hprobe

/-- **Keys are refused for the first fault of their conditions.** -/
theorem resolve_eq_error_iff {build probe : Option Schema} :
    resolve conditions build probe = .error e ↔ fault? conditions build probe = some e := by
  rw [resolve, fault?]
  cases hbuild : resolveSide .build build conditions with
  | error e' =>
    rw [resolveSide_eq_error_iff.mp hbuild]
    simp [bind, Except.bind]
  | ok buildKeys =>
    rw [none_of_ok (fun _ => resolveSide_eq_error_iff) hbuild, Option.none_or]
    cases hprobe : resolveSide .probe probe conditions with
    | error e' =>
      rw [resolveSide_eq_error_iff.mp hprobe]
      simp [bind, Except.bind]
    | ok probeKeys =>
      rw [none_of_ok (fun _ => resolveSide_eq_error_iff) hprobe, Option.none_or,
        ← familyFault?_of_resolveSide hbuild hprobe]
      simp only [bind, Except.bind]
      cases familyFault? conditions buildKeys probeKeys <;>
        simp [pure, Except.pure, throw, throwThe, MonadExceptOf.throw]

theorem fault?_eq_none {build probe : Option Schema} {keys : JoinKeys}
    (h : resolve conditions build probe = .ok keys) : fault? conditions build probe = none :=
  none_of_ok (fun _ => resolve_eq_error_iff) h

end JoinKeys
end HashJoin
