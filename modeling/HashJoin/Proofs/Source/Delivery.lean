import HashJoin.Operator
import HashJoin.Proofs.Key.Matching
import HashJoin.Source.Script

/-!
# What a source delivers

A source delivers a sequence of batches, and then ends or breaks off with an error. Whoever pulls it
does not see the delays between the batches. A stream of batches is a sequence of rows, in which
batches without rows leave no trace but a schema.

## Main definitions

* `Delivers` — a source delivers some batches, and ends or breaks off as another source.
* `Loads` — what the build phase gets from a source.
* `Opens` — such a source before and after its first pull.
* `Batch.members`, `streamRows`, `rowBatches`, `streamSchema` — the rows of a batch, and the rows, the
  batches with rows and the schema of a stream.
* `Script.delivered` — what some steps deliver.
* `Script.stream`, `Script.Peaceful` — the batches of a script, and that it neither fails nor was
  killed.

## Main results

* `exists_delivers` — every source delivers something.
* `delivers_of_script`, `opens_of_peaceful` — a script delivers its batches.
* `drainProbe_of_delivers` — reading a source to its end does not fail.
-/

namespace HashJoin

/-! ### Streams -/

/-- The rows of a batch. -/
def Batch.members (b : Batch) : List BatchRow := (List.range b.rowCount).map (b, ·)

/-- The rows of some batches, in order. -/
def streamRows (batches : List Batch) : List BatchRow := batches.flatMap Batch.members

/-- The batches that have rows. -/
def rowBatches (batches : List Batch) : List Batch := batches.filter fun b => decide (b.rowCount ≠ 0)

/-- The schema of some batches: that of the first with rows, and otherwise that of the first. -/
def streamSchema (batches : List Batch) : Option Schema :=
  ((batches.find? fun b => decide (b.rowCount ≠ 0)).or batches.head?).map Batch.schema

@[simp] theorem length_members (b : Batch) : b.members.length = b.rowCount := by
  simp [Batch.members]

theorem members_of_empty {b : Batch} (h : b.rowCount = 0) : b.members = [] :=
  List.eq_nil_of_length_eq_zero (by rw [length_members, h])

theorem drop_members {b : Batch} {row : Nat} (h : row < b.rowCount) :
    b.members.drop row = (b, row) :: b.members.drop (row + 1) := by
  have hlt : row < b.members.length := by rw [length_members]; exact h
  rw [List.drop_eq_getElem_cons hlt]
  simp [Batch.members]

theorem mem_members {b : Batch} {r : BatchRow} (h : r ∈ b.members) :
    r.1 = b ∧ r.2 < b.rowCount := by
  obtain ⟨row, hrow, rfl⟩ := List.mem_map.mp h
  exact ⟨rfl, List.mem_range.mp hrow⟩

@[simp] theorem streamRows_nil : streamRows [] = [] := rfl

@[simp] theorem streamRows_cons (b : Batch) (batches : List Batch) :
    streamRows (b :: batches) = b.members ++ streamRows batches := rfl

theorem streamRows_append (batches others : List Batch) :
    streamRows (batches ++ others) = streamRows batches ++ streamRows others :=
  List.flatMap_append

theorem rowBatches_append (batches others : List Batch) :
    rowBatches (batches ++ others) = rowBatches batches ++ rowBatches others :=
  List.filter_append ..

theorem rowBatches_cons_of_empty {b : Batch} (h : b.rowCount = 0) (rest : List Batch) :
    rowBatches (b :: rest) = rowBatches rest :=
  List.filter_cons_of_neg (by simp [h])

theorem rowBatches_cons_of_rows {b : Batch} (h : b.rowCount ≠ 0) (rest : List Batch) :
    rowBatches (b :: rest) = b :: rowBatches rest :=
  List.filter_cons_of_pos (decide_eq_true h)

/-- Batches without rows do not add to the rows of a stream. -/
@[simp] theorem streamRows_rowBatches (batches : List Batch) :
    streamRows (rowBatches batches) = streamRows batches := by
  induction batches with
  | nil => rfl
  | cons b rest ih =>
    by_cases hrows : b.rowCount = 0
    · rw [rowBatches_cons_of_empty hrows, ih, streamRows_cons, members_of_empty hrows, List.nil_append]
    · rw [rowBatches_cons_of_rows hrows, streamRows_cons, streamRows_cons, ih]

theorem rowBatches_eq_nil {batches : List Batch} (h : streamRows batches = []) :
    rowBatches batches = [] := by
  refine List.filter_eq_nil_iff.mpr fun b hb hrows => ?_
  have hmem := List.flatMap_eq_nil_iff.mp h b hb
  rw [← List.length_eq_zero_iff, length_members] at hmem
  exact absurd hmem (of_decide_eq_true hrows)

theorem mem_streamRows {batches : List Batch} {r : BatchRow} (h : r ∈ streamRows batches) :
    r.1 ∈ batches ∧ r.2 < r.1.rowCount := by
  obtain ⟨b, hb, hr⟩ := List.mem_flatMap.mp h
  obtain ⟨rfl, hrow⟩ := mem_members hr
  exact ⟨hb, hrow⟩

theorem mem_streamRows_of_mem {batches : List Batch} {b : Batch} (hb : b ∈ batches)
    (hrows : b.rowCount ≠ 0) : (b, 0) ∈ streamRows batches :=
  List.mem_flatMap.mpr ⟨b, hb, List.mem_map.mpr
    ⟨0, List.mem_range.mpr (Nat.pos_of_ne_zero hrows), rfl⟩⟩

/-- Rows under one schema make it the schema of the stream. -/
theorem streamSchema_of_rows {batches : List Batch} {schema : Schema}
    (hschema : ∀ r ∈ streamRows batches, r.1.schema = schema) (hne : streamRows batches ≠ []) :
    streamSchema batches = some schema := by
  obtain ⟨r, hr⟩ := List.exists_mem_of_ne_nil _ hne
  obtain ⟨hmem, hrow⟩ := mem_streamRows hr
  cases hfind : batches.find? fun b => decide (b.rowCount ≠ 0) with
  | none =>
    have hrows : r.1.rowCount ≠ 0 := Nat.ne_of_gt (Nat.lt_of_le_of_lt (Nat.zero_le _) hrow)
    exact absurd (decide_eq_true hrows) (List.find?_eq_none.mp hfind r.1 hmem)
  | some b =>
    have hrows := List.find?_some hfind
    rw [streamSchema, hfind, Option.some_or, Option.map_some]
    exact congrArg some (hschema _ (mem_streamRows_of_mem (List.mem_of_find?_eq_some hfind)
      (of_decide_eq_true hrows)))

theorem streamSchema_append_of_empty {batches : List Batch} {b : Batch} (h : b.rowCount = 0) :
    streamSchema (batches ++ [b]) = (streamSchema batches).or (some b.schema) := by
  have hnone : ([b].find? fun b => decide (b.rowCount ≠ 0)) = none := by simp [h]
  rw [streamSchema, streamSchema, List.find?_append, hnone, Option.or_none, List.head?_append]
  cases batches.find? fun b => decide (b.rowCount ≠ 0) <;> cases batches.head? <;> rfl

/-- Batches behind the first rows do not change the schema. -/
theorem streamSchema_append_of_rows {batches : List Batch} {b : Batch}
    (h : streamRows batches ≠ []) : streamSchema (batches ++ [b]) = streamSchema batches := by
  obtain ⟨r, hr⟩ := List.exists_mem_of_ne_nil _ h
  obtain ⟨hmem, hrow⟩ := mem_streamRows hr
  cases hfind : batches.find? fun b => decide (b.rowCount ≠ 0) with
  | none =>
    have hrows : r.1.rowCount ≠ 0 := Nat.ne_of_gt (Nat.lt_of_le_of_lt (Nat.zero_le _) hrow)
    exact absurd (decide_eq_true hrows) (List.find?_eq_none.mp hfind r.1 hmem)
  | some found =>
    rw [streamSchema, streamSchema, List.find?_append, hfind]
    rfl

theorem streamSchema_eq_none {batches : List Batch} (h : streamSchema batches = none) :
    batches = [] := by
  cases batches with
  | nil => rfl
  | cons b rest =>
    rw [streamSchema, List.head?_cons, Option.map_eq_none_iff, Option.or_eq_none_iff] at h
    cases h.2

/-! ### Sources -/

section Sources

open BatchSource

variable {σ : Type} [BatchSource σ] {side : Side} {s t u : σ}

/-- Pulling a source gives some batches, one by one, and then its end, or the error that it breaks
off with. -/
inductive Delivers (side : Side) : σ → List Batch → Option JoinError → σ → Prop
  /-- There are no more batches. -/
  | ended {s t : σ} (h : pull side s = (.ok none, t)) : Delivers side s [] none t
  /-- The source breaks off. -/
  | broken {s t : σ} {e : JoinError} (h : pull side s = (.error e, t)) : Delivers side s [] (some e) t
  /-- One more batch. -/
  | batch {s t u : σ} {b : Batch} {batches : List Batch} {ending : Option JoinError}
      (h : pull side s = (.ok (some b), t)) (rest : Delivers side t batches ending u) :
      Delivers side s (b :: batches) ending u

/-- Every source delivers some batches, and then ends or breaks off. -/
theorem exists_delivers (side : Side) (s : σ) : ∃ batches ending t, Delivers side s batches ending t := by
  -- on the bound that the source gives, as every batch lowers it
  induction hleft : pullsLeft s using Nat.strongRecOn generalizing s with
  | ind left ih =>
    rcases hpull : pull side s with ⟨_ | _ | b, t⟩
    · exact ⟨[], _, t, .broken hpull⟩
    · exact ⟨[], none, t, .ended hpull⟩
    · obtain ⟨batches, ending, u, hrest⟩ := ih _ (hleft ▸ pullsLeft_of_pull hpull) t rfl
      exact ⟨b :: batches, ending, u, .batch hpull hrest⟩

/-- What a source delivers depends on its first pull alone. -/
theorem delivers_of_pull_eq {batches : List Batch} {ending : Option JoinError}
    (hpull : pull side s = pull side u) (h : Delivers side u batches ending t) :
    Delivers side s batches ending t := by
  cases h with
  | ended h => exact .ended (hpull.trans h)
  | broken h => exact .broken (hpull.trans h)
  | batch h rest => exact .batch (hpull.trans h) rest

theorem takeReported_onSide (side side' : Side) (left : Nat) (s : σ) :
    (takeReported side' left s).1.toOption = (takeReported side left s).1.toOption ∧
      (takeReported side' left s).2 = (takeReported side left s).2 := by
  unfold takeReported
  split <;> exact ⟨rfl, rfl⟩

/-- The side that a source is pulled for shows in its errors alone. -/
theorem pull_onSide (side side' : Side) (s : σ) :
    (pull side' s).1.toOption = (pull side s).1.toOption ∧ (pull side' s).2 = (pull side s).2 := by
  fun_induction pull side s with
  | case1 s t hnext =>
    rw [pull, hnext]
    exact takeReported_onSide side side' _ t
  | case2 s t hnext =>
    rw [pull, hnext]
    exact takeReported_onSide side side' _ t
  | case3 s t hnext hless ih =>
    rw [pull, hnext]
    simp only [if_pos hless]
    exact ih
  | case4 s t hnext hmore =>
    rw [pull, hnext]
    simp only [if_neg hmore, and_self]
  | case5 s t hnext =>
    rw [pull, hnext]
    exact ⟨rfl, rfl⟩
  | case6 s t hnext cause u htake =>
    rw [pull, hnext]
    simp only [htake, and_self]
  | case7 s t hnext u htake =>
    rw [pull, hnext]
    simp only [htake, Except.toOption, and_self]

theorem pull_onSide_of_ok {side' : Side} {first : Option Batch} (h : pull side s = (.ok first, t)) :
    pull side' s = (.ok first, t) := by
  obtain ⟨hresult, hsource⟩ := pull_onSide side side' s
  rw [h] at hresult hsource
  rcases hpull : pull side' s with ⟨e | first', u⟩
  · rw [hpull] at hresult
    cases hresult
  · rw [hpull] at hresult hsource
    cases hresult
    cases hsource
    rfl

/-- A source delivers the same batches on either side, and comes to its end on both or on neither. -/
theorem delivers_onSide {side' : Side} {batches : List Batch} {ending : Option JoinError}
    (h : Delivers side s batches ending t) :
    ∃ ending', Delivers side' s batches ending' t ∧ (ending' = none ↔ ending = none) := by
  induction h with
  | ended hpull => exact ⟨none, .ended (pull_onSide_of_ok hpull), Iff.rfl⟩
  | @broken s t e hpull =>
    obtain ⟨hresult, hsource⟩ := pull_onSide side side' s
    rw [hpull] at hresult hsource
    rcases hpull' : pull side' s with ⟨e' | first, u⟩
    · rw [hpull'] at hsource
      cases hsource
      exact ⟨some e', .broken hpull', iff_of_false nofun nofun⟩
    · rw [hpull'] at hresult
      cases hresult
  | batch hpull _ ih =>
    obtain ⟨ending', hrest, hending⟩ := ih
    exact ⟨ending', .batch (pull_onSide_of_ok hpull) hrest, hending⟩

/-- What reading a source to its end does first. -/
theorem drainProbe_eq (s : σ) :
    Operator.drainProbe s =
      match pull .probe s with
      | (.error e, t) => (.error e, t)
      | (.ok none, t) => (.ok (), t)
      | (.ok (some _), t) => Operator.drainProbe t := by
  rw [Operator.drainProbe]
  split
  · next hpull => rw [hpull]
  · next hpull => rw [hpull]
  · next hpull => simp only [hpull]

/-- Reading a source to its end fails if the source breaks off. -/
theorem drainProbe_of_delivers {batches : List Batch} {ending : Option JoinError}
    (h : Delivers .probe s batches ending t) :
    Operator.drainProbe s = (ending.elim (.ok ()) .error, t) := by
  induction h with
  | ended hpull =>
    rw [drainProbe_eq, hpull]
    rfl
  | broken hpull =>
    rw [drainProbe_eq, hpull]
    rfl
  | batch hpull _ ih =>
    rw [drainProbe_eq, hpull]
    exact ih

/-- What the build phase gets from a source, which it pulls once in advance and then until its end. -/
inductive Loads : σ → List Batch → Option JoinError → σ → Prop
  /-- The first pull fails. -/
  | broken {s t : σ} {e : JoinError} (h : pull .build s = (.error e, t)) : Loads s [] (some e) t
  /-- The batch of the first pull, if there is one, and those behind it. -/
  | pulled {s t u : σ} {first : Option Batch} {rest : List Batch} {ending : Option JoinError}
      (h : pull .build s = (.ok first, t)) (hrest : Delivers .build t rest ending u) :
      Loads s (first.toList ++ rest) ending u

/-- The build phase gets something from every source. -/
theorem exists_loads (s : σ) : ∃ batches ending t, Loads s batches ending t := by
  rcases hpull : pull .build s with ⟨e | first, t⟩
  · exact ⟨[], some e, t, .broken hpull⟩
  · obtain ⟨rest, ending, u, hrest⟩ := exists_delivers .build t
    exact ⟨first.toList ++ rest, ending, u, .pulled hpull hrest⟩

/-- A source that delivers a batch first gives all its batches to the build phase. -/
theorem loads_of_delivers {b : Batch} {batches : List Batch} {ending : Option JoinError}
    (h : Delivers .build s (b :: batches) ending t) : Loads s (b :: batches) ending t := by
  cases h with
  | batch hpull hrest => exact .pulled hpull hrest

/-- Pulling a source gives the first of some batches, or its end, and leaves a source that delivers
the others. Without batches, its schema stays the one announced. -/
structure Opens (side : Side) (source : σ) (batches : List Batch) (declared : Option Schema)
    (first : Option Batch) (next final : σ) (rest : List Batch) : Prop where
  /-- The first pull. -/
  pull : pull side source = (.ok first, next)
  /-- The batches. -/
  split : batches = first.toList ++ rest
  /-- A source that has ended delivers nothing more. -/
  ended : first = none → rest = []
  /-- The other pulls. -/
  delivers : Delivers side next rest none final
  /-- The schema after the first pull. -/
  announced : batches = [] → schema? next = declared
  /-- The schema after all pulls. -/
  kept : batches = [] → schema? final = declared

theorem Opens.loads {source next final : σ} {batches rest : List Batch} {declared : Option Schema}
    {first : Option Batch} (h : Opens .build source batches declared first next final rest) :
    Loads source batches none final := by
  rw [h.split]
  exact .pulled h.pull h.delivers

/-- The schema after all pulls is the one announced if there are no batches. -/
theorem Opens.delivers_all {source next final : σ} {batches rest : List Batch}
    {declared : Option Schema} {first : Option Batch}
    (h : Opens side source batches declared first next final rest) :
    ∃ final, Delivers side source batches none final ∧
      (batches = [] → schema? final = declared) := by
  cases first with
  | none =>
    have hnil : batches = [] := by rw [h.split, h.ended rfl]; rfl
    rw [hnil]
    exact ⟨next, .ended h.pull, fun _ => h.announced hnil⟩
  | some b =>
    rw [h.split]
    exact ⟨final, .batch h.pull h.delivers, nofun⟩

end Sources

/-! ### Scripts -/

namespace Script

open BatchSource

/-- The batches among some steps. -/
def batches : List ScriptStep → List Batch
  | [] => []
  | .batch b :: rest => b :: batches rest
  | .notYet :: rest => batches rest
  | .fail _ :: rest => batches rest

/-- The batches that are still to come. -/
def stream (s : Script) : List Batch := batches s.steps

/-- What some steps deliver: the batches before the first failure, and its cause. -/
def delivered : List ScriptStep → List Batch × Option JoinError
  | [] => ([], none)
  | .batch b :: rest => (b :: (delivered rest).1, (delivered rest).2)
  | .notYet :: rest => delivered rest
  | .fail cause :: _ => ([], some cause)

/-- Whether some steps are batches and delays only. -/
def neverFails (steps : List ScriptStep) : Bool :=
  steps.all fun step => match step with
    | .batch _ | .notYet => true
    | .fail _ => false

/-- A script that does not fail and was not killed. -/
structure Peaceful (s : Script) : Prop where
  /-- No step is a failure. -/
  steps : neverFails s.steps = true
  /-- There was no kill. -/
  kills : s.kills = []

variable {s : Script}

/-- Steps without a failure deliver all their batches. -/
theorem delivered_of_neverFails {steps : List ScriptStep} (h : neverFails steps = true) :
    delivered steps = (batches steps, none) := by
  induction steps with
  | nil => rfl
  | cons step rest ih =>
    rw [neverFails, List.all_cons, Bool.and_eq_true] at h
    cases step with
    | batch b => rw [delivered, batches, ih h.2]
    | notYet => rw [delivered, batches, ih h.2]
    | fail _ => cases h.1

/-! The pulls of a script that was not killed, by its next step. -/

section Pulls

variable (label : String) (schema : Option Schema) (current : Option Batch)
  (failure : Option JoinError) (pulls : Nat) (rest : List ScriptStep) (side : Side)

theorem pull_nil : pull side (⟨label, [], schema, current, failure, pulls, []⟩ : Script) =
    (.ok none, ⟨label, [], schema, none, failure, pulls + 1, []⟩) := by
  rw [pull]
  rfl

/-- The report says whether the schema is new, and the batch is there to be taken anyhow. -/
theorem pull_batch (b : Batch) : ∃ schema',
    pull side (⟨label, .batch b :: rest, schema, current, failure, pulls, []⟩ : Script) =
      (.ok (some b), ⟨label, rest, schema', none, failure, pulls + 1, []⟩) := by
  have hnext : ∃ report schema', (report = .batch ∨ report = .newSchema) ∧
      BatchSource.next (⟨label, .batch b :: rest, schema, current, failure, pulls, []⟩ : Script) =
        (report, ⟨label, rest, schema', some b, failure, pulls + 1, []⟩) := by
    by_cases hknown : schema.any b.conforms = true
    · refine ⟨.batch, schema, .inl rfl, ?_⟩
      show Script.report _ b rest = _
      simp [report, hknown]
    · refine ⟨.newSchema, some b.schema, .inr rfl, ?_⟩
      show Script.report _ b rest = _
      simp [report, hknown]
  obtain ⟨report, schema', hreport, hnext⟩ := hnext
  refine ⟨schema', ?_⟩
  rw [pull, hnext]
  rcases hreport with rfl | rfl
  · simp [takeReported, takeBatch, pullsLeft]
  · simp [takeReported, takeBatch, pullsLeft]

theorem pull_notYet :
    pull side (⟨label, .notYet :: rest, schema, current, failure, pulls, []⟩ : Script) =
      pull side (⟨label, rest, schema, none, failure, pulls + 1, []⟩ : Script) := by
  have hnext : BatchSource.next (⟨label, .notYet :: rest, schema, current, failure, pulls, []⟩ :
      Script) = (.notYet, ⟨label, rest, schema, none, failure, pulls + 1, []⟩) := rfl
  rw [pull, hnext]
  exact if_pos (Nat.lt_succ_self _)

theorem pull_fail (cause : JoinError) :
    pull side (⟨label, .fail cause :: rest, schema, current, failure, pulls, []⟩ : Script) =
      (.error cause, ⟨label, rest, schema, none, none, pulls + 1, []⟩) := by
  rw [pull]
  rfl

end Pulls

/-- A script that was not killed delivers what its steps deliver. If that is no batch, it keeps its
schema. -/
theorem delivers_of_script (h : s.kills = []) (side : Side) : ∃ t : Script,
    Delivers side s (delivered s.steps).1 (delivered s.steps).2 t ∧ t.kills = [] ∧
      ((delivered s.steps).2 = none → t.steps = []) ∧
      ((delivered s.steps).1 = [] → t.schema = s.schema) := by
  obtain ⟨label, steps, schema, current, failure, pulls, kills⟩ := s
  cases h
  -- on the steps: delays come and go before the next batch
  induction steps generalizing schema current pulls with
  | nil => exact ⟨_, .ended (pull_nil ..), rfl, fun _ => rfl, fun _ => rfl⟩
  | cons step rest ih =>
    cases step with
    | batch b =>
      obtain ⟨schema', hpull⟩ := pull_batch label schema current failure pulls rest side b
      obtain ⟨t, hdelivers, hkills, hsteps, -⟩ := ih schema' none (pulls + 1)
      exact ⟨t, .batch hpull hdelivers, hkills, hsteps, nofun⟩
    | notYet =>
      obtain ⟨t, hdelivers, hkept⟩ := ih schema none (pulls + 1)
      exact ⟨t, delivers_of_pull_eq (pull_notYet ..) hdelivers, hkept⟩
    | fail cause => exact ⟨_, .broken (pull_fail ..), rfl, nofun, fun _ => rfl⟩

/-- The first pull of a script. -/
theorem opens_of_peaceful (h : s.Peaceful) (side : Side) :
    ∃ first next final rest, Opens side s s.stream s.schema first next final rest := by
  obtain ⟨final, hdelivers, hkills, hsteps, hkept⟩ := delivers_of_script h.kills side
  rw [delivered_of_neverFails h.steps] at hdelivers hsteps hkept
  change Delivers side s s.stream none final at hdelivers
  cases hall : s.stream with
  | nil =>
    rw [hall] at hdelivers
    have hschema : final.schema = s.schema := hkept hall
    -- a script that has ended ends again
    obtain ⟨again, hagain, -, -, hkept'⟩ := delivers_of_script hkills side
    rw [hsteps rfl] at hagain hkept'
    cases hdelivers with
    | ended hpull =>
      exact ⟨none, final, again, [], hpull, rfl, fun _ => rfl, hagain, fun _ => hschema,
        fun _ => (hkept' rfl).trans hschema⟩
  | cons b rest =>
    rw [hall] at hdelivers
    cases hdelivers with
    | batch hpull hrest =>
      exact ⟨some b, _, final, rest, hpull, rfl, nofun, hrest, nofun, nofun⟩

end Script
end HashJoin
