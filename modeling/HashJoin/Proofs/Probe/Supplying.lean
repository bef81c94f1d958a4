import HashJoin.Proofs.Source.Delivery

/-!
# Supplying probe batches

A supply gives out the batches of its source one by one, up to the first with rows that cannot be
probed with. The batches without rows between them do not show. After the last batch comes the end of
the source, the error that it breaks off with, or what is wrong with the batch that stopped the
supply.

## Main definitions

* `Supply.objection?` — why a batch cannot be probed with.
* `Supply.usable`, `Supply.probedPart` — the part of a stream that can be probed with, and how it
  ends.
* `Supply.Awaits` — a supply that will give out some batches.

## Main results

* `awaits_of_delivers` — a supply gives out the usable part of what its source delivers.
* `admits_of_awaits`, `nextBatch_of_awaits` — the next batch with rows, or the ending.
-/

namespace HashJoin
namespace Supply

variable {σ : Type} [BatchSource σ] {s t : Supply} {source source' : σ} {batches : List Batch}
  {ending : Option JoinError}

/-! ### Batches that can be probed with -/

/-- Why a batch cannot be probed with, given the schema of the first one. A batch without rows is
passed over, whatever it is like. -/
def objection? (schema : Schema) (b : Batch) : Option JoinError :=
  if b.rowCount = 0 then none
  else if !b.isDense then some (.unsupported .probe .selection)
  else if b.schema = schema then none
  else some (.schemaChanged .probe schema b.schema)

/-- The part of a stream that can be probed with, and how it ends: at the first batch that cannot be
probed with, or as the stream does. -/
def usable (schema : Schema) (ending : Option JoinError) :
    List Batch → List Batch × Option JoinError
  | [] => ([], ending)
  | b :: rest =>
    match objection? schema b with
    | some e => ([], some e)
    | none => (b :: (usable schema ending rest).1, (usable schema ending rest).2)

theorem objection?_eq_none_iff {schema : Schema} {b : Batch} : objection? schema b = none ↔
    (b.rowCount ≠ 0 → b.isDense = true ∧ b.schema = schema) := by
  unfold objection?
  by_cases hrows : b.rowCount = 0
  · simp [hrows]
  · cases hdense : b.isDense with
    | false => simp [hrows]
    | true => by_cases hschema : b.schema = schema <;> simp [hrows, hschema]

theorem inspect_of_schema {schema : Schema} {b : Batch} (hschema : s.schema = some schema)
    (hrows : b.rowCount ≠ 0) :
    s.inspect b = (objection? schema b).elim (.ok s) .error := by
  have hconforms : b.conforms schema = decide (b.schema = schema) := by
    rw [Bool.eq_iff_iff, decide_eq_true_iff]
    exact beq_iff_eq
  cases hdense : b.isDense with
  | false => simp [inspect, objection?, hrows, hdense]
  | true => by_cases hsame : b.schema = schema <;>
      simp [inspect, objection?, hrows, hdense, hschema, hconforms, hsame]

/-- A stream that can be probed with is used to its end. -/
theorem usable_of_admitted {schema : Schema} (h : ∀ b ∈ batches, objection? schema b = none) :
    usable schema ending batches = (batches, ending) := by
  induction batches with
  | nil => rfl
  | cons b rest ih =>
    rw [usable, h b List.mem_cons_self, ih fun c hc => h c (List.mem_cons_of_mem _ hc)]

/-- A batch that cannot be probed with ends the usable part. -/
theorem usable_of_refused {schema : Schema} {b : Batch} {e : JoinError} {rest : List Batch}
    (h : ∀ b ∈ batches, objection? schema b = none) (hb : objection? schema b = some e) :
    usable schema ending (batches ++ b :: rest) = (batches, some e) := by
  induction batches with
  | nil => rw [List.nil_append, usable, hb]
  | cons c later ih =>
    rw [List.cons_append, usable, h c List.mem_cons_self,
      ih fun d hd => h d (List.mem_cons_of_mem _ hd)]

theorem mem_of_mem_usable {schema : Schema} {b : Batch} (h : b ∈ (usable schema ending batches).1) :
    b ∈ batches ∧ objection? schema b = none := by
  induction batches with
  | nil => cases h
  | cons c rest ih =>
    unfold usable at h
    cases hc : objection? schema c with
    | some e =>
      rw [hc] at h
      cases h
    | none =>
      rw [hc] at h
      rcases List.mem_cons.mp h with rfl | hmem
      · exact ⟨List.mem_cons_self, hc⟩
      · exact ⟨List.mem_cons_of_mem _ (ih hmem).1, (ih hmem).2⟩

/-- What ends the usable part is the ending of the stream, or what is wrong with one of its
batches. -/
theorem usable_ending {schema : Schema} {e : JoinError} (h : (usable schema ending batches).2 = some e) :
    ending = some e ∨ ∃ b ∈ batches, objection? schema b = some e := by
  induction batches with
  | nil => exact .inl h
  | cons c rest ih =>
    unfold usable at h
    cases hc : objection? schema c with
    | some e' =>
      rw [hc] at h
      cases h
      exact .inr ⟨c, List.mem_cons_self, hc⟩
    | none =>
      rw [hc] at h
      rcases ih h with hending | ⟨b, hb, hobj⟩
      · exact .inl hending
      · exact .inr ⟨b, List.mem_cons_of_mem _ hb, hobj⟩

/-- The part of a stream that is probed with, and how it ends. The schema of the first batch counts. -/
def probedPart (batches : List Batch) (ending : Option JoinError) : List Batch × Option JoinError :=
  match batches with
  | [] => ([], ending)
  | b :: rest => usable b.schema ending (b :: rest)

/-- The usable part of a stream is what comes first in it. -/
theorem usable_isPrefix (schema : Schema) (batches : List Batch) :
    (usable schema ending batches).1 <+: batches := by
  induction batches with
  | nil => exact List.prefix_rfl
  | cons b rest ih =>
    unfold usable
    split
    · exact List.nil_prefix
    · exact (List.prefix_cons_inj b).mpr ih

theorem probedPart_isPrefix (batches : List Batch) : (probedPart batches ending).1 <+: batches := by
  cases batches with
  | nil => exact List.prefix_rfl
  | cons b rest => exact usable_isPrefix b.schema (b :: rest)

/-- Batches that are probed with come from the stream. With rows, they are dense and have the schema of
its first batch. -/
theorem mem_of_mem_probedPart {b : Batch} (h : b ∈ (probedPart batches ending).1) :
    b ∈ batches ∧ (b.rowCount ≠ 0 → b.isDense = true ∧ batches.head?.map Batch.schema = some b.schema) := by
  cases batches with
  | nil => cases h
  | cons first rest =>
    obtain ⟨hmem, hobj⟩ := mem_of_mem_usable h
    refine ⟨hmem, fun hrows => ?_⟩
    obtain ⟨hdense, hschema⟩ := objection?_eq_none_iff.mp hobj hrows
    exact ⟨hdense, congrArg some hschema.symm⟩

/-! ### What a supply gives out -/

/-- A supply will give out some batches, and then ends or breaks off. -/
inductive Awaits : Supply → σ → List Batch → Option JoinError → Prop
  /-- There are no more batches. -/
  | ended {s t : Supply} {source source' : σ} (h : s.fetch source = (.ok none, t, source')) :
      Awaits s source [] none
  /-- The source breaks off. -/
  | broken {s t : Supply} {source source' : σ} {e : JoinError}
      (h : s.fetch source = (.error e, t, source')) : Awaits s source [] (some e)
  /-- The next batch cannot be probed with. -/
  | refused {s t : Supply} {source source' : σ} {b : Batch} {e : JoinError}
      (h : s.fetch source = (.ok (some b), t, source')) (hrows : b.rowCount ≠ 0)
      (hinspect : t.inspect b = .error e) : Awaits s source [] (some e)
  /-- One more batch. -/
  | batch {s t : Supply} {source source' : σ} {b : Batch} {batches : List Batch}
      {ending : Option JoinError} (h : s.fetch source = (.ok (some b), t, source'))
      (hinspect : b.rowCount ≠ 0 → t.inspect b = .ok t) (rest : Awaits t source' batches ending) :
      Awaits s source (b :: batches) ending

theorem awaits_of_exhausted (hpending : s.pending = none) (hended : s.exhausted = true) :
    s.Awaits source [] none := by
  have hfetch : s.fetch source = (.ok none, s, source) := by
    simp [fetch, hpending, hended]
  exact .ended hfetch

/-- A supply that has ended stays so. -/
theorem awaits_of_fetch_none (h : s.fetch source = (.ok none, t, source')) :
    t.Awaits source' [] none := by
  unfold fetch at h
  split at h
  · cases h
  · next hpending =>
    split at h
    · next hended =>
      cases h
      exact awaits_of_exhausted hpending hended
    · split at h
      · cases h
      · cases h
        exact awaits_of_exhausted hpending rfl
      · cases h

/-- A batch that is fetched comes in front of what the supply gives out, or stops it. -/
theorem awaits_of_fetch_some {schema : Schema} {b : Batch}
    (hfetch : s.fetch source = (.ok (some b), t, source')) (hschema : t.schema = some schema)
    (h : t.Awaits source' (usable schema ending batches).1 (usable schema ending batches).2) :
    s.Awaits source (usable schema ending (b :: batches)).1 (usable schema ending (b :: batches)).2 := by
  unfold usable
  cases hobj : objection? schema b with
  | some e =>
    have hrows : b.rowCount ≠ 0 := by
      intro hrows
      rw [objection?, if_pos hrows] at hobj
      cases hobj
    refine .refused hfetch hrows ?_
    rw [inspect_of_schema hschema hrows, hobj]
    rfl
  | none =>
    refine .batch hfetch ?_ h
    intro hrows
    rw [inspect_of_schema hschema hrows, hobj]
    rfl

/-- What a supply takes from a source that delivers batches. -/
theorem awaits_of_source {schema : Schema} {final : σ} (hschema : s.schema = some schema)
    (hpending : s.pending = none) (hopen : s.exhausted = false)
    (h : Delivers .probe source batches ending final) :
    s.Awaits source (usable schema ending batches).1 (usable schema ending batches).2 := by
  induction h with
  | ended hpull => exact .ended (by simp only [fetch, hpending, hopen, hpull]; rfl)
  | broken hpull => exact .broken (by simp only [fetch, hpending, hopen, hpull]; rfl)
  | batch hpull _ ih =>
    exact awaits_of_fetch_some (by simp only [fetch, hpending, hopen, hpull]; rfl) hschema ih

/-- A supply gives out the usable part of what its source delivers, behind a batch that waits. -/
theorem awaits_of_delivers {schema : Schema} {final : σ} (hschema : s.schema = some schema)
    (hopen : s.exhausted = false) (h : Delivers .probe source batches ending final) :
    s.Awaits source (usable schema ending (s.pending.toList ++ batches)).1
      (usable schema ending (s.pending.toList ++ batches)).2 := by
  cases hpending : s.pending with
  | none => exact awaits_of_source hschema hpending hopen h
  | some b =>
    have hfetch : s.fetch source = (.ok (some b), { s with pending := none }, source) := by
      simp only [fetch, hpending]
    exact awaits_of_fetch_some hfetch hschema (awaits_of_source hschema rfl hopen h)

/-! ### The next batch -/

/-- What fetching the next batch with rows does first. -/
theorem nextBatch_eq (s : Supply) (source : σ) (metrics : Metrics) :
    s.nextBatch source metrics =
      match s.fetch source with
      | (.error e, s, source) => (.error e, s, source, metrics)
      | (.ok none, s, source) => (.ok none, s, source, metrics)
      | (.ok (some batch), rest, source) =>
        if batch.rowCount = 0 then rest.nextBatch source metrics
        else match rest.inspect batch with
          | .error e => (.error e, rest, source, metrics)
          | .ok admitted => (.ok (some batch), admitted, source, metrics.recordProbe batch.rowCount) := by
  rw [nextBatch]
  split
  · next hfetch => rw [hfetch]
  · next hfetch => rw [hfetch]
  · next hfetch =>
    dsimp only
    rewrite [hfetch]
    rfl

/-- The next batch with rows is counted once. If there is none, nothing is counted. -/
theorem admits_of_awaits {metrics metrics' : Metrics} {result : Except JoinError (Option Batch)}
    (h : s.Awaits source batches ending)
    (hnext : s.nextBatch source metrics = (result, t, source', metrics')) :
    (result = ending.elim (.ok none) .error ∧ rowBatches batches = [] ∧ metrics' = metrics ∧
      (ending = none → t.Awaits source' [] none)) ∨
      ∃ b rest, result = .ok (some b) ∧ b ∈ batches ∧ b.rowCount ≠ 0 ∧
        rowBatches batches = b :: rowBatches rest ∧ metrics' = metrics.recordProbe b.rowCount ∧
        (∀ c ∈ rest, c ∈ batches) ∧ t.Awaits source' rest ending := by
  induction h generalizing metrics with
  | ended hfetch =>
    rw [nextBatch_eq, hfetch] at hnext
    cases hnext
    exact .inl ⟨rfl, rfl, rfl, fun _ => awaits_of_fetch_none hfetch⟩
  | broken hfetch =>
    rw [nextBatch_eq, hfetch] at hnext
    cases hnext
    exact .inl ⟨rfl, rfl, rfl, nofun⟩
  | refused hfetch hrows hinspect =>
    rw [nextBatch_eq, hfetch] at hnext
    simp only [if_neg hrows, hinspect] at hnext
    cases hnext
    exact .inl ⟨rfl, rfl, rfl, nofun⟩
  | @batch s₀ s₁ source₀ source₁ b batches ending hfetch hinspect hrest ih =>
    rw [nextBatch_eq, hfetch] at hnext
    by_cases hrows : b.rowCount = 0
    -- the batch is passed over
    · simp only [if_pos hrows] at hnext
      rw [rowBatches_cons_of_empty hrows]
      rcases ih hnext with hend | ⟨c, later, hres, hc, hsome, hsplit, hcount, hsub, hawaits⟩
      · exact .inl hend
      · exact .inr ⟨c, later, hres, List.mem_cons_of_mem _ hc, hsome, hsplit, hcount,
          fun d hd => List.mem_cons_of_mem _ (hsub d hd), hawaits⟩
    · simp only [if_neg hrows, hinspect hrows] at hnext
      cases hnext
      exact .inr ⟨b, batches, rfl, List.mem_cons_self, hrows, rowBatches_cons_of_rows hrows batches, rfl,
        fun c hc => List.mem_cons_of_mem _ hc, hrest⟩

/-- What has been fetched is the next batch with rows, or the ending if there is none. -/
theorem nextBatch_of_awaits {metrics metrics' : Metrics} {result : Except JoinError (Option Batch)}
    (h : s.Awaits source batches ending)
    (hnext : s.nextBatch source metrics = (result, t, source', metrics')) :
    (result = ending.elim (.ok none) .error ∧ streamRows batches = [] ∧
      (ending = none → t.Awaits source' [] none)) ∨
      ∃ b rest, result = .ok (some b) ∧ b ∈ batches ∧ b.rowCount ≠ 0 ∧
        streamRows batches = b.members ++ streamRows rest ∧ (∀ b ∈ rest, b ∈ batches) ∧
        t.Awaits source' rest ending := by
  rw [← streamRows_rowBatches batches]
  rcases admits_of_awaits h hnext with
    ⟨hres, hnone, -, hawaits⟩ | ⟨b, rest, hres, hb, hrows, hsplit, -, hsub, hawaits⟩
  · exact .inl ⟨hres, by rw [hnone]; rfl, hawaits⟩
  · refine .inr ⟨b, rest, hres, hb, hrows, ?_, hsub, hawaits⟩
    rw [hsplit, streamRows_cons, streamRows_rowBatches]

end Supply
end HashJoin
