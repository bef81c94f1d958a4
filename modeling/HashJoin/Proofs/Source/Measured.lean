import HashJoin.Proofs.Source.Reliable

/-!
# Measured sources

Pulling until a batch arrives is bounded by a number that the source itself gives, and a source that goes on
beyond that number is taken to have ended. The bound cuts nothing off if every batch and every delay lowers
it: pulling is then the plain loop, which knows no bound. Such sources are called measured.

Scripts are measured. Any other source can be given a ration of pulls and of rows. It is measured then,
whatever bounds it gives itself, and does what it did before as long as the ration lasts, so that every loop
that comes to its end is one over a measured source.

## Main definitions

* `BatchSource.Measured` — a source whose batches and delays lower its bounds.
* `BatchSource.Pulls`, `BatchSource.Yields` — the plain loops over a source.
* `Rationed` and its instance of `BatchSource`.

## Main results

* `pull_eq_iff`, `delivers_iff` — **the bounds of a measured source cut nothing off.**
* `rowsLeft_of_delivers` — a measured source delivers no more rows than it says.
* `Script.measured`, `Rationed.measured` — measured sources.
* `Rationed.exists_delivers` — **what a source yields is delivered by the source with some ration.**
-/

namespace HashJoin
namespace BatchSource

variable {σ : Type} [BatchSource σ] {s t u : σ} {side : Side} {batches : List Batch}
  {ending : Option JoinError} {result : Except JoinError (Option Batch)}

/-! ### Plain loops -/

/-- Pulling a source until there is a batch, an end or a failure, however often it stalls. -/
inductive Pulls (side : Side) : σ → Except JoinError (Option Batch) → σ → Prop
  /-- There is a batch, and it is taken. -/
  | batch {s t : σ} {b : Batch} (hreport : (next s).1 = .batch ∨ (next s).1 = .newSchema)
      (htake : takeBatch (next s).2 = (some b, t)) : Pulls side s (.ok (some b)) t
  /-- A batch is reported, and there is none. -/
  | missing {s t : σ} (hreport : (next s).1 = .batch ∨ (next s).1 = .newSchema)
      (htake : takeBatch (next s).2 = (none, t)) :
      Pulls side s (.error (.internal (.missingBatch side))) t
  /-- There is no batch yet, and the source is pulled again. -/
  | notYet {s t : σ} {result : Except JoinError (Option Batch)} (hreport : (next s).1 = .notYet)
      (hrest : Pulls side (next s).2 result t) : Pulls side s result t
  /-- The source has ended. -/
  | ended {s : σ} (hreport : (next s).1 = .ended) : Pulls side s (.ok none) (next s).2
  /-- The source failed, with a cause. -/
  | failed {s t : σ} {cause : JoinError} (hreport : (next s).1 = .failed)
      (htake : takeFailure (next s).2 = (some cause, t)) : Pulls side s (.error cause) t
  /-- The source failed, and gives no cause. -/
  | silent {s t : σ} (hreport : (next s).1 = .failed) (htake : takeFailure (next s).2 = (none, t)) :
      Pulls side s (.error (.sourceFailed side "upstream reported failure")) t

/-- Pulling a source one batch after the other, until it ends or fails, however many there are. -/
inductive Yields (side : Side) : σ → List Batch → Option JoinError → σ → Prop
  /-- There are no more batches. -/
  | ended {s t : σ} (h : Pulls side s (.ok none) t) : Yields side s [] none t
  /-- The source breaks off. -/
  | broken {s t : σ} {e : JoinError} (h : Pulls side s (.error e) t) : Yields side s [] (some e) t
  /-- One more batch. -/
  | batch {s t u : σ} {b : Batch} {batches : List Batch} {ending : Option JoinError}
      (h : Pulls side s (.ok (some b)) t) (rest : Yields side t batches ending u) :
      Yields side s (b :: batches) ending u

theorem Pulls.reaches (h : Pulls side s result t) : Reaches s t := by
  induction h with
  | @batch s t b hreport htake =>
    have hreach : Reaches s (takeBatch (next s).2).2 := .takeBatch (.next .refl)
    rwa [htake] at hreach
  | @missing s t hreport htake =>
    have hreach : Reaches s (takeBatch (next s).2).2 := .takeBatch (.next .refl)
    rwa [htake] at hreach
  | notYet _ _ ih => exact (Reaches.next .refl).trans ih
  | ended _ => exact .next .refl
  | @failed s t cause hreport htake =>
    have hreach : Reaches s (takeFailure (next s).2).2 := .takeFailure (.next .refl)
    rwa [htake] at hreach
  | @silent s t hreport htake =>
    have hreach : Reaches s (takeFailure (next s).2).2 := .takeFailure (.next .refl)
    rwa [htake] at hreach

/-! ### Measured sources -/

/-- Whatever is done to the source, its batches and delays lower the bounds that it gives, a batch by its
rows, and its end does not raise them. -/
structure Measured (s : σ) : Prop where
  /-- A batch that was reported, once it has been taken. -/
  batch : ∀ t, Reaches s t → (next t).1 = .batch ∨ (next t).1 = .newSchema →
    ∀ b u, takeBatch (next t).2 = (some b, u) →
      pullsLeft u < pullsLeft t ∧ rowsLeft u + b.rowCount ≤ rowsLeft t
  /-- A delay. -/
  notYet : ∀ t, Reaches s t → (next t).1 = .notYet →
    pullsLeft (next t).2 < pullsLeft t ∧ rowsLeft (next t).2 ≤ rowsLeft t
  /-- The end. -/
  ended : ∀ t, Reaches s t → (next t).1 = .ended → rowsLeft (next t).2 ≤ rowsLeft t

theorem Measured.of_reaches (h : Measured s) (ht : Reaches s t) : Measured t :=
  ⟨fun u hu => h.batch u (ht.trans hu), fun u hu => h.notYet u (ht.trans hu),
    fun u hu => h.ended u (ht.trans hu)⟩

/-- Taking the batch of a measured source, the bound is not in the way. -/
theorem takeReported_of_measured (side : Side) (h : Measured s)
    (hreport : (next s).1 = .batch ∨ (next s).1 = .newSchema) :
    Pulls side s (takeReported side (pullsLeft s) (next s).2).1
      (takeReported side (pullsLeft s) (next s).2).2 := by
  unfold takeReported
  split
  · next b t htake =>
    rw [if_pos (h.batch s .refl hreport b t htake).1]
    exact .batch hreport htake
  · next t htake => exact .missing hreport htake

/-- Pulling a measured source is the plain loop. -/
theorem pulls_pull (side : Side) (h : Measured s) : Pulls side s (pull side s).1 (pull side s).2 := by
  fun_induction pull side s with
  | case1 s t hnext =>
    have hpulls := takeReported_of_measured side h (.inl (by rw [hnext]))
    rwa [hnext] at hpulls
  | case2 s t hnext =>
    have hpulls := takeReported_of_measured side h (.inr (by rw [hnext]))
    rwa [hnext] at hpulls
  | case3 s t hnext _ ih =>
    have hreach : Reaches s (next s).2 := .next .refl
    rw [hnext] at hreach
    refine .notYet (by rw [hnext]) ?_
    rw [hnext]
    exact ih (h.of_reaches hreach)
  -- the bound would be in the way of a delay that does not lower it
  | case4 s t hnext hstuck =>
    have hless := (h.notYet s .refl (by rw [hnext])).1
    rw [hnext] at hless
    exact absurd hless hstuck
  | case5 s t hnext =>
    have hpulls : Pulls side s (.ok none) (next s).2 := .ended (by rw [hnext])
    rwa [hnext] at hpulls
  | case6 s t hnext cause u htake =>
    refine .failed (by rw [hnext]) ?_
    rw [hnext]
    exact htake
  | case7 s t hnext u htake =>
    refine .silent (by rw [hnext]) ?_
    rw [hnext]
    exact htake

theorem pull_of_report (hreport : (next s).1 = .batch ∨ (next s).1 = .newSchema) :
    pull side s = takeReported side (pullsLeft s) (next s).2 := by
  rcases hnext : next s with ⟨report, t⟩
  rw [hnext] at hreport
  rcases hreport with rfl | rfl <;> rw [pull, hnext]

theorem pull_of_notYet (hreport : (next s).1 = .notYet) (hless : pullsLeft (next s).2 < pullsLeft s) :
    pull side s = pull side (next s).2 := by
  rcases hnext : next s with ⟨report, t⟩
  rw [hnext] at hreport hless
  obtain rfl : report = .notYet := hreport
  rw [pull, hnext]
  simp only [if_pos hless]

/-- What the plain loop comes to, pulling a measured source comes to. -/
theorem pull_of_pulls (h : Measured s) (hpulls : Pulls side s result t) :
    pull side s = (result, t) := by
  induction hpulls with
  | @batch s t b hreport htake =>
    have hless := (h.batch s .refl hreport b t htake).1
    rw [pull_of_report hreport, takeReported, htake]
    simp only [if_pos hless]
  | @missing s t hreport htake => rw [pull_of_report hreport, takeReported, htake]
  | @notYet s t result hreport _ ih =>
    rw [pull_of_notYet hreport (h.notYet s .refl hreport).1]
    exact ih (h.of_reaches (.next .refl))
  | @ended s hreport =>
    rcases hnext : next s with ⟨_, t⟩
    obtain rfl : _ = Pulled.ended := (congrArg Prod.fst hnext).symm.trans hreport
    rw [pull, hnext]
  | @failed s t cause hreport htake =>
    rcases hnext : next s with ⟨_, u⟩
    obtain rfl : _ = Pulled.failed := (congrArg Prod.fst hnext).symm.trans hreport
    rw [hnext] at htake
    rw [pull, hnext]
    simp only [htake]
  | @silent s t hreport htake =>
    rcases hnext : next s with ⟨_, u⟩
    obtain rfl : _ = Pulled.failed := (congrArg Prod.fst hnext).symm.trans hreport
    rw [hnext] at htake
    rw [pull, hnext]
    simp only [htake]

/-- **The bounds of a measured source cut nothing off.** Pulling it is the plain loop. -/
theorem pull_eq_iff (h : Measured s) : pull side s = (result, t) ↔ Pulls side s result t := by
  constructor
  · intro hpull
    have hpulls := pulls_pull side h
    rwa [hpull] at hpulls
  · exact pull_of_pulls h

/-- What a measured source delivers is all that the plain loop yields. -/
theorem delivers_iff (h : Measured s) :
    Delivers side s batches ending t ↔ Yields side s batches ending t := by
  constructor
  · intro hdelivers
    induction hdelivers with
    | ended hpull => exact .ended ((pull_eq_iff h).mp hpull)
    | broken hpull => exact .broken ((pull_eq_iff h).mp hpull)
    | batch hpull _ ih =>
      have hpulls := (pull_eq_iff h).mp hpull
      exact .batch hpulls (ih (h.of_reaches hpulls.reaches))
  · intro hyields
    induction hyields with
    | ended hpulls => exact .ended ((pull_eq_iff h).mpr hpulls)
    | broken hpulls => exact .broken ((pull_eq_iff h).mpr hpulls)
    | batch hpulls _ ih =>
      exact .batch ((pull_eq_iff h).mpr hpulls) (ih (h.of_reaches hpulls.reaches))

/-! ### Rows -/

/-- Number of rows of a batch that there may be. -/
def rowsOf (first : Option Batch) : Nat := (first.map Batch.rowCount).getD 0

/-- A pull that does not fail lowers the bound by the rows that it gives. -/
theorem rowsLeft_of_pulls {first : Option Batch} (h : Measured s)
    (hpulls : Pulls side s (.ok first) t) : rowsLeft t + rowsOf first ≤ rowsLeft s := by
  generalize hresult : Except.ok first = result at hpulls
  induction hpulls with
  | @batch s t b hreport htake =>
    cases hresult
    exact (h.batch s .refl hreport b t htake).2
  | missing _ _ => cases hresult
  | @notYet s t _ hreport _ ih =>
    have hrest := ih (h.of_reaches (.next .refl)) hresult
    exact Nat.le_trans hrest (h.notYet s .refl hreport).2
  | @ended s hreport =>
    cases hresult
    exact h.ended s .refl hreport
  | failed _ _ => cases hresult
  | silent _ _ => cases hresult

/-- A measured source stays one when it is pulled, and a pull that does not fail lowers its bound by the
rows that it gives. -/
theorem measured_of_pull (h : Measured s) (hpull : pull side s = (result, t)) :
    Measured t ∧ ∀ first, result = .ok first → rowsLeft t + rowsOf first ≤ rowsLeft s := by
  have hpulls := (pull_eq_iff h).mp hpull
  refine ⟨h.of_reaches hpulls.reaches, ?_⟩
  rintro first rfl
  exact rowsLeft_of_pulls h hpulls

/-- A measured source delivers no more rows than it says. -/
theorem rowsLeft_of_delivers (h : Measured s) (hdelivers : Delivers side s batches none t) :
    rowsLeft t + (streamRows batches).length ≤ rowsLeft s := by
  generalize hending : (none : Option JoinError) = ending at hdelivers
  induction hdelivers with
  | ended hpull => exact (measured_of_pull h hpull).2 _ rfl
  | broken _ => cases hending
  | @batch s t u b batches ending hpull _ ih =>
    obtain ⟨hmeasured, hrows⟩ := measured_of_pull h hpull
    have hfirst : rowsLeft t + b.rowCount ≤ rowsLeft s := hrows _ rfl
    have hrest := ih hmeasured hending
    rw [streamRows_cons, List.length_append, length_members]
    omega

/-- The build phase gets no more rows than the source says. -/
theorem rowsLeft_of_loads (h : Measured s) (hloads : Loads s batches none t) :
    (streamRows batches).length ≤ rowsLeft s := by
  cases hloads with
  | @pulled _ _ first rest _ hpull hrest =>
    obtain ⟨hmeasured, hrows⟩ := measured_of_pull h hpull
    have hfirst := hrows _ rfl
    have hrest := rowsLeft_of_delivers hmeasured hrest
    rw [streamRows_append, List.length_append]
    cases first with
    | none =>
      rw [Option.toList_none, streamRows_nil, List.length_nil]
      omega
    | some b =>
      have hfirst : rowsLeft _ + b.rowCount ≤ rowsLeft s := hfirst
      rw [Option.toList_some, streamRows_cons, streamRows_nil, List.append_nil, length_members]
      omega

end BatchSource

/-! ### Scripts -/

namespace Script

open BatchSource

/-- Every pull of a script takes one step, if there is one, and a batch is a step with its rows. -/
theorem steps_next (s : Script) :
    ((Script.next s).1 = .batch ∨ (Script.next s).1 = .newSchema → ∃ b,
      (Script.next s).2.current = some b ∧ (Script.next s).2.steps.length < s.steps.length ∧
        stepRows (Script.next s).2.steps + b.rowCount ≤ stepRows s.steps) ∧
    ((Script.next s).1 = .notYet → (Script.next s).2.steps.length < s.steps.length) ∧
    stepRows (Script.next s).2.steps ≤ stepRows s.steps := by
  simp only [Script.next]
  split
  · exact ⟨fun hreport => (by simp at hreport), fun hreport => (by cases hreport), Nat.le_refl _⟩
  · cases hsteps : s.steps with
    | nil => exact ⟨fun hreport => (by simp at hreport), fun hreport => (by cases hreport), by simp⟩
    | cons step rest =>
      cases step with
      | batch b =>
        obtain ⟨hcurrent, hrest⟩ := current_report s b rest
        have hrows : stepRows rest + b.rowCount ≤ stepRows (.batch b :: rest) := by
          exact Nat.le_of_eq (Nat.add_comm _ _)
        refine ⟨fun _ => ⟨b, hcurrent, ?_, ?_⟩, ?_, ?_⟩
        · rw [hrest]
          exact Nat.lt_succ_self _
        · rw [hrest]
          exact hrows
        · intro hreport
          simp only [report] at hreport
          split at hreport <;> cases hreport
        · rw [hrest]
          exact Nat.le_of_add_right_le hrows
      | notYet => exact ⟨fun hreport => (by simp at hreport), fun _ => Nat.lt_succ_self _, Nat.le_refl _⟩
      | fail cause =>
        exact ⟨fun hreport => (by simp at hreport), fun hreport => (by cases hreport), Nat.le_refl _⟩

/-- Scripts are measured by their steps. -/
theorem measured (s : Script) : Measured s where
  batch t _ hreport b u htake := by
    obtain ⟨b', hcurrent, hless, hrows⟩ := (steps_next t).1 hreport
    obtain ⟨hb, rfl⟩ := Prod.mk.inj htake
    obtain rfl : b' = b := Option.some.inj (hcurrent.symm.trans hb)
    exact ⟨hless, hrows⟩
  notYet t _ hreport := ⟨(steps_next t).2.1 hreport, (steps_next t).2.2⟩
  ended t _ _ := (steps_next t).2.2

end Script

/-! ### Rations -/

/-- A source with a ration. -/
structure Rationed (σ : Type) where
  /-- The source. -/
  source : σ
  /-- The pulls that are left. When they are used up, the source counts as ended. -/
  pulls : Nat
  /-- The rows that are left. A batch with more rows counts as the end. -/
  rows : Nat

namespace Rationed

open BatchSource

variable {σ : Type} [BatchSource σ]

/-- The report that is passed on: a batch counts as the end if it has too many rows. -/
def passOn (report : Pulled) (source : σ) (rows : Nat) : Pulled :=
  match report with
  | .batch | .newSchema => if rowsOf (takeBatch source).1 ≤ rows then report else .ended
  | .notYet | .ended | .failed => report

/-- Pulls the source, if there are pulls left. -/
def next (s : Rationed σ) : Pulled × Rationed σ :=
  match s.pulls with
  | 0 => (.ended, s)
  | left + 1 =>
    let (report, source) := BatchSource.next s.source
    (passOn report source s.rows, ⟨source, left, s.rows⟩)

instance : BatchSource (Rationed σ) where
  schema? s := schema? s.source
  next := next
  current? s := current? s.source
  takeBatch s := ((takeBatch s.source).1,
    ⟨(takeBatch s.source).2, s.pulls, s.rows - rowsOf (takeBatch s.source).1⟩)
  takeFailure s := ((takeFailure s.source).1, ⟨(takeFailure s.source).2, s.pulls, s.rows⟩)
  kill propagate s := ⟨kill propagate s.source, s.pulls, s.rows⟩
  dispose s := ⟨dispose s.source, s.pulls, s.rows⟩
  killLog s := killLog s.source
  pullsLeft := Rationed.pulls
  rowsLeft := Rationed.rows

variable {s t : Rationed σ}

theorem passOn_of_rows {source : σ} {rows : Nat} (report : Pulled)
    (h : rowsOf (takeBatch source).1 ≤ rows) : passOn report source rows = report := by
  cases report with
  | batch | newSchema => exact if_pos h
  | notYet | ended | failed => rfl

/-- A batch is passed on if there are rows enough for it. -/
theorem of_passOn_batch {report : Pulled} {source : σ} {rows : Nat}
    (h : passOn report source rows = .batch ∨ passOn report source rows = .newSchema) :
    passOn report source rows = report ∧ rowsOf (takeBatch source).1 ≤ rows := by
  by_cases hrows : rowsOf (takeBatch source).1 ≤ rows
  · exact ⟨passOn_of_rows report hrows, hrows⟩
  · cases report with
    | batch | newSchema => simp [passOn, if_neg hrows] at h
    | notYet | ended | failed => simp [passOn] at h

/-- A pull uses one of the pulls up, and no rows, unless there are no pulls left. -/
theorem next_cases (s : Rationed σ) : BatchSource.next s = (.ended, s) ∨ ∃ left, s.pulls = left + 1 ∧
    BatchSource.next s = (passOn (BatchSource.next s.source).1 (BatchSource.next s.source).2 s.rows,
      ⟨(BatchSource.next s.source).2, left, s.rows⟩) := by
  obtain ⟨source, pulls, rows⟩ := s
  cases pulls with
  | zero => exact .inl rfl
  | succ left => exact .inr ⟨left, rfl, rfl⟩

/-- A source with a ration comes to states of the source. -/
theorem reaches_source (h : Reaches s t) : Reaches s.source t.source := by
  induction h with
  | refl => exact .refl
  | @next t _ ih =>
    rcases next_cases t with hnext | ⟨left, -, hnext⟩
    · rw [hnext]
      exact ih
    · rw [hnext]
      exact .next ih
  | takeBatch _ ih => exact .takeBatch ih
  | takeFailure _ ih => exact .takeFailure ih
  | kill propagate _ ih => exact .kill propagate ih
  | dispose _ ih => exact .dispose ih

/-- Sources with a ration are measured by it. -/
theorem measured (s : Rationed σ) : Measured s where
  batch t _ hreport b u htake := by
    rcases next_cases t with hnext | ⟨left, hpulls, hnext⟩
    · rw [hnext] at hreport
      simp at hreport
    rw [hnext] at hreport htake
    have hrows := (of_passOn_batch hreport).2
    obtain ⟨hb, rfl⟩ := Prod.mk.inj htake
    change (takeBatch (BatchSource.next t.source).2).1 = some b at hb
    refine ⟨?_, ?_⟩
    · show left < t.pulls
      omega
    · show t.rows - rowsOf (takeBatch (BatchSource.next t.source).2).1 + b.rowCount ≤ t.rows
      rw [hb] at hrows ⊢
      exact Nat.le_of_eq (Nat.sub_add_cancel hrows)
  notYet t _ hreport := by
    rcases next_cases t with hnext | ⟨left, hpulls, hnext⟩
    · rw [hnext] at hreport
      cases hreport
    · rw [hnext]
      show left < t.pulls ∧ t.rows ≤ t.rows
      exact ⟨by omega, Nat.le_refl _⟩
  ended t _ _ := by
    rcases next_cases t with hnext | ⟨left, -, hnext⟩
    · rewrite [hnext]
      exact Nat.le_refl t.rows
    · rewrite [hnext]
      exact Nat.le_refl t.rows

/-- A source with a ration is reliable if the source is. -/
theorem reliable (h : Reliable s.source) : Reliable s := by
  refine ⟨fun t ht hreport => ?_⟩
  rcases next_cases t with hnext | ⟨left, -, hnext⟩
  · rw [hnext] at hreport
    simp at hreport
  · rw [hnext] at hreport ⊢
    rw [(of_passOn_batch hreport).1] at hreport
    exact h.batch t.source (reaches_source ht) hreport

/-! What a source does, it does with a ration that lasts. -/

variable {source final : σ} {side : Side} {result : Except JoinError (Option Batch)}
  {batches : List Batch} {ending : Option JoinError}

/-- Number of rows of the batch that a pull gives. -/
def resultRows : Except JoinError (Option Batch) → Nat
  | .ok first => rowsOf first
  | .error _ => 0

theorem takeBatch_eq (pulls rows : Nat) : takeBatch (⟨source, pulls, rows⟩ : Rationed σ) =
    ((takeBatch source).1, ⟨(takeBatch source).2, pulls, rows - rowsOf (takeBatch source).1⟩) := rfl

theorem takeFailure_eq (pulls rows : Nat) : takeFailure (⟨source, pulls, rows⟩ : Rationed σ) =
    ((takeFailure source).1, ⟨(takeFailure source).2, pulls, rows⟩) := rfl

theorem next_of_passOn {report : Pulled} {t : σ} (source : σ) (left rows : Nat)
    (hreport : (BatchSource.next source).1 = report) (hsource : (BatchSource.next source).2 = t)
    (h : passOn report t rows = report) :
    BatchSource.next (⟨source, left + 1, rows⟩ : Rationed σ) = (report, ⟨t, left, rows⟩) := by
  subst hreport hsource
  exact congrArg (·, _) h

/-- What the plain loop over a source comes to, the loop over the source with some ration comes to, and
it uses just that ration up. -/
theorem exists_pulls (h : Pulls side source result final) : ∃ used, ∀ pulls rows,
    Pulls side (⟨source, pulls + used, rows + resultRows result⟩ : Rationed σ) result
      ⟨final, pulls, rows⟩ := by
  induction h with
  | @batch s t b hreport htake =>
    refine ⟨1, fun pulls rows => ?_⟩
    have hnext := next_of_passOn s pulls (rows + b.rowCount) rfl rfl
      (passOn_of_rows _ (by rw [htake]; exact Nat.le_add_left _ _))
    show Pulls side (⟨s, pulls + 1, rows + b.rowCount⟩ : Rationed σ) _ _
    refine .batch (by rw [hnext]; exact hreport) ?_
    rw [hnext, takeBatch_eq, htake]
    show (some b, (⟨t, pulls, rows + b.rowCount - b.rowCount⟩ : Rationed σ)) = _
    rw [Nat.add_sub_cancel]
  | @missing s t hreport htake =>
    refine ⟨1, fun pulls rows => ?_⟩
    have hnext := next_of_passOn s pulls rows rfl rfl
      (passOn_of_rows _ (by rw [htake]; exact Nat.zero_le _))
    show Pulls side (⟨s, pulls + 1, rows⟩ : Rationed σ) _ _
    refine .missing (by rw [hnext]; exact hreport) ?_
    rw [hnext, takeBatch_eq, htake]
    rfl
  | @notYet s t result hreport _ ih =>
    obtain ⟨used, hrest⟩ := ih
    refine ⟨used + 1, fun pulls rows => ?_⟩
    have hnext := next_of_passOn s (pulls + used) (rows + resultRows result) hreport rfl rfl
    refine .notYet (by rw [← Nat.add_assoc, hnext]) ?_
    rw [← Nat.add_assoc, hnext]
    exact hrest pulls rows
  | @ended s hreport =>
    refine ⟨1, fun pulls rows => ?_⟩
    have hnext := next_of_passOn s pulls rows hreport rfl rfl
    have hpulls : Pulls side (⟨s, pulls + 1, rows⟩ : Rationed σ) (.ok none) (BatchSource.next _).2 :=
      .ended (by rw [hnext])
    rwa [hnext] at hpulls
  | @failed s t cause hreport htake =>
    refine ⟨1, fun pulls rows => ?_⟩
    have hnext := next_of_passOn s pulls rows hreport rfl rfl
    show Pulls side (⟨s, pulls + 1, rows⟩ : Rationed σ) _ _
    refine .failed (by rw [hnext]) ?_
    rw [hnext, takeFailure_eq, htake]
  | @silent s t hreport htake =>
    refine ⟨1, fun pulls rows => ?_⟩
    have hnext := next_of_passOn s pulls rows hreport rfl rfl
    show Pulls side (⟨s, pulls + 1, rows⟩ : Rationed σ) _ _
    refine .silent (by rw [hnext]) ?_
    rw [hnext, takeFailure_eq, htake]

/-- **What a source yields is delivered by the source with some ration**, which is used up just then. -/
theorem exists_delivers (h : Yields side source batches ending final) : ∃ used, ∀ pulls rows,
    Delivers side (⟨source, pulls + used, rows + (streamRows batches).length⟩ : Rationed σ) batches ending
      ⟨final, pulls, rows⟩ := by
  have hyields : ∃ used, ∀ pulls rows,
      Yields side (⟨source, pulls + used, rows + (streamRows batches).length⟩ : Rationed σ) batches ending
        ⟨final, pulls, rows⟩ := by
    induction h with
    | ended hpulls =>
      obtain ⟨used, hused⟩ := exists_pulls hpulls
      exact ⟨used, fun pulls rows => .ended (hused pulls rows)⟩
    | broken hpulls =>
      obtain ⟨used, hused⟩ := exists_pulls hpulls
      exact ⟨used, fun pulls rows => .broken (hused pulls rows)⟩
    | @batch s t u b batches ending hpulls _ ih =>
      obtain ⟨used, hused⟩ := exists_pulls hpulls
      obtain ⟨more, hrest⟩ := ih
      refine ⟨more + used, fun pulls rows => .batch ?_ (hrest pulls rows)⟩
      have hfirst := hused (pulls + more) (rows + (streamRows batches).length)
      rw [streamRows_cons, List.length_append, length_members, Nat.add_comm b.rowCount, ← Nat.add_assoc,
        ← Nat.add_assoc]
      exact hfirst
  obtain ⟨used, hyields⟩ := hyields
  exact ⟨used, fun pulls rows => (delivers_iff (measured _)).mpr (hyields pulls rows)⟩

end Rationed
end HashJoin
