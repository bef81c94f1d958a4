import HashJoin.Operator

/-!
# Watched sources

A watched source does what the source does, and keeps a history of its pulls and kills. A source that
has ended, has failed or was killed has nothing more to give, so its history is settled if no pull comes
behind such an event. Whoever pulls a source until it has a batch, an end or a failure adds some delays
and one more report to its history.

## Main definitions

* `Treatment`, `Settled`, `Ongoing` — the events of a history, and what is said of all of them.
* `Watched` and its instance of `BatchSource`.
* `Watched.Drew` — a watched source that was pulled.
* `BatchSource.EndsAtOnce` — a source that ends without having given anything.

## Main results

* `settled_append_of_ongoing`, `settled_append_killed` — histories that go on.
* `drew_pull`, `drew_drain`, `drew_drainProbe` — what pulls add to a history.
* `supplied_nextBatch`, `supplied_nextOutput` — probing leaves a source alone once it has ended.
-/

namespace HashJoin

open BatchSource

/-! ### Histories -/

/-- What is done to a source. -/
inductive Treatment
  /-- It is pulled, with a report. -/
  | pulled (report : Pulled)
  /-- It is killed. -/
  | killed (propagate : Bool)
  deriving DecidableEq

namespace Treatment

/-- Whether it is a pull. -/
def isPull : Treatment → Bool
  | pulled _ => true
  | killed _ => false

/-- Whether the source has nothing more to give afterwards: it has ended, has failed, or was killed. -/
def isFinal : Treatment → Bool
  | pulled .ended | pulled .failed | killed _ => true
  | pulled .batch | pulled .newSchema | pulled .notYet => false

/-- The signal that a source of some label gets. -/
def signal? (label : String) : Treatment → Option KillSignal
  | pulled _ => none
  | killed propagate => some ⟨label, propagate⟩

theorem signal?_of_isPull {event : Treatment} (label : String) (h : event.isPull = true) :
    event.signal? label = none := by
  cases event with
  | pulled => rfl
  | killed => cases h

end Treatment

/-- No pull comes behind an end, a failure or a kill. -/
def Settled (history : List Treatment) : Prop :=
  history.Pairwise fun earlier later => earlier.isFinal = true → later.isPull = false

instance (history : List Treatment) : Decidable (Settled history) :=
  inferInstanceAs (Decidable (List.Pairwise _ _))

/-- There has been no end, no failure and no kill. -/
def Ongoing (history : List Treatment) : Prop := ∀ event ∈ history, event.isFinal = false

section Histories

variable {history events : List Treatment}

theorem settled_nil : Settled [] := List.Pairwise.nil

theorem ongoing_nil : Ongoing [] := nofun

theorem Ongoing.settled (h : Ongoing history) : Settled history := by
  refine List.Pairwise.imp_of_mem (R := fun _ _ => True) ?_ (List.pairwise_of_forall fun _ _ => trivial)
  intro earlier later hearlier _ _ hfinal
  rw [h earlier hearlier] at hfinal
  cases hfinal

theorem Ongoing.append (h : Ongoing history) (h' : Ongoing events) : Ongoing (history ++ events) := by
  intro event hevent
  rcases List.mem_append.mp hevent with hevent | hevent
  · exact h event hevent
  · exact h' event hevent

/-- A history that goes on is settled if what is added is. -/
theorem settled_append_of_ongoing (h : Ongoing history) :
    Settled (history ++ events) ↔ Settled events := by
  unfold Settled
  rw [List.pairwise_append]
  constructor
  · exact fun hall => hall.2.1
  · intro hevents
    refine ⟨h.settled, hevents, ?_⟩
    intro earlier hearlier later _ hfinal
    rw [h earlier hearlier] at hfinal
    cases hfinal

/-- A kill may come at any time. -/
theorem settled_append_killed (propagate : Bool) :
    Settled (history ++ [.killed propagate]) ↔ Settled history := by
  unfold Settled
  rw [List.pairwise_append]
  constructor
  · exact fun hall => hall.1
  · intro hhistory
    refine ⟨hhistory, List.pairwise_singleton _ _, ?_⟩
    intro _ _ later hlater _
    rw [List.mem_singleton.mp hlater]
    rfl

theorem settled_singleton (event : Treatment) : Settled [event] := List.pairwise_singleton _ _

/-- Delays leave a history open. -/
theorem ongoing_delays (n : Nat) : Ongoing (List.replicate n (.pulled .notYet)) := by
  intro event hevent
  rw [List.eq_of_mem_replicate hevent]
  rfl

end Histories

/-! ### Watched sources -/

/-- A source with a history. -/
structure Watched (σ : Type) where
  /-- The name of the source. -/
  label : String
  /-- The source. -/
  source : σ
  /-- What has been done to it. -/
  history : List Treatment

namespace Watched

variable {σ : Type}

/-- A source that is watched from now on. -/
def ofSource (label : String) (source : σ) : Watched σ := ⟨label, source, []⟩

/-- The kills that the source got. -/
def signals (s : Watched σ) : List KillSignal := s.history.filterMap (·.signal? s.label)

variable [BatchSource σ]

instance : BatchSource (Watched σ) where
  schema? s := schema? s.source
  next s := ((next s.source).1,
    ⟨s.label, (next s.source).2, s.history ++ [.pulled (next s.source).1]⟩)
  current? s := current? s.source
  takeBatch s := ((takeBatch s.source).1, ⟨s.label, (takeBatch s.source).2, s.history⟩)
  takeFailure s := ((takeFailure s.source).1, ⟨s.label, (takeFailure s.source).2, s.history⟩)
  kill propagate s := ⟨s.label, kill propagate s.source, s.history ++ [.killed propagate]⟩
  dispose s := ⟨s.label, dispose s.source, s.history⟩
  killLog := signals
  pullsLeft s := pullsLeft s.source
  rowsLeft s := rowsLeft s.source

/-- The source `t` is `s` after some pulls. -/
structure Drew (s t : Watched σ) (events : List Treatment) : Prop where
  /-- The name stays. -/
  label : t.label = s.label
  /-- The pulls are added to the history. -/
  history : t.history = s.history ++ events
  /-- They are pulls. -/
  pulls : ∀ event ∈ events, event.isPull = true

variable {s t u : Watched σ} {events events' : List Treatment}

omit [BatchSource σ] in
theorem Drew.refl (s : Watched σ) : Drew s s [] := ⟨rfl, (List.append_nil _).symm, nofun⟩

omit [BatchSource σ] in
theorem Drew.trans (h : Drew s t events) (h' : Drew t u events') : Drew s u (events ++ events') := by
  refine ⟨h'.label.trans h.label, ?_, ?_⟩
  · rw [h'.history, h.history, List.append_assoc]
  · intro event hevent
    rcases List.mem_append.mp hevent with hevent | hevent
    · exact h.pulls event hevent
    · exact h'.pulls event hevent

omit [BatchSource σ] in
/-- Pulls are no kills. -/
theorem Drew.signals (h : Drew s t events) : t.signals = s.signals := by
  have hnone : events.filterMap (·.signal? s.label) = [] := by
    refine List.filterMap_eq_nil_iff.mpr fun event hevent => ?_
    exact Treatment.signal?_of_isPull _ (h.pulls event hevent)
  rw [Watched.signals, h.history, h.label, List.filterMap_append, hnone, List.append_nil]
  rfl

theorem drew_of_next {report : Pulled} (h : next s = (report, t)) : Drew s t [.pulled report] := by
  obtain ⟨rfl, rfl⟩ := Prod.mk.inj h
  refine ⟨rfl, rfl, ?_⟩
  intro event hevent
  rw [List.mem_singleton.mp hevent]
  rfl

theorem drew_takeBatch (s : Watched σ) : Drew s (takeBatch s).2 [] :=
  ⟨rfl, (List.append_nil _).symm, nofun⟩

theorem drew_of_takeFailure {cause : Option JoinError} (h : takeFailure s = (cause, t)) :
    Drew s t [] := by
  obtain ⟨-, rfl⟩ := Prod.mk.inj h
  exact ⟨rfl, (List.append_nil _).symm, nofun⟩

end Watched

namespace BatchSource

variable {σ : Type} [BatchSource σ]

/-- The source ends without having given anything: there are only delays in front of its end. -/
inductive EndsAtOnce : σ → Prop
  /-- The next report is the end. -/
  | ended {s : σ} (h : (next s).1 = .ended) : EndsAtOnce s
  /-- The next report is a delay. -/
  | notYet {s : σ} (h : (next s).1 = .notYet) (hleft : pullsLeft (next s).2 < pullsLeft s)
      (hrest : EndsAtOnce (next s).2) : EndsAtOnce s

theorem endsAtOnce_of_notYet {s : σ} (h : (next s).1 = .notYet) :
    EndsAtOnce s ↔ pullsLeft (next s).2 < pullsLeft s ∧ EndsAtOnce (next s).2 := by
  constructor
  · intro hends
    cases hends with
    | ended hended => cases h.symm.trans hended
    | notYet _ hleft hrest => exact ⟨hleft, hrest⟩
  · exact fun ⟨hleft, hrest⟩ => .notYet h hleft hrest

/-- A source that does not stall ends at once if its next report is the end. -/
theorem endsAtOnce_of_ne {s : σ} (h : (next s).1 ≠ .notYet) : EndsAtOnce s ↔ (next s).1 = .ended := by
  constructor
  · intro hends
    cases hends with
    | ended hended => exact hended
    | notYet hstalled => exact absurd hstalled h
  · exact .ended

end BatchSource

/-! ### Pulls -/

namespace Watched

variable {σ : Type} [BatchSource σ] {s t u : Watched σ} {side : Side}

/-- What a source reports and gives when it is pulled until it has a batch, an end or a failure. -/
structure Reports (s : Watched σ) (report : Pulled) (result : Except JoinError (Option Batch)) :
    Prop where
  /-- A batch does not come with an end or a failure. -/
  batch : ∀ b, result = .ok (some b) → (Treatment.pulled report).isFinal = false
  /-- The end is reported if the source has nothing else to give. -/
  ended : report = .ended ↔ EndsAtOnce s.source
  /-- There is no error behind an end. -/
  none : report = .ended → result = .ok none
  /-- There is nothing but an error behind a failure. -/
  failed : report = .failed → ∃ e, result = .error e

theorem reports_of_batch {report : Pulled} (result : Except JoinError (Option Batch))
    (h : next s = (report, t)) (hbatch : report = .batch ∨ report = .newSchema) :
    Reports s report result := by
  obtain ⟨rfl, -⟩ := Prod.mk.inj h
  have hne : (next s.source).1 ≠ .notYet ∧ (next s.source).1 ≠ .ended ∧ (next s.source).1 ≠ .failed ∧
      (Treatment.pulled (next s.source).1).isFinal = false := by
    rcases hbatch with hbatch | hbatch
    · rw [show (next s.source).1 = .batch from hbatch]
      decide
    · rw [show (next s.source).1 = .newSchema from hbatch]
      decide
  obtain ⟨hstalls, hended, hfailed, hopen⟩ := hne
  exact ⟨fun _ _ => hopen, (endsAtOnce_of_ne hstalls).symm, fun hend => absurd hend hended,
    fun hfail => absurd hfail hfailed⟩

theorem reports_of_ended (h : next s = (.ended, t)) : Reports s .ended (.ok none) := by
  obtain ⟨hreport, -⟩ := Prod.mk.inj h
  refine ⟨?_, ⟨fun _ => .ended hreport, fun _ => rfl⟩, fun _ => rfl, ?_⟩
  · rintro _ ⟨⟩
  · rintro ⟨⟩

theorem reports_of_failed (h : next s = (.failed, t)) (e : JoinError) :
    Reports s .failed (.error e) := by
  obtain ⟨hreport, -⟩ := Prod.mk.inj h
  have hmore : ¬EndsAtOnce s.source := by
    rw [endsAtOnce_of_ne (by rw [show (next s.source).1 = .failed from hreport]; decide)]
    rw [show (next s.source).1 = .failed from hreport]
    decide
  refine ⟨?_, ⟨?_, fun hends => absurd hends hmore⟩, ?_, fun _ => ⟨e, rfl⟩⟩
  · rintro _ ⟨⟩
  · rintro ⟨⟩
  · rintro ⟨⟩

/-- A source that has stalled more often than it may has not ended. -/
theorem reports_of_stuck (h : next s = (.notYet, t)) (hstuck : ¬pullsLeft t < pullsLeft s) :
    Reports s .notYet (.ok none) := by
  obtain ⟨hreport, rfl⟩ := Prod.mk.inj h
  have hmore : ¬EndsAtOnce s.source := fun hends => hstuck ((endsAtOnce_of_notYet hreport).mp hends).1
  refine ⟨?_, ⟨?_, fun hends => absurd hends hmore⟩, ?_, ?_⟩
  · rintro _ ⟨⟩
  · rintro ⟨⟩
  · rintro ⟨⟩
  · rintro ⟨⟩

/-- A delay does not count. -/
theorem Reports.of_notYet {report : Pulled} {result : Except JoinError (Option Batch)}
    (h : next s = (.notYet, t)) (hleft : pullsLeft t < pullsLeft s) (hreports : Reports t report result) :
    Reports s report result := by
  obtain ⟨hreport, rfl⟩ := Prod.mk.inj h
  refine ⟨hreports.batch, ?_, hreports.none, hreports.failed⟩
  rw [hreports.ended, endsAtOnce_of_notYet hreport]
  exact ⟨fun hends => ⟨hleft, hends⟩, fun hends => hends.2⟩

/-- A batch that is reported is taken without another pull. -/
theorem drew_takeReported {left : Nat} {result : Except JoinError (Option Batch)}
    (h : takeReported side left s = (result, t)) : Drew s t [] := by
  have htaken : t = (takeBatch s).2 := by
    unfold takeReported at h
    split at h
    · next htake =>
      rw [htake]
      exact (Prod.mk.inj h).2.symm
    · next htake =>
      rw [htake]
      exact (Prod.mk.inj h).2.symm
  rw [htaken]
  exact drew_takeBatch s

/-- A source is pulled through some delays up to one more report. -/
theorem drew_pull {result : Except JoinError (Option Batch)} (h : pull side s = (result, t)) :
    ∃ n report, Drew s t (List.replicate n (.pulled .notYet) ++ [.pulled report]) ∧
      Reports s report result := by
  fun_induction pull side s with
  | case1 s u hnext =>
    exact ⟨0, .batch, (drew_of_next hnext).trans (drew_takeReported h),
      reports_of_batch _ hnext (.inl rfl)⟩
  | case2 s u hnext =>
    exact ⟨0, .newSchema, (drew_of_next hnext).trans (drew_takeReported h),
      reports_of_batch _ hnext (.inr rfl)⟩
  | case3 s u hnext hleft ih =>
    -- the source stalls, and is pulled again
    obtain ⟨n, report, hdrew, hreports⟩ := ih h
    exact ⟨n + 1, report, (drew_of_next hnext).trans hdrew, .of_notYet hnext hleft hreports⟩
  | case4 s u hnext hstuck =>
    cases h
    exact ⟨0, .notYet, drew_of_next hnext, reports_of_stuck hnext hstuck⟩
  | case5 s u hnext =>
    cases h
    exact ⟨0, .ended, drew_of_next hnext, reports_of_ended hnext⟩
  | case6 s u hnext cause v hcause =>
    cases h
    exact ⟨0, .failed, (drew_of_next hnext).trans (drew_of_takeFailure hcause),
      reports_of_failed hnext _⟩
  | case7 s u hnext v hcause =>
    cases h
    exact ⟨0, .failed, (drew_of_next hnext).trans (drew_of_takeFailure hcause),
      reports_of_failed hnext _⟩

/-- What a pull adds is settled, and goes on if there is a batch. -/
theorem settled_of_pull {result : Except JoinError (Option Batch)} (h : pull side s = (result, t)) :
    ∃ events, Drew s t events ∧ events ≠ [] ∧ Settled events ∧
      ∀ b, result = .ok (some b) → Ongoing events := by
  obtain ⟨n, report, hdrew, hreports⟩ := drew_pull h
  refine ⟨_, hdrew, List.append_ne_nil_of_right_ne_nil _ (List.cons_ne_nil _ _), ?_, ?_⟩
  · exact (settled_append_of_ongoing (ongoing_delays n)).mpr (settled_singleton _)
  · intro b hb
    refine (ongoing_delays n).append ?_
    intro event hevent
    rw [List.mem_singleton.mp hevent]
    exact hreports.batch b hb

/-! ### Reading a source to its end -/

/-- The build source is pulled at least once more, and no more once it has ended or failed. -/
theorem drew_drain {config : Config} {probeSchema : Option Schema} {l l' : Loading}
    {result : Except JoinError Unit} (h : l.drain config probeSchema s = (result, t, l')) :
    ∃ events, Drew s t events ∧ events ≠ [] ∧ Settled events := by
  fun_induction Loading.drain config probeSchema s l with
  | case1 s l e u hpull =>
    cases h
    obtain ⟨events, hdrew, hne, hsettled, -⟩ := settled_of_pull hpull
    exact ⟨events, hdrew, hne, hsettled⟩
  | case2 s l u hpull =>
    cases h
    obtain ⟨events, hdrew, hne, hsettled, -⟩ := settled_of_pull hpull
    exact ⟨events, hdrew, hne, hsettled⟩
  | case3 s l b u hpull _ e l₁ hacc =>
    cases h
    obtain ⟨events, hdrew, hne, hsettled, -⟩ := settled_of_pull hpull
    exact ⟨events, hdrew, hne, hsettled⟩
  | case4 s l b u hpull _ l₁ hacc ih =>
    obtain ⟨events, hdrew, hne, -, hongoing⟩ := settled_of_pull hpull
    obtain ⟨later, hlater, -, hsettled⟩ := ih h
    exact ⟨events ++ later, hdrew.trans hlater, List.append_ne_nil_of_left_ne_nil hne _,
      (settled_append_of_ongoing (hongoing b rfl)).mpr hsettled⟩

/-- The probe source is pulled no more once it has ended or failed. -/
theorem drew_drainProbe {result : Except JoinError Unit}
    (h : Operator.drainProbe s = (result, t)) : ∃ events, Drew s t events ∧ Settled events := by
  fun_induction Operator.drainProbe s with
  | case1 s e u hpull =>
    cases h
    obtain ⟨events, hdrew, -, hsettled, -⟩ := settled_of_pull hpull
    exact ⟨events, hdrew, hsettled⟩
  | case2 s u hpull =>
    cases h
    obtain ⟨events, hdrew, -, hsettled, -⟩ := settled_of_pull hpull
    exact ⟨events, hdrew, hsettled⟩
  | case3 s b u hpull _ ih =>
    obtain ⟨events, hdrew, -, -, hongoing⟩ := settled_of_pull hpull
    obtain ⟨later, hlater, hsettled⟩ := ih h
    exact ⟨events ++ later, hdrew.trans hlater,
      (settled_append_of_ongoing (hongoing b rfl)).mpr hsettled⟩

/-! ### A supply of batches -/

/-- Something is taken from a source that may have been done with. There is nothing behind an end or a
failure, and if all is well, the source goes on unless it is done with. -/
structure Supplied (closed closed' : Bool) (events : List Treatment) (well : Prop) : Prop where
  /-- A source that is done with is left alone. -/
  closed : closed = true → events = [] ∧ closed' = true
  /-- There is no pull behind an end or a failure. -/
  settled : Settled events
  /-- A source that is not done with goes on. -/
  ongoing : well → closed' = false → Ongoing events

variable {closed closed' closed'' : Bool} {events events' : List Treatment} {well well' : Prop}

omit [BatchSource σ] in
theorem Supplied.refl (closed : Bool) (well : Prop) : Supplied closed closed [] well :=
  ⟨fun h => ⟨rfl, h⟩, settled_nil, fun _ _ => ongoing_nil⟩

omit [BatchSource σ] in
theorem Supplied.mono (h : Supplied closed closed' events well) (himp : well' → well) :
    Supplied closed closed' events well' :=
  ⟨h.closed, h.settled, fun hwell => h.ongoing (himp hwell)⟩

omit [BatchSource σ] in
theorem Supplied.trans (h : Supplied closed closed' events True)
    (h' : Supplied closed' closed'' events' well) :
    Supplied closed closed'' (events ++ events') well := by
  refine ⟨?_, ?_, ?_⟩
  · intro hclosed
    obtain ⟨rfl, hmiddle⟩ := h.closed hclosed
    obtain ⟨rfl, hlast⟩ := h'.closed hmiddle
    exact ⟨rfl, hlast⟩
  · cases closed' with
    | true =>
      obtain ⟨rfl, -⟩ := h'.closed rfl
      rw [List.append_nil]
      exact h.settled
    | false => exact (settled_append_of_ongoing (h.ongoing trivial rfl)).mpr h'.settled
  · intro hwell hlast
    cases closed' with
    | true => cases (h'.closed rfl).2.symm.trans hlast
    | false => exact (h.ongoing trivial rfl).append (h'.ongoing hwell hlast)

omit [BatchSource σ] in
/-- Whatever is closed in the end need not go on. -/
theorem Supplied.close (h : Supplied closed closed' events well) (well' : Prop) :
    Supplied closed true events well' :=
  ⟨fun hclosed => ⟨(h.closed hclosed).1, rfl⟩, h.settled, nofun⟩

variable {supply supply' : Supply}

theorem supplied_fetch {result : Except JoinError (Option Batch)}
    (h : supply.fetch s = (result, supply', t)) : ∃ events, Drew s t events ∧
      Supplied supply.exhausted supply'.exhausted events (∃ r, result = .ok r) := by
  unfold Supply.fetch at h
  split at h
  · cases h
    exact ⟨[], .refl _, .refl _ _⟩
  · split at h
    · cases h
      exact ⟨[], .refl _, .refl _ _⟩
    · next hmore =>
      split at h
      · next hpull =>
        cases h
        obtain ⟨events, hdrew, -, hsettled, -⟩ := settled_of_pull hpull
        exact ⟨events, hdrew, fun hclosed => absurd hclosed hmore, hsettled,
          fun ⟨_, hok⟩ => (by cases hok)⟩
      · next hpull =>
        cases h
        obtain ⟨events, hdrew, -, hsettled, -⟩ := settled_of_pull hpull
        exact ⟨events, hdrew, fun hclosed => absurd hclosed hmore, hsettled, fun _ => nofun⟩
      · next hpull =>
        cases h
        obtain ⟨events, hdrew, -, hsettled, hongoing⟩ := settled_of_pull hpull
        exact ⟨events, hdrew, fun hclosed => absurd hclosed hmore, hsettled,
          fun _ _ => hongoing _ rfl⟩

theorem exhausted_of_inspect {b : Batch} (h : supply.inspect b = .ok supply') :
    supply'.exhausted = supply.exhausted := by
  unfold Supply.inspect at h
  split at h
  · cases h
  · split at h
    · cases h
      rfl
    · split at h
      · cases h
        rfl
      · cases h

theorem supplied_nextBatch {result : Except JoinError (Option Batch)} {metrics metrics' : Metrics}
    (h : supply.nextBatch s metrics = (result, supply', t, metrics')) : ∃ events, Drew s t events ∧
      Supplied supply.exhausted supply'.exhausted events (∃ r, result = .ok r) := by
  fun_induction Supply.nextBatch supply s metrics with
  | case1 supply s e supply₁ u hfetch =>
    cases h
    exact supplied_fetch hfetch
  | case2 supply s supply₁ u hfetch =>
    cases h
    exact supplied_fetch hfetch
  | case3 supply s b supply₁ u hfetch _ _ ih =>
    -- a batch without rows is passed over
    obtain ⟨events, hdrew, hsupplied⟩ := supplied_fetch hfetch
    obtain ⟨later, hlater, hsupplied'⟩ := ih h
    exact ⟨events ++ later, hdrew.trans hlater, (hsupplied.mono fun _ => ⟨_, rfl⟩).trans hsupplied'⟩
  | case4 supply s b supply₁ u hfetch _ _ e hinspect =>
    cases h
    obtain ⟨events, hdrew, hsupplied⟩ := supplied_fetch hfetch
    exact ⟨events, hdrew, hsupplied.mono fun _ => ⟨_, rfl⟩⟩
  | case5 supply s b supply₁ u hfetch _ _ supply₂ hinspect =>
    cases h
    obtain ⟨events, hdrew, hsupplied⟩ := supplied_fetch hfetch
    refine ⟨events, hdrew, ?_⟩
    rw [exhausted_of_inspect hinspect]
    exact hsupplied.mono fun _ => ⟨_, rfl⟩

/-! ### Output batches -/

variable {table : Option SlotTable} {store : BuildStore} {p q : Probe} {metrics metrics' : Metrics}
  {out out' : Emission}

theorem supplied_probeInput {result : Except JoinError Unit}
    (h : p.probeInput table store s metrics out = (result, q, t, metrics', out')) :
    ∃ events, Drew s t events ∧
      Supplied p.supply.exhausted q.supply.exhausted events (result = .ok ()) := by
  fun_induction Probe.probeInput table store p s metrics out with
  | case1 p s metrics out e q₁ out₁ hworked =>
    cases h
    rw [Probe.supply_of_probeCurrent hworked]
    exact ⟨[], .refl _, .refl _ _⟩
  | case2 p s metrics out q₁ out₁ hworked hfull =>
    cases h
    rw [Probe.supply_of_probeCurrent hworked]
    exact ⟨[], .refl _, .refl _ _⟩
  | case3 p s metrics out q₁ out₁ hworked hroom e supply u metrics₁ hfetch =>
    cases h
    rw [← Probe.supply_of_probeCurrent hworked]
    obtain ⟨events, hdrew, hsupplied⟩ := supplied_nextBatch hfetch
    exact ⟨events, hdrew, hsupplied.mono nofun⟩
  | case4 p s metrics out q₁ out₁ hworked hroom supply u metrics₁ hfetch =>
    cases h
    rw [← Probe.supply_of_probeCurrent hworked]
    obtain ⟨events, hdrew, hsupplied⟩ := supplied_nextBatch hfetch
    exact ⟨events, hdrew, hsupplied.mono fun _ => ⟨_, rfl⟩⟩
  | case5 p s metrics out q₁ out₁ hworked hroom b supply u metrics₁ hfetch =>
    rename_i ih
    rw [← Probe.supply_of_probeCurrent hworked]
    obtain ⟨events, hdrew, hsupplied⟩ := supplied_nextBatch hfetch
    obtain ⟨later, hlater, hsupplied'⟩ := ih h
    exact ⟨events ++ later, hdrew.trans hlater, (hsupplied.mono fun _ => ⟨_, rfl⟩).trans hsupplied'⟩

theorem supplied_probeStage {result : Except JoinError Unit}
    (h : p.probeStage table store s metrics out = (result, q, t, metrics', out')) :
    ∃ events, Drew s t events ∧
      Supplied p.supply.exhausted q.supply.exhausted events (result = .ok ()) := by
  unfold Probe.probeStage at h
  split at h
  · exact supplied_probeInput h
  · cases h
    exact ⟨[], .refl _, .refl _ _⟩
  · cases h
    exact ⟨[], .refl _, .refl _ _⟩

theorem supplied_fill {result : Except JoinError Unit}
    (h : p.fill table store s metrics out = (result, q, t, metrics', out')) :
    ∃ events, Drew s t events ∧
      Supplied p.supply.exhausted q.supply.exhausted events (result = .ok ()) := by
  simp only [Probe.fill] at h
  rcases hstage : p.probeStage table store s metrics out with ⟨result₁, p₁, t₁, metrics₁, out₁⟩
  rw [hstage] at h
  obtain ⟨events, hdrew, hsupplied⟩ := supplied_probeStage hstage
  -- the sweep over the unmatched build rows needs no source
  split at h
  · next hok _ =>
    cases h
    exact ⟨events, hdrew, hsupplied.mono fun _ => hok⟩
  · cases h
    exact ⟨events, hdrew, hsupplied⟩

/-- An output batch takes from the probe source what it needs. -/
theorem supplied_nextOutput {ledger ledger' : MatchLedger} {result : Except JoinError (Option Batch)}
    (h : p.nextOutput table store ledger s metrics = (result, q, ledger', t, metrics')) :
    ∃ events, Drew s t events ∧
      Supplied p.supply.exhausted q.supply.exhausted events (∃ r, result = .ok r) := by
  unfold Probe.nextOutput at h
  split at h
  · cases h
    exact ⟨[], .refl _, .refl _ _⟩
  · split at h
    · next hfill =>
      cases h
      obtain ⟨events, hdrew, hsupplied⟩ := supplied_fill hfill
      exact ⟨events, hdrew, hsupplied.mono fun ⟨_, hok⟩ => by cases hok⟩
    · next hfill =>
      cases h
      obtain ⟨events, hdrew, hsupplied⟩ := supplied_fill hfill
      exact ⟨events, hdrew, hsupplied.mono fun _ => rfl⟩

end Watched
end HashJoin
