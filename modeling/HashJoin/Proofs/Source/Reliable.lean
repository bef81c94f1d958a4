import HashJoin.Proofs.Column.Shape
import HashJoin.Proofs.Source.Delivery

/-!
# Reliable sources

A source is reliable if it has a batch whenever it reports one, and the columns of that batch are what
they claim to be, whatever is done to the source before. Nothing else is asked of it: it may stall, end
or fail at any time, with or without a cause, and it may report batches with a selection or of any
schema.

## Main definitions

* `BatchSource.Reaches` — the states that a source can come to.
* `BatchSource.Reliable` — a source that has what it reports.
* `BatchSource.Gives` — the causes that a source can give for a failure.
* `BatchSource.Breaks` — the errors that a source can break off with.

## Main results

* `delivers_of_reliable`, `loads_of_reliable` — what such a source delivers.
* `Script.reliable` — a script of batches that are what they claim to be.
-/

namespace HashJoin
namespace BatchSource

variable {σ : Type} [BatchSource σ] {s t u : σ} {side : Side}

/-- A source comes to a state by calls. -/
inductive Reaches (s : σ) : σ → Prop
  /-- Nothing is done. -/
  | refl : Reaches s s
  /-- A pull. -/
  | next {t : σ} (h : Reaches s t) : Reaches s (BatchSource.next t).2
  /-- The batch is taken. -/
  | takeBatch {t : σ} (h : Reaches s t) : Reaches s (BatchSource.takeBatch t).2
  /-- The cause of a failure is taken. -/
  | takeFailure {t : σ} (h : Reaches s t) : Reaches s (BatchSource.takeFailure t).2
  /-- A kill. -/
  | kill {t : σ} (propagate : Bool) (h : Reaches s t) : Reaches s (BatchSource.kill propagate t)
  /-- The source is let go. -/
  | dispose {t : σ} (h : Reaches s t) : Reaches s (BatchSource.dispose t)

theorem Reaches.trans (h : Reaches s t) (h' : Reaches t u) : Reaches s u := by
  induction h' with
  | refl => exact h
  | next _ ih => exact .next ih
  | takeBatch _ ih => exact .takeBatch ih
  | takeFailure _ ih => exact .takeFailure ih
  | kill propagate _ ih => exact .kill propagate ih
  | dispose _ ih => exact .dispose ih

/-- The columns of a batch are what they claim to be. It may have a selection. -/
def HasColumns (b : Batch) : Prop := Column.WellFormedAll b.rowCount b.columns

/-- Whatever is done to the source, it has a batch when it reports one, and the columns of the batch are
what they claim to be. -/
structure Reliable (s : σ) : Prop where
  /-- The batch that is reported. -/
  batch : ∀ t, Reaches s t →
    (BatchSource.next t).1 = .batch ∨ (BatchSource.next t).1 = .newSchema →
      ∃ b, (BatchSource.takeBatch (BatchSource.next t).2).1 = some b ∧ HasColumns b

theorem Reliable.of_reaches (h : Reliable s) (ht : Reaches s t) : Reliable t :=
  ⟨fun u hu => h.batch u (ht.trans hu)⟩

/-- The source gives this cause for a failure, at some time. -/
def Gives (s : σ) (e : JoinError) : Prop := ∃ t, Reaches s t ∧ (BatchSource.takeFailure t).1 = some e

/-- The errors that a source can break off with: the causes that it gives, and that there is none. -/
inductive Breaks (side : Side) (s : σ) : JoinError → Prop
  /-- The source gives a cause. -/
  | cause {e : JoinError} (h : Gives s e) : Breaks side s e
  /-- The source gives no cause. -/
  | noCause (detail : String) : Breaks side s (.sourceFailed side detail)

theorem Breaks.of_reaches {e : JoinError} (ht : Reaches s t) (h : Breaks side t e) :
    Breaks side s e := by
  cases h with
  | cause h =>
    obtain ⟨u, hu, hcause⟩ := h
    exact .cause ⟨u, ht.trans hu, hcause⟩
  | noCause detail => exact .noCause detail

/-- A batch that was reported is there when it is taken. -/
theorem takeReported_of_reliable (side : Side) (left : Nat) (h : Reliable s)
    (hreport : (BatchSource.next s).1 = .batch ∨ (BatchSource.next s).1 = .newSchema) :
    ∃ b, HasColumns b ∧ takeReported side left (BatchSource.next s).2 =
      (.ok (if pullsLeft (BatchSource.takeBatch (BatchSource.next s).2).2 < left then some b else none),
        (BatchSource.takeBatch (BatchSource.next s).2).2) := by
  obtain ⟨b, htake, hcolumns⟩ := h.batch s .refl hreport
  refine ⟨b, hcolumns, ?_⟩
  unfold takeReported
  split
  · next b' t hb =>
    rw [hb] at htake
    cases htake
    rw [hb]
  · next t hb =>
    rw [hb] at htake
    cases htake

/-- Pulling a reliable source gives a batch whose columns are what they claim to be, the end, or an
error that the source breaks off with. -/
theorem pull_of_reliable (h : Reliable s) {result : Except JoinError (Option Batch)}
    (hpull : pull side s = (result, t)) : Reaches s t ∧
      (∀ b, result = .ok (some b) → HasColumns b) ∧ ∀ e, result = .error e → Breaks side s e := by
  have hreported : ∀ {s t : σ} {left : Nat} {result : Except JoinError (Option Batch)}, Reliable s →
      (BatchSource.next s).1 = .batch ∨ (BatchSource.next s).1 = .newSchema →
      takeReported side left (BatchSource.next s).2 = (result, t) → Reaches s t ∧
        (∀ b, result = .ok (some b) → HasColumns b) ∧ ∀ e, result = .error e → Breaks side s e := by
    intro s t left result h hreport htake
    obtain ⟨b, hcolumns, heq⟩ := takeReported_of_reliable side left h hreport
    rw [heq] at htake
    cases htake
    refine ⟨.takeBatch (.next .refl), ?_, ?_⟩
    · intro b' hb'
      split at hb'
      · cases hb'
        exact hcolumns
      · cases hb'
    · intro e he
      cases he
  fun_induction pull side s with
  | case1 s t₁ hnext => exact hreported h (.inl (by rw [hnext])) (by rw [hnext]; exact hpull)
  | case2 s t₁ hnext => exact hreported h (.inr (by rw [hnext])) (by rw [hnext]; exact hpull)
  | case3 s t₁ hnext _ ih =>
    -- the source stalls, and is pulled again
    have hreach : Reaches s t₁ := by
      have := Reaches.next (s := s) .refl
      rw [hnext] at this
      exact this
    obtain ⟨hreach', hbatch, herror⟩ := ih (h.of_reaches hreach) hpull
    exact ⟨hreach.trans hreach', hbatch, fun e he => (herror e he).of_reaches hreach⟩
  | case4 s t₁ hnext _ =>
    cases hpull
    have hreach := Reaches.next (s := s) .refl
    rw [hnext] at hreach
    exact ⟨hreach, fun b hb => (by cases hb), fun e he => (by cases he)⟩
  | case5 s t₁ hnext =>
    cases hpull
    have hreach := Reaches.next (s := s) .refl
    rw [hnext] at hreach
    exact ⟨hreach, fun b hb => (by cases hb), fun e he => (by cases he)⟩
  | case6 s t₁ hnext cause t₂ hcause =>
    cases hpull
    have hreach := Reaches.next (s := s) .refl
    rw [hnext] at hreach
    have hreach' := Reaches.takeFailure hreach
    rw [hcause] at hreach'
    refine ⟨hreach', fun b hb => (by cases hb), ?_⟩
    intro e he
    cases he
    exact .cause ⟨t₁, hreach, by rw [hcause]⟩
  | case7 s t₁ hnext t₂ hcause =>
    cases hpull
    have hreach := Reaches.takeFailure (Reaches.next (s := s) .refl)
    rw [hnext, hcause] at hreach
    refine ⟨hreach, fun b hb => (by cases hb), ?_⟩
    intro e he
    cases he
    exact .noCause _

/-- What a reliable source delivers has columns that are what they claim to be. -/
theorem delivers_of_reliable {batches : List Batch} {ending : Option JoinError} (h : Reliable s)
    (hdelivers : Delivers side s batches ending t) :
    (∀ b ∈ batches, HasColumns b) ∧ ∀ e, ending = some e → Breaks side s e := by
  induction hdelivers with
  | ended hpull => exact ⟨nofun, nofun⟩
  | broken hpull =>
    obtain ⟨-, -, herror⟩ := pull_of_reliable h hpull
    refine ⟨nofun, ?_⟩
    intro e he
    cases he
    exact herror _ rfl
  | batch hpull _ ih =>
    obtain ⟨hreach, hbatch, -⟩ := pull_of_reliable h hpull
    obtain ⟨hbatches, hending⟩ := ih (h.of_reaches hreach)
    refine ⟨?_, fun e he => (hending e he).of_reaches hreach⟩
    intro b hb
    rcases List.mem_cons.mp hb with rfl | hb
    · exact hbatch b rfl
    · exact hbatches b hb

/-- What the build phase gets from a reliable source has columns that are what they claim to be. -/
theorem loads_of_reliable {batches : List Batch} {ending : Option JoinError} (h : Reliable s)
    (hloads : Loads s batches ending t) :
    (∀ b ∈ batches, HasColumns b) ∧ ∀ e, ending = some e → Breaks .build s e := by
  cases hloads with
  | broken hpull =>
    obtain ⟨-, -, herror⟩ := pull_of_reliable h hpull
    refine ⟨nofun, ?_⟩
    intro e he
    cases he
    exact herror _ rfl
  | @pulled _ _ first rest _ hpull hrest =>
    obtain ⟨hreach, hbatch, -⟩ := pull_of_reliable h hpull
    obtain ⟨hbatches, hending⟩ := delivers_of_reliable (h.of_reaches hreach) hrest
    refine ⟨?_, fun e he => (hending e he).of_reaches hreach⟩
    intro b hb
    rcases List.mem_append.mp hb with hb | hb
    · rw [Option.mem_toList] at hb
      exact hbatch b (by rw [hb])
    · exact hbatches b hb

end BatchSource

/-! ### Scripts -/

namespace Script

open BatchSource

theorem current_report (s : Script) (b : Batch) (rest : List ScriptStep) :
    (s.report b rest).2.current = some b ∧ (s.report b rest).2.steps = rest := by
  simp only [report]
  split
  · exact ⟨rfl, rfl⟩
  · exact ⟨rfl, rfl⟩

/-- A pull that reports a batch takes it from the steps, and any pull leaves the others. -/
theorem stream_next (s : Script) :
    ((Script.next s).1 = .batch ∨ (Script.next s).1 = .newSchema →
      ∃ b ∈ s.stream, (Script.next s).2.current = some b) ∧
    ∀ b ∈ (Script.next s).2.stream, b ∈ s.stream := by
  simp only [Script.next, stream]
  split
  · exact ⟨fun hreport => by simp at hreport, fun _ hb => hb⟩
  · cases s.steps with
    | nil => exact ⟨fun hreport => by simp at hreport, fun _ hb => hb⟩
    | cons step rest =>
      cases step with
      | batch b =>
        obtain ⟨hcurrent, hsteps⟩ := current_report s b rest
        refine ⟨fun _ => ⟨b, List.mem_cons_self, hcurrent⟩, fun c hc => List.mem_cons_of_mem _ ?_⟩
        rw [← hsteps]
        exact hc
      | notYet => exact ⟨fun hreport => by simp at hreport, fun _ hb => hb⟩
      | fail cause => exact ⟨fun hreport => by simp at hreport, fun _ hb => hb⟩

/-- A script of batches whose columns are what they claim to be is reliable. -/
theorem reliable {s : Script} (h : ∀ b ∈ s.stream, HasColumns b) : Reliable s := by
  have hreached : ∀ t, Reaches s t → ∀ b ∈ t.stream, HasColumns b := by
    intro t ht
    induction ht with
    | refl => exact h
    | next _ ih => exact fun b hb => ih b ((stream_next _).2 b hb)
    | takeBatch _ ih => exact ih
    | takeFailure _ ih => exact ih
    | kill _ _ ih => exact ih
    | dispose _ ih => exact ih
  refine ⟨fun t ht hreport => ?_⟩
  obtain ⟨b, hb, hcurrent⟩ := (stream_next t).1 hreport
  exact ⟨b, hcurrent, hreached t ht b hb⟩

end Script
end HashJoin
