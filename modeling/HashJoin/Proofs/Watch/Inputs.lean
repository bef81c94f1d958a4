import HashJoin.Proofs.Operator.Frames
import HashJoin.Proofs.Watch.Source

/-!
# What calls do to the inputs

The inputs of an operator are pulled while it goes on, and are killed once it has ended. The probe
source is pulled for the first batch, for every output batch, and to its end if there is no output; each
time the operator knows whether the source has ended. The build source is pulled in the first call only.

## Main definitions

* `Operator.inputs` — the inputs of an operator over watched sources, with the log of their kills.
* `Stage.isClosed` — whether the probe source is done with.
* `Operator.Advances` — how a pull of an operator treats the inputs.
* `Operator.Overdraws` — how the build source is treated.

## Main results

* `inputs_tearDown`, `inputs_kill`, `inputs_close` — the end of an operator.
* `overdraws_of_fillBuild` — the build source is pulled in advance, and then to its end.
* `advances_of_unstarted`, `advances_of_probing` — a pull of an operator that has not ended.
-/

namespace HashJoin

open BatchSource

/-- Whether the probe source is not pulled any more. -/
def Stage.isClosed : Stage → Bool
  | unstarted => false
  | probing p => p.supply.exhausted
  | done | failed => true

theorem Stage.isClosed_of_isTerminal {stage : Stage} (h : stage.isTerminal = true) :
    stage.isClosed = true := by
  cases stage with
  | unstarted => cases h
  | probing p => cases h
  | done => rfl
  | failed => rfl

namespace Operator

/-- The inputs of an operator, and the log of their kills. -/
structure Inputs (P B : Type) where
  /-- The probe source. -/
  probe : Watched P
  /-- The build source. -/
  build : Watched B
  /-- The kills so far. -/
  log : List KillSignal
  /-- Whether the inputs have been killed, or are to be left alone. -/
  settled : Bool

variable {P B : Type}

/-- The inputs of an operator over watched sources. -/
def inputs (w : Operator (Watched P) (Watched B)) : Inputs P B :=
  ⟨w.probe, w.build, w.killLog, w.inputsSettled⟩

namespace Inputs

variable {i j k : Inputs P B} {probed probed' built built' : List Treatment}

/-- The inputs are pulled. -/
structure Drew (i j : Inputs P B) (probed built : List Treatment) : Prop where
  /-- The pulls of the probe source. -/
  probe : Watched.Drew i.probe j.probe probed
  /-- The pulls of the build source. -/
  build : Watched.Drew i.build j.build built
  /-- A pull is no kill. -/
  log : j.log = i.log
  /-- The inputs are left as open as they were. -/
  settled : j.settled = i.settled

theorem Drew.refl (i : Inputs P B) : Drew i i [] [] := ⟨.refl _, .refl _, rfl, rfl⟩

theorem Drew.trans (h : Drew i j probed built) (h' : Drew j k probed' built') :
    Drew i k (probed ++ probed') (built ++ built') :=
  ⟨h.probe.trans h'.probe, h.build.trans h'.build, h'.log.trans h.log, h'.settled.trans h.settled⟩

variable [BatchSource P] [BatchSource B]

/-- Both inputs are killed, the probe source first, unless they are settled. -/
def kill (i : Inputs P B) : Inputs P B :=
  if i.settled then i
  else ⟨BatchSource.kill true i.probe, BatchSource.kill true i.build,
    i.log ++ [⟨i.probe.label, true⟩, ⟨i.build.label, true⟩], true⟩

theorem kill_of_settled (h : i.settled = true) : i.kill = i := if_pos h

end Inputs

section Signals

variable {σ : Type} [BatchSource σ]

/-- What a source is sent is all that is new in its log. -/
theorem drop_signals_kill (s : Watched σ) (propagate : Bool) :
    (BatchSource.killLog (BatchSource.kill propagate s)).drop (BatchSource.killLog s).length =
      [⟨s.label, propagate⟩] := by
  have hlog : (BatchSource.kill propagate s).signals = s.signals ++ [⟨s.label, propagate⟩] :=
    List.filterMap_append ..
  change ((BatchSource.kill propagate s).signals).drop s.signals.length = _
  rw [hlog, List.drop_left]

theorem drop_signals_of_drew {s t : Watched σ} {events : List Treatment} (h : Watched.Drew s t events) :
    (BatchSource.killLog t).drop (BatchSource.killLog s).length = [] := by
  have hlog : BatchSource.killLog t = BatchSource.killLog s := h.signals
  rw [hlog, List.drop_length]

end Signals

variable [BatchSource P] [BatchSource B] {w w' : Operator (Watched P) (Watched B)}
  {probed built events : List Treatment}

omit [BatchSource B] in
theorem drew_setProbe {s : Watched P} (h : Watched.Drew w.probe s events) :
    w.inputs.Drew (w.setProbe s).inputs events [] := by
  refine ⟨h, .refl _, ?_, rfl⟩
  change w.killLog ++ _ = w.killLog
  rw [drop_signals_of_drew h, List.append_nil]

omit [BatchSource P] in
theorem drew_setBuild {s : Watched B} (h : Watched.Drew w.build s events) :
    w.inputs.Drew (w.setBuild s).inputs [] events := by
  refine ⟨.refl _, h, ?_, rfl⟩
  change w.killLog ++ _ = w.killLog
  rw [drop_signals_of_drew h, List.append_nil]

/-! ### The end -/

theorem inputs_tearDown (w : Operator (Watched P) (Watched B)) : w.tearDown.inputs = w.inputs.kill := by
  have hrelease : w.release.inputs = w.inputs := by
    unfold release
    split <;> rfl
  rw [← hrelease, tearDown]
  unfold killInputs Inputs.kill
  split
  · next h => rw [if_pos (by exact h)]
  · next h =>
    rw [if_neg (by exact h)]
    simp only [inputs, setBuild, setProbe, drop_signals_kill, List.append_assoc, List.cons_append,
      List.nil_append]

theorem inputs_finish (w : Operator (Watched P) (Watched B)) : w.finish.inputs = w.inputs.kill :=
  inputs_tearDown _

theorem inputs_fail (w : Operator (Watched P) (Watched B)) (cause : JoinError) :
    (w.fail cause).inputs = w.inputs.kill := inputs_tearDown _

theorem inputs_close (w : Operator (Watched P) (Watched B)) : w.close.inputs = w.inputs.kill := by
  unfold close
  rw [inputs_tearDown]
  split <;> rfl

/-- A kill that is not to propagate settles the inputs, and leaves them alone. -/
theorem inputs_kill (w : Operator (Watched P) (Watched B)) (propagate : Bool) :
    (w.kill propagate).inputs = if propagate then w.inputs.kill else { w.inputs with settled := true } := by
  unfold kill
  rw [inputs_tearDown]
  cases propagate with
  | true => cases w.stage.isTerminal <;> rfl
  | false => cases w.stage.isTerminal <;> rfl

/-! ### Output batches -/

/-- An operator that has not ended is pulled: its inputs are pulled, and then killed if that was the
end. The probe source is not pulled behind its end or a failure. -/
structure Advances (w w' : Operator (Watched P) (Watched B)) (built : List Treatment) : Prop where
  /-- The pulls of the inputs, and their kills at the end. -/
  inputs : ∃ drawn probed, w.inputs.Drew drawn probed built ∧
    w'.inputs = (if w'.stage.isTerminal then drawn.kill else drawn) ∧
    Watched.Supplied w.stage.isClosed w'.stage.isClosed probed True
  /-- The operator has been pulled. -/
  stage : w'.stage ≠ .unstarted

/-- Whatever ends an operator kills its inputs. -/
theorem Advances.ended {drawn : Inputs P B} (h : w.inputs.Drew drawn probed built)
    (hsupplied : Watched.Supplied w.stage.isClosed true probed True)
    (hend : w'.stage.isTerminal = true) (hinputs : w'.inputs = drawn.kill) : w.Advances w' built := by
  refine ⟨⟨drawn, probed, h, ?_, ?_⟩, ?_⟩
  · rw [if_pos hend]
    exact hinputs
  · rw [Stage.isClosed_of_isTerminal hend]
    exact hsupplied
  · intro hnew
    rw [hnew] at hend
    cases hend

theorem Advances.fail (h : w.inputs.Drew w'.inputs probed built)
    (hsupplied : Watched.Supplied w.stage.isClosed true probed True) (cause : JoinError) :
    w.Advances (w'.fail cause) built :=
  .ended h hsupplied (by rw [stage_fail]; rfl) (inputs_fail w' cause)

theorem advances_pullOutput {p : Probe} (hstage : w.stage = .probing p) :
    w.Advances (w.pullOutput p).2 [] := by
  rcases hout : p.nextOutput w.side.table w.side.store w.side.ledger w.probe w.metrics with
    ⟨result, q, ledger, s, metrics⟩
  obtain ⟨probed, hdrew, hsupplied⟩ := Watched.supplied_nextOutput hout
  have hdrawn : w.inputs.Drew
      (w.resume q ⟨w.side.table, ledger, w.side.store⟩ s metrics).inputs probed [] := drew_setProbe hdrew
  have hclosed : w.stage.isClosed = p.supply.exhausted := by
    rw [hstage]
    rfl
  rw [← hclosed] at hsupplied
  rw [pullOutput_eq hout]
  rcases result with e | _ | batch
  · exact .fail hdrawn (hsupplied.close True) e
  · exact .ended hdrawn (hsupplied.close True) (by rw [deliver, stage_finish]; rfl) (inputs_finish _)
  · exact ⟨⟨_, probed, hdrawn, rfl, hsupplied.mono fun _ => ⟨_, rfl⟩⟩, nofun⟩

/-! ### The first pull -/

/-- The history of a build source. It is pulled in advance and then to its end, without asking whether
the first pull was the end, so no pull comes behind an end but one. -/
structure Overdraws (source : B) (history : List Treatment) : Prop where
  /-- That is a pull behind an end that came at once. -/
  settled : Settled history ↔ ¬(EndsAtOnce source ∧ ∃ event ∈ history, event.isPull = true)
  /-- Without that end there is none. -/
  erase : Settled (history.erase (.pulled .ended))

theorem Overdraws.nil (source : B) : Overdraws source [] :=
  ⟨⟨fun _ ⟨_, _, hnone, _⟩ => (by cases hnone), fun _ => settled_nil⟩, settled_nil⟩

/-- A source that does not end at once is left alone behind its end. -/
theorem Overdraws.of_settled {source : B} (hsettled : Settled events) (hmore : ¬EndsAtOnce source) :
    Overdraws source events :=
  ⟨⟨fun _ h => hmore h.1, fun _ => hsettled⟩, List.Pairwise.sublist List.erase_sublist hsettled⟩

/-- A kill is no pull. -/
theorem Overdraws.killed {source : B} {history : List Treatment} (h : Overdraws source history)
    (propagate : Bool) : Overdraws source (history ++ [.killed propagate]) := by
  refine ⟨?_, ?_⟩
  · rw [settled_append_killed, h.settled]
    have hpulls : (∃ event ∈ history ++ [.killed propagate], event.isPull = true) ↔
        ∃ event ∈ history, event.isPull = true := by
      constructor
      · rintro ⟨event, hevent, hpull⟩
        rcases List.mem_append.mp hevent with hevent | hevent
        · exact ⟨event, hevent, hpull⟩
        · rw [List.mem_singleton.mp hevent] at hpull
          cases hpull
      · rintro ⟨event, hevent, hpull⟩
        exact ⟨event, List.mem_append_left _ hevent, hpull⟩
    rw [hpulls]
  · by_cases hended : .pulled .ended ∈ history
    · rw [List.erase_append_left _ hended, settled_append_killed]
      exact h.erase
    · rw [List.erase_append_right _ hended, List.erase_of_not_mem (by simp), settled_append_killed,
        ← List.erase_of_not_mem hended]
      exact h.erase

/-- A source that ends at once is pulled behind that end, but behind nothing else. -/
theorem Overdraws.behind {source : B} {later : List Treatment} (n : Nat) (hends : EndsAtOnce source)
    (hne : later ≠ []) (hpulls : ∀ event ∈ later, event.isPull = true) (hsettled : Settled later) :
    Overdraws source (List.replicate n (.pulled .notYet) ++ [.pulled .ended] ++ later) := by
  have hdelays := ongoing_delays n
  refine ⟨⟨fun hall => ?_, fun hall => absurd ⟨hends, .pulled .ended, by simp, rfl⟩ hall⟩, ?_⟩
  · rw [List.append_assoc, settled_append_of_ongoing hdelays] at hall
    obtain ⟨event, rest, rfl⟩ := List.exists_cons_of_ne_nil hne
    have hpull := hpulls event List.mem_cons_self
    rw [(List.pairwise_cons.mp hall).1 event List.mem_cons_self rfl] at hpull
    cases hpull
  · have hmem : Treatment.pulled .ended ∉ List.replicate n (Treatment.pulled .notYet) := by
      intro hmem
      cases List.eq_of_mem_replicate hmem
    rw [List.append_assoc, List.erase_append_right _ hmem, List.singleton_append,
      List.erase_cons_head, settled_append_of_ongoing hdelays]
    exact hsettled

/-- The build source is pulled in advance, and then again unless that pull failed. -/
theorem overdraws_of_pull {s t : Watched B} {result : Except JoinError (Option Batch)}
    {later : List Treatment} (h : pull .build s = (result, t)) (hsettled : Settled later)
    (hfailed : ∀ e, result = .error e → later = []) (hmore : result = .ok none → later ≠ [])
    (hpulls : ∀ event ∈ later, event.isPull = true) :
    ∃ events, Watched.Drew s t events ∧ Overdraws s.source (events ++ later) := by
  obtain ⟨n, report, hdrew, hreports⟩ := Watched.drew_pull h
  refine ⟨_, hdrew, ?_⟩
  have hdelays := ongoing_delays n
  cases hreport : report with
  | ended =>
    exact .behind n (hreports.ended.mp hreport) (hmore (hreports.none hreport)) hpulls hsettled
  | failed =>
    obtain ⟨e, he⟩ := hreports.failed hreport
    rw [hfailed e he, List.append_nil, ← hreport]
    refine Overdraws.of_settled ?_ fun hends => ?_
    · exact (settled_append_of_ongoing hdelays).mpr (settled_singleton _)
    · cases hreport.symm.trans (hreports.ended.mpr hends)
  | batch | newSchema | notYet =>
    refine Overdraws.of_settled ?_ fun hends => ?_
    · refine (settled_append_of_ongoing (hdelays.append ?_)).mpr hsettled
      intro event hevent
      rw [List.mem_singleton.mp hevent]
      rfl
    · cases hreport.symm.trans (hreports.ended.mpr hends)

theorem drew_fill {config : Config} {probeSchema : Option Schema} {first : Option Batch}
    {l l' : Loading} {s t : Watched B} {keys : Except JoinError JoinKeys}
    (h : l.fill config probeSchema first s = (keys, t, l')) :
    ∃ events, Watched.Drew s t events ∧ Settled events ∧ (first = none → events ≠ []) := by
  unfold Loading.fill at h
  split at h
  · next hfirst =>
    cases h
    refine ⟨[], .refl _, settled_nil, ?_⟩
    rintro rfl
    cases hfirst
  · split at h
    · next hdrain =>
      cases h
      obtain ⟨events, hdrew, hne, hsettled⟩ := Watched.drew_drain hdrain
      exact ⟨events, hdrew, hsettled, fun _ => hne⟩
    · next hdrain =>
      cases h
      obtain ⟨events, hdrew, hne, hsettled⟩ := Watched.drew_drain hdrain
      exact ⟨events, hdrew, hsettled, fun _ => hne⟩

omit [BatchSource B] in
theorem drew_pullProbe {result : Except JoinError (Option Batch)}
    (h : w.pullProbe = (result, w')) : ∃ probed, w.inputs.Drew w'.inputs probed [] ∧ Settled probed ∧
      (∀ b, result = .ok (some b) → Ongoing probed) ∧ w'.build = w.build := by
  rcases hpull : pull .probe w.probe with ⟨pulled, s⟩
  have h' : (pulled, w.setProbe s) = (result, w') := by
    rw [← h, pullProbe, hpull]
  cases h'
  obtain ⟨probed, hdrew, -, hsettled, hongoing⟩ := Watched.settled_of_pull hpull
  exact ⟨probed, drew_setProbe hdrew, hsettled, hongoing, rfl⟩

omit [BatchSource P] in
theorem pull_of_pullBuild {result : Except JoinError (Option Batch)}
    (h : w.pullBuild = (result, w')) : pull .build w.build = (result, w'.build) ∧
      ∀ built, Watched.Drew w.build w'.build built → w.inputs.Drew w'.inputs [] built := by
  rcases hpull : pull .build w.build with ⟨pulled, s⟩
  have h' : (pulled, w.setBuild s) = (result, w') := by
    rw [← h, pullBuild, hpull]
  cases h'
  exact ⟨rfl, fun built hdrew => drew_setBuild hdrew⟩

omit [BatchSource P] in
theorem drew_fillBuild {first : Option Batch} {probeSchema : Option Schema}
    {keys : Except JoinError JoinKeys} (h : w.fillBuild first probeSchema = (keys, w')) :
    ∃ built, w.inputs.Drew w'.inputs [] built ∧ Settled built ∧ (first = none → built ≠ []) := by
  simp only [fillBuild] at h
  rcases hload : Loading.fill w.config probeSchema first w.build
    ⟨none, w.side.ledger, w.side.store, w.budget, w.metrics⟩ with ⟨result, s, loading⟩
  rw [hload] at h
  cases h
  obtain ⟨built, hdrew, hsettled, hmore⟩ := drew_fill hload
  exact ⟨built, drew_setBuild hdrew, hsettled, hmore⟩

omit [BatchSource P] in
/-- The build source is pulled in advance, and the build side is filled. -/
theorem overdraws_of_fillBuild {w₁ : Operator (Watched P) (Watched B)} {first : Option Batch}
    {probeSchema : Option Schema} {keys : Except JoinError JoinKeys}
    (hbuild : w.pullBuild = (.ok first, w₁)) (hfill : w₁.fillBuild first probeSchema = (keys, w')) :
    ∃ built, w.inputs.Drew w'.inputs [] built ∧ Overdraws w.build.source built := by
  obtain ⟨hpull, hdrawn⟩ := pull_of_pullBuild hbuild
  obtain ⟨later, hlater, hsettled, hmore⟩ := drew_fillBuild hfill
  obtain ⟨events, hdrew, hover⟩ := overdraws_of_pull hpull hsettled nofun
    (fun hnone => hmore (Except.ok.inj hnone)) hlater.build.pulls
  exact ⟨events ++ later, (hdrawn events hdrew).trans hlater, hover⟩

/-- The output begins. If there is none, the probe source is read to its end, unless it has ended. -/
theorem begins_of_startProbing {keys : JoinKeys} {first : Option Batch} {probeSchema : Option Schema}
    {result : Except JoinError Unit} (h : w.startProbing keys first probeSchema = (result, w')) :
    ∃ drawn probed, w.inputs.Drew drawn probed [] ∧ Settled probed ∧ (first = none → probed = []) ∧
      ((∃ e, result = .error e) ∧ w'.inputs = drawn ∨
        result = .ok () ∧ w'.stage = .done ∧ w'.inputs = drawn.kill ∨
        result = .ok () ∧ probed = [] ∧ w'.inputs = drawn ∧
          ∃ p, w'.stage = .probing p ∧ p.supply.exhausted = first.isNone) := by
  simp only [startProbing] at h
  split at h
  · unfold skipOutput at h
    cases first with
    | none =>
      cases h
      exact ⟨_, [], drew_setProbe (.refl _), settled_nil, fun _ => rfl,
        .inr (.inl ⟨rfl, stage_finish _, inputs_finish _⟩)⟩
    | some b =>
      rcases hdrain : drainProbe w.probe with ⟨drained, s⟩
      obtain ⟨probed, hdrew, hsettled⟩ := Watched.drew_drainProbe hdrain
      simp only [Option.isSome_some, if_true, settle, hdrain] at h
      cases drained with
      | error e =>
        cases h
        exact ⟨_, probed, drew_setProbe hdrew, hsettled, by rintro ⟨⟩, .inl ⟨⟨e, rfl⟩, rfl⟩⟩
      | ok =>
        cases h
        exact ⟨_, probed, drew_setProbe hdrew, hsettled, by rintro ⟨⟩,
          .inr (.inl ⟨rfl, stage_finish _, inputs_finish _⟩)⟩
  · cases h
    exact ⟨_, [], .refl _, settled_nil, fun _ => rfl, .inr (.inr ⟨rfl, rfl, rfl, _, rfl, rfl⟩)⟩

/-- What comes behind some pulls of the inputs. -/
theorem Advances.behind {w'' : Operator (Watched P) (Watched B)}
    (hdrew : w.inputs.Drew w'.inputs probed built)
    (hsupplied : Watched.Supplied w.stage.isClosed w'.stage.isClosed probed True)
    (h : w'.Advances w'' []) : w.Advances w'' built := by
  obtain ⟨⟨drawn, later, hlater, hinputs, hsupplied'⟩, hstage⟩ := h
  refine ⟨⟨drawn, probed ++ later, ?_, hinputs, hsupplied.trans hsupplied'⟩, hstage⟩
  have hall := hdrew.trans hlater
  rwa [List.append_nil] at hall

/-- The first pull takes from the build source all that it ever gives. -/
theorem advances_of_unstarted (hnew : w.stage = .unstarted) :
    ∃ built, w.Advances w.next.2 built ∧ Overdraws w.build.source built := by
  have hopen : ∀ {probed : List Treatment}, Settled probed →
      Watched.Supplied w.stage.isClosed true probed True := by
    intro probed hsettled
    rw [hnew]
    exact ⟨nofun, hsettled, fun _ => nofun⟩
  rcases hstart : w.start with ⟨result, w'⟩
  cases starts_of_start hstart with
  | unprobed hprobe =>
    obtain ⟨probed, hdrew, hsettled, -, -⟩ := drew_pullProbe hprobe
    rw [next_of_failed_start hnew hstart]
    exact ⟨[], .fail hdrew (hopen hsettled) _, .nil _⟩
  | unfed hprobe hbuild =>
    obtain ⟨probed, hdrew, hsettled, -, hsame⟩ := drew_pullProbe hprobe
    obtain ⟨hpull, hdrawn⟩ := pull_of_pullBuild hbuild
    obtain ⟨built, hdrew', hover⟩ := overdraws_of_pull hpull settled_nil (fun _ _ => rfl) nofun nofun
    rw [List.append_nil, hsame] at hover
    have hall := hdrew.trans (hdrawn built hdrew')
    rw [List.append_nil, List.nil_append] at hall
    rw [next_of_failed_start hnew hstart]
    exact ⟨built, .fail hall (hopen hsettled) _, hover⟩
  | unfilled hprobe hbuild hfill =>
    obtain ⟨probed, hdrew, hsettled, -, hsame⟩ := drew_pullProbe hprobe
    obtain ⟨built, hdrew', hover⟩ := overdraws_of_fillBuild hbuild hfill
    rw [hsame] at hover
    have hall := hdrew.trans hdrew'
    rw [List.append_nil, List.nil_append] at hall
    rw [next_of_failed_start hnew hstart]
    exact ⟨built, .fail hall (hopen hsettled) _, hover⟩
  | @filled keys first _ _ _ _ _ _ hprobe hbuild hfill hbegin =>
    obtain ⟨probed, hdrew, hsettled, hongoing, hsame⟩ := drew_pullProbe hprobe
    obtain ⟨built, hdrew', hover⟩ := overdraws_of_fillBuild hbuild hfill
    rw [hsame] at hover
    obtain ⟨drawn, later, hlater, hsettled', hnone, hends⟩ := begins_of_startProbing hbegin
    have hall := (hdrew.trans hdrew').trans hlater
    rw [List.append_nil, List.append_nil, List.nil_append] at hall
    -- the probe source goes on if it has given a batch in advance
    have hprobed : Settled (probed ++ later) := by
      cases first with
      | none =>
        rw [hnone rfl, List.append_nil]
        exact hsettled
      | some b => exact (settled_append_of_ongoing (hongoing b rfl)).mpr hsettled'
    refine ⟨built, ?_, hover⟩
    rcases hends with ⟨⟨e, rfl⟩, hinputs⟩ | ⟨rfl, hdone, hinputs⟩ | ⟨rfl, rfl, hinputs, p, hp, hclosed⟩
    · rw [next_of_failed_start hnew hstart]
      rw [← hinputs] at hall
      exact .fail hall (hopen hprobed) e
    · rw [next_of_start hnew hstart, showFirst, hdone]
      exact .ended hall (hopen hprobed) (by rw [hdone]; rfl) hinputs
    · rw [next_of_start hnew hstart, showFirst, hp]
      rw [← hinputs] at hall
      refine .behind hall ?_ (advances_pullOutput hp)
      rw [hnew, hp]
      refine ⟨nofun, hprobed, fun _ hmore => ?_⟩
      cases first with
      | none => cases hclosed.symm.trans hmore
      | some b =>
        rw [List.append_nil]
        exact hongoing b rfl

/-- A pull of an operator that goes on leaves the build source alone. -/
theorem advances_of_probing {p : Probe} (hstage : w.stage = .probing p) : w.Advances w.next.2 [] := by
  rw [next_of_probing hstage]
  obtain ⟨hinputs, hpulled⟩ := advances_pullOutput (w := { w with current := none }) hstage
  exact ⟨hinputs, hpulled⟩

end Operator
end HashJoin
