import HashJoin.Proofs.Run.Standing
import HashJoin.Proofs.Watch.Faithful
import HashJoin.Proofs.Watch.Inputs

/-!
# The kills of the inputs

Whatever ends an operator kills its inputs, the probe source first, and nothing that is done to it
afterwards kills them once more. Only a kill that is not to propagate leaves them alone, and then they
are left alone for good.

## Main definitions

* `Operator.endedBy` — the call by which an operator ends.
* `Operator.signals` — the kills that it sends.
* `Operator.Signalled` — what holds of the inputs after any calls.

## Main results

* `signalled_perform` — what a call does.
* `kills_of_run` — **each input is killed once, unless the operator is killed without propagation.**
-/

namespace HashJoin

open BatchSource

namespace Operator

variable {P B : Type}

/-- The kills that are sent by an operator that has been ended by some call, if it has ended. -/
def signals : Option Call → List KillSignal
  | none | some (.kill false) => []
  | some .next | some .takeBatch | some .takeFailure | some (.kill true) | some .close =>
    [⟨"probe", true⟩, ⟨"build", true⟩]

variable [BatchSource P] [BatchSource B]

/-- The first of some calls after which the operator has ended. -/
def endedBy (op : Operator P B) : List Call → Option Call
  | [] => none
  | call :: calls =>
    if (op.perform call).stage.isTerminal then some call else (op.perform call).endedBy calls

variable {op : Operator P B} {w w' : Operator (Watched P) (Watched B)} {ending : Option Call}

/-- Watching an operator does not change how it ends. -/
theorem endedBy_of_mirrors (h : op.Mirrors w) (calls : List Call) : w.endedBy calls = op.endedBy calls := by
  induction calls generalizing op w with
  | nil => rfl
  | cons call calls ih =>
    have h' := mirrors_perform h call
    have hstage : (op.perform call).stage = (w.perform call).stage := by
      obtain ⟨log, hlog⟩ := h'
      rw [hlog]
    rw [endedBy, endedBy, hstage, ih h']

/-! ### Calls -/

/-- What holds of an operator over watched inputs that may have been ended by some call. -/
structure Signalled (ending : Option Call) (w : Operator (Watched P) (Watched B)) : Prop where
  /-- It has ended if there was such a call. -/
  stage : w.stage.isTerminal = ending.isSome
  /-- The name of the probe source. -/
  probe : w.probe.label = "probe"
  /-- The name of the build source. -/
  build : w.build.label = "build"
  /-- The kills that have been sent. -/
  log : w.killLog = signals ending
  /-- The inputs are not killed once more. -/
  settled : w.inputsSettled = ending.isSome

/-- An operator over open inputs kills them when it ends. -/
theorem signalled_of_kill {i : Inputs P B} {call : Call} (hend : w.stage.isTerminal = true)
    (hinputs : w.inputs = i.kill) (hprobe : i.probe.label = "probe") (hbuild : i.build.label = "build")
    (hlog : i.log = []) (hopen : i.settled = false) (hcall : call ≠ .kill false) :
    w.Signalled (some call) := by
  have hkill : i.kill = ⟨BatchSource.kill true i.probe, BatchSource.kill true i.build,
      [⟨"probe", true⟩, ⟨"build", true⟩], true⟩ := by
    rw [Inputs.kill, if_neg (by rw [hopen]; nofun), hlog, hprobe, hbuild]
    rfl
  rw [hkill] at hinputs
  obtain ⟨hprobe', hbuild', hlog', hsettled'⟩ := Inputs.mk.inj hinputs
  refine ⟨hend, ?_, ?_, ?_, hsettled'⟩
  · rw [hprobe']
    exact hprobe
  · rw [hbuild']
    exact hbuild
  · rw [hlog']
    cases call with
    | next | takeBatch | takeFailure | close => rfl
    | kill propagate =>
      cases propagate with
      | true => rfl
      | false => exact absurd rfl hcall

/-- Nothing that is done to an operator that has ended reaches its inputs. -/
theorem signalled_perform_of_some {ended : Call} (h : w.Signalled (some ended)) (call : Call) :
    (w.perform call).Signalled (some ended) := by
  have hend : w.stage.isTerminal = true := h.stage
  have hsettled : w.inputs.settled = true := h.settled
  have hkeep : ∀ {w' : Operator (Watched P) (Watched B)}, w'.stage.isTerminal = true →
      w'.inputs = w.inputs → w'.Signalled (some ended) := by
    intro w' hend' hinputs
    obtain ⟨hprobe, hbuild, hlog, hopen⟩ := Inputs.mk.inj hinputs
    exact ⟨hend', hprobe ▸ h.probe, hbuild ▸ h.build, hlog.trans h.log, hopen.trans h.settled⟩
  cases call with
  | next =>
    rw [perform, next_of_terminal hend]
    exact h
  | takeBatch => exact hkeep hend rfl
  | takeFailure => exact hkeep hend rfl
  | close => exact hkeep (isTerminal_close w) ((inputs_close w).trans (Inputs.kill_of_settled hsettled))
  | kill propagate =>
    refine hkeep (isTerminal_kill w propagate) ((inputs_kill w propagate).trans ?_)
    cases propagate with
    | true => exact Inputs.kill_of_settled hsettled
    | false =>
      change (⟨w.probe, w.build, w.killLog, true⟩ : Inputs P B) = w.inputs
      rw [← hsettled]
      rfl

theorem signalled_of_advances {built : List Treatment} (hadvances : w.Advances w' built)
    (h : w.Signalled none) : w'.Signalled (if w'.stage.isTerminal then some .next else none) := by
  obtain ⟨⟨drawn, probed, hdrew, hinputs, -⟩, -⟩ := hadvances
  have hprobe : drawn.probe.label = "probe" := hdrew.probe.label.trans h.probe
  have hbuild : drawn.build.label = "build" := hdrew.build.label.trans h.build
  have hlog : drawn.log = [] := hdrew.log.trans h.log
  have hopen : drawn.settled = false := hdrew.settled.trans h.settled
  split
  · next hend =>
    rw [if_pos hend] at hinputs
    exact signalled_of_kill hend hinputs hprobe hbuild hlog hopen nofun
  · next hmore =>
    rw [if_neg hmore] at hinputs
    rw [← hinputs] at hprobe hbuild hlog hopen
    exact ⟨Bool.not_eq_true _ ▸ hmore, hprobe, hbuild, hlog, hopen⟩

/-- The first call that ends an operator kills its inputs, or leaves them alone. -/
theorem signalled_perform_of_none (h : w.Signalled none) (call : Call) :
    (w.perform call).Signalled (if (w.perform call).stage.isTerminal then some call else none) := by
  have hmore : w.stage.isTerminal = false := h.stage
  cases call with
  | next =>
    cases hstage : w.stage with
    | unstarted =>
      obtain ⟨built, hadvances, -⟩ := advances_of_unstarted hstage
      exact signalled_of_advances hadvances h
    | probing p => exact signalled_of_advances (advances_of_probing hstage) h
    | done | failed =>
      rw [hstage] at hmore
      cases hmore
  | takeBatch | takeFailure =>
    rw [if_neg (by rw [show (w.perform _).stage = w.stage from rfl, hmore]; nofun)]
    exact ⟨h.stage, h.probe, h.build, h.log, h.settled⟩
  | close =>
    have hend : (w.perform .close).stage.isTerminal = true := isTerminal_close w
    rw [if_pos hend]
    exact signalled_of_kill hend (inputs_close w) h.probe h.build h.log h.settled nofun
  | kill propagate =>
    have hend : (w.perform (.kill propagate)).stage.isTerminal = true := isTerminal_kill w propagate
    have hinputs := inputs_kill w propagate
    rw [if_pos hend]
    cases propagate with
    | true => exact signalled_of_kill hend hinputs h.probe h.build h.log h.settled nofun
    | false =>
      obtain ⟨hprobe, hbuild, hlog, hsettled⟩ := Inputs.mk.inj hinputs
      exact ⟨hend, hprobe ▸ h.probe, hbuild ▸ h.build, hlog.trans h.log, hsettled⟩

/-- An operator is closed before it is let go of, and to let go of its inputs is no kill. -/
theorem killLog_dispose (h : w.Signalled ending) :
    w.dispose.killLog = signals (ending.or (some .close)) := by
  have hclose : w.close.Signalled (ending.or (some .close)) := by
    cases ending with
    | some ended => exact signalled_perform_of_some h .close
    | none =>
      have hclosed := signalled_perform_of_none h .close
      have hend : (w.perform .close).stage.isTerminal = true := isTerminal_close w
      rw [if_pos hend] at hclosed
      exact hclosed
  have hlet : ∀ {σ : Type} [BatchSource σ] (s : Watched σ), Watched.Drew s (BatchSource.dispose s) [] :=
    fun s => ⟨rfl, (List.append_nil _).symm, nofun⟩
  have hprobe := drew_setProbe (hlet w.close.probe)
  have hbuild := drew_setBuild (w := w.close.setProbe (BatchSource.dispose w.close.probe))
    (hlet w.close.build)
  exact (hbuild.log.trans hprobe.log).trans hclose.log

/-! ### Runs -/

theorem signalled_run (h : w.Signalled none) (calls : List Call) :
    (w.run calls).Signalled (w.endedBy calls) := by
  have hended : ∀ (calls : List Call) {ended : Call} {w : Operator (Watched P) (Watched B)},
      w.Signalled (some ended) → (w.run calls).Signalled (some ended) := by
    intro calls ended w h
    exact run_induction calls h fun _ call h => signalled_perform_of_some h call
  induction calls generalizing w with
  | nil => exact h
  | cons call calls ih =>
    have hcall := signalled_perform_of_none h call
    rw [endedBy]
    split
    · next hend =>
      rw [if_pos hend] at hcall
      exact hended calls hcall
    · next hmore =>
      rw [if_neg hmore] at hcall
      exact ih hcall

variable {config : Config} {probe : P} {build : B}

/-- **Each input is killed once.** Over watched inputs an operator goes through the same run. It has ended
if some call has ended it. Before that no input is killed. If that call was a kill without propagation,
no input is ever killed; otherwise the kills are those of the probe source and of the build source, in
this order and with propagation, whatever comes afterwards. An operator that is let go of has been ended
by that, if by no call. -/
theorem kills_of_run (hnew : create? config probe build = .ok op) (calls : List Call) :
    (op.run calls).Mirrors (op.watch.run calls) ∧
      (op.run calls).stage.isTerminal = (op.endedBy calls).isSome ∧
      (op.watch.run calls).killLog = signals (op.endedBy calls) ∧
      (op.run calls).dispose.Mirrors (op.watch.run calls).dispose ∧
      (op.watch.run calls).dispose.killLog = signals ((op.endedBy calls).or (some .close)) := by
  obtain ⟨-, rfl⟩ := create?_eq_ok_iff.mp hnew
  have hmirrors := mirrors_run (mirrors_watch (ofSources config probe build)) calls
  have hbegin : (ofSources config probe build).watch.Signalled none := ⟨rfl, rfl, rfl, rfl, rfl⟩
  have hrun := signalled_run hbegin calls
  rw [endedBy_of_mirrors (mirrors_watch _) calls] at hrun
  refine ⟨hmirrors, ?_, hrun.log, mirrors_dispose hmirrors, killLog_dispose hrun⟩
  obtain ⟨log, hlog⟩ := hmirrors
  rw [hlog]
  exact hrun.stage

/-- An inner join without build rows ends at the first pull and kills its inputs. It is closed and killed
afterwards, and neither is a further kill of an input. -/
theorem kills_of_run_no_output :
    let one : Batch := ⟨1, 1, [.fixed (.scalar "k" (.int .bits64) true) (.ofList [true])
      ⟨.ints .bits64 #[7], 32⟩], none⟩
    let config : Config := { Config.ofConditions .inner [⟨"k", "k", .equals⟩] with minBuckets := 1 }
    let probe : Script := .ofSteps "probe" [.batch one, .batch one] none
    let build : Script := .ofSteps "build" [.notYet] none
    let calls : List Call := [.takeBatch, .next, .close, .kill false, .kill true]
    ∃ op, create? config probe build = .ok op ∧ op.endedBy calls = some .next ∧
      (op.run calls).stage.isTerminal = true ∧
      (op.watch.run calls).killLog = [⟨"probe", true⟩, ⟨"build", true⟩] ∧
      (op.watch.run calls).dispose.killLog = [⟨"probe", true⟩, ⟨"build", true⟩] := by
  intro one config probe build calls
  have hvalid : config.fault? = none := Option.isNone_iff_eq_none.mp (by decide +kernel)
  have hnew : create? config probe build = .ok (ofSources config probe build) :=
    create?_eq_ok_iff.mpr ⟨hvalid, rfl⟩
  have hended : (ofSources config probe build).endedBy calls = some .next := by decide +kernel
  obtain ⟨-, hstage, hlog, -, hdropped⟩ := kills_of_run hnew calls
  rw [hended] at hstage hlog hdropped
  exact ⟨_, hnew, hended, hstage, hlog, hdropped⟩

end Operator
end HashJoin
