import WatchTrial.Proofs.CancelledTrial
import WatchTrial.Proofs.Raising
/-!
# What the fault of a failed trial says

The kind of the fault of a leak trial tells its failed stage apart: a script that cannot be played, a trial
that was not set up, a reading of the sensors that failed, and everything else.
-/
namespace WatchTrial

private theorem Course.failure_of_outcome {course : Course} {fault : Fault} (h : course.outcome = .error fault) :
    ∃ step, course.failure = some (step, fault) := by
  unfold outcome at h
  split at h <;> cases h
  next step hfailure => exact ⟨step, hfailure⟩

namespace Rig

variable {ω : Type} {w : World} {c : Connector} {settings : Settings} {labels : Labels} {session : Session}
  {pkg : String}

private theorem failureOf_setup {step : Step} (h : step.stage = .install ∨ step.stage = .select) (cause : Fault) :
    ∃ doing, failureOf pkg step cause = .setupFailed doing cause := by
  unfold failureOf
  rcases h with h | h <;> rw [h] <;> exact ⟨_, rfl⟩

private theorem failureOf_other {step : Step} (h : ¬ (step.stage = .install ∨ step.stage = .select)) (cause : Fault) :
    failureOf pkg step cause = cause := by
  unfold failureOf
  split
  next hstage => exact absurd (.inl hstage) h
  next hstage => exact absurd (.inr hstage) h
  next => rfl

private theorem checkScript_error {rig : Rig ω} {fault : Fault} (h : rig.checkScript = .error fault) :
    ∃ gesture ∈ rig.settings.gestures, rig.supports gesture = false ∧ fault = .unsupportedEvent gesture := by
  unfold checkScript at h
  split at h
  next gesture hfound =>
    cases h
    have hunsupported := List.find?_some hfound
    exact ⟨gesture, List.mem_of_find?_eq_some hfound, by simpa using hunsupported, rfl⟩
  next => cases h

private theorem takeAll_unsupported (rig : Rig ω) (pkg : String)
    (h : ∃ gesture ∈ rig.settings.gestures, rig.supports gesture = false) (scene : Scene ω) :
    ∃ gesture, (rig.takeAll pkg leakSteps {} scene).1.2 = some (.checkScript, .unsupportedEvent gesture) := by
  obtain ⟨fault, hcheck⟩ := rig.checkScript_unsupported h
  obtain ⟨gesture, -, -, rfl⟩ := checkScript_error hcheck
  have htake : rig.take pkg {} .checkScript scene = (.error (.unsupportedEvent gesture), scene) := by
    simp [take, hcheck, Act.bind_apply]
  refine ⟨gesture, ?_⟩
  simp only [leakSteps, List.cons_append, takeAll, htake]
  rfl

/-- Once the script can be played, a leak trial does not fail before its first reading of the sensors: a log
that could not be cleared is put up with. -/
theorem stage_ne_idle {rig : Rig ω} (h : ∀ gesture ∈ rig.settings.gestures, rig.supports gesture = true)
    {step : Step} {d : Draft} {scene scene' : Scene ω} {cause : Fault}
    (hfailed : rig.take pkg d step scene = (.error cause, scene')) : step.stage ≠ .idle := by
  cases step with
  | checkScript =>
    cases hcheck : rig.checkScript with
    | error fault =>
      obtain ⟨gesture, hgesture, hunsupported, -⟩ := checkScript_error hcheck
      rw [h gesture hgesture] at hunsupported
      cases hunsupported
    | ok _ =>
      have hpassed : rig.take pkg d .checkScript scene = (.ok d, scene) := by
        simp [take, hcheck, Act.bind_apply]
      cases hpassed.symm.trans hfailed
  | clearLog =>
    have hpassed : rig.take pkg d .clearLog scene = (.ok d, (rig.clearLog.task scene).2) := by
      simp [take, Task.outcome, Act.bind_apply]
    cases hpassed.symm.trans hfailed
  | _ => simp [Step.stage]

/-- The steps of a leak trial raise routine faults, once the script can be played. -/
theorem take_raises
    (hsupported : ∀ name ∈ settings.gestures, (Registry.standard : Registry Bench).supports name = true)
    (d : Draft) {step : Step} (hstep : step ∈ leakSteps) (hstage : step.stage ≠ .idle) :
    Act.Raises Fault.Routine ((Rig.atBench w c settings labels session).take pkg d step) := by
  let player : Player Bench := ⟨session.watch w c, settings.timeouts⟩
  have hhandheld := Handheld.atBench_raises w c.adb settings.appiumUrl (player.perform .swipeLeft)
  have hpause (duration : Int64) : Act.Raises Fault.Routine (pause duration : Task Bench Unit) :=
    .pause Bench.fault_routine _
  have hsend (i : Input) : Act.Raises Fault.Routine (player.watch.send i) := Session.send_raises i
  have hswipe : Act.Raises Fault.Routine (player.perform .swipeLeft) :=
    Player.perform_of Act.Raises.sequential hsend hpause (fun _ => .throw (.plain _)) _
  have hplay : Act.Raises Fault.Routine (Registry.standard.run player settings.gestures) := by
    refine Registry.run_of Act.Raises.sequential hsend hpause (fun _ => .throw (.plain _))
      fun name hname h => ?_
    rw [hsupported name hname] at h
    cases h
  have hread : (c.adb.readSensors w settings.wearSerial).Raises Fault.Routine :=
    Adb.readSensors_raises.mono fun _ h => h.routine
  have hlabel : (liftM (labels.lookup pkg) : Act Bench String).Raises Fault.Routine := by
    refine .lift fun fault hfault => ?_
    unfold Labels.lookup at hfault
    split at hfault <;> cases hfault
    exact .plain _
  cases step with
  | checkScript => exact absurd rfl hstage
  | clearLog => exact absurd rfl hstage
  | readSensorsBefore => exact .bind (.task hread) fun _ => .pure _
  | install target => exact .bind (.task ((Adb.install_raises _ _).mono fun _ h => h.routine)) fun _ => .pure _
  | settleInstall => exact .bind (hpause _) fun _ => .pure _
  | findLabel => exact .bind (.task hlabel) fun _ => .pure _
  | select => exact .bind (Handheld.select_raises Bench.fault_routine hhandheld _ _ _) fun _ => .pure _
  | wake => exact .bind (hsend .wake) fun _ => .pure _
  | settleSelection => exact .bind (hpause _) fun _ => .pure _
  | wakeAgain => exact .bind (hsend .wake) fun _ => .pure _
  | playScript => exact .bind hplay fun _ => .pure _
  | deselect => exact .bind (Handheld.deselect_raises Bench.fault_routine hhandheld hswipe _ _ _) fun _ => .pure _
  | settleDeselection => exact .bind (hpause _) fun _ => .pure _
  | readSensorsAfter => exact .bind (.task hread) fun _ => .pure _
  | takeScreenshot phase => simp [leakSteps, activationSteps] at hstep
  | saveScreenshot phase => simp [leakSteps, activationSteps] at hstep
  | awaitAmbient => simp [leakSteps, activationSteps] at hstep

private theorem take_reading_raises (d : Draft) {step : Step}
    (hstage : step.stage = .snapshotBefore ∨ step.stage = .snapshotAfter) :
    Act.Raises Fault.FailedCommand ((Rig.atBench w c settings labels session).take pkg d step) := by
  have hread : (c.adb.readSensors w settings.wearSerial).Raises Fault.FailedCommand := Adb.readSensors_raises
  cases step with
  | readSensorsBefore => exact .bind (.task hread) fun _ => .pure _
  | readSensorsAfter => exact .bind (.task hread) fun _ => .pure _
  | _ => simp [Step.stage] at hstage

private theorem stage_ne_last (step : Step) : step.stage ≠ .report ∧ step.stage ≠ .cleanup ∧ step.stage ≠ .done := by
  cases step <;> simp [Step.stage]

/-- The fault of a failed leak trial is of the kind that belongs to its failed stage: a script that cannot be
played in the first, a trial that was not set up while installing and selecting, whose fault keeps all that its
cause says, a failed command while reading the sensors, and none of these kinds while the watch face is used
and left. -/
theorem failed_stage_kinds (w : World) (c : Connector) (settings : Settings) (labels : Labels)
    (session : Session) (pkg : String) (scene : Scene Bench) (fault : Fault)
    (hfault : ((Rig.atBench w c settings labels session).runLeak pkg scene).1.2 = .error fault) :
    let rig := Rig.atBench w c settings labels session
    ∃ stage, (rig.runLeak pkg scene).1.1.failedStage = some stage ∧
      (fault.kindOf = .unsupportedEvent ↔ stage = .idle) ∧
      (stage = .idle ↔ ∃ name ∈ settings.gestures, (Registry.standard : Registry Bench).supports name = false) ∧
      (fault.kindOf = .setupFailed ↔ stage = .install ∨ stage = .select) ∧
      (stage = .install ∨ stage = .select → ∃ earlier step later d reached cause after,
        leakSteps = earlier ++ step :: later ∧ step.stage = stage ∧
        rig.takeAll pkg earlier {} scene = ((d, none), reached) ∧
        rig.take pkg d step reached = (.error cause, after) ∧
        fault.cause? = some cause ∧ ∀ mark, cause.carries mark = true → fault.carries mark = true) ∧
      (stage = .snapshotBefore ∨ stage = .snapshotAfter → fault.kindOf = .commandFailed) ∧
      (stage = .act ∨ stage = .deselect →
        fault.kindOf ≠ .setupFailed ∧ fault.kindOf ≠ .unsupportedEvent) ∧
      (stage ≠ .report ∧ stage ≠ .cleanup ∧ stage ≠ .done) ∧
      fault.kindOf ≠ .parseDegraded ∧ fault.carries .parseDegraded = false := by
  intro rig
  obtain ⟨step, hfailure⟩ := Course.failure_of_outcome hfault
  change (rig.takeAll pkg leakSteps {} scene).1.2 = some (step, fault) at hfailure
  have hstage : (rig.runLeak pkg scene).1.1.failedStage = some step.stage := by
    change (rig.takeAll pkg leakSteps {} scene).1.2.map _ = _
    rw [hfailure]
    rfl
  refine ⟨step.stage, hstage, ?_⟩
  by_cases hscript : ∃ name ∈ settings.gestures, (Registry.standard : Registry Bench).supports name = false
  · obtain ⟨gesture, hunsupported⟩ := takeAll_unsupported rig pkg hscript scene
    cases hfailure.symm.trans hunsupported
    refine ⟨iff_of_true rfl rfl, iff_of_true rfl hscript, ?_⟩
    simp [Step.stage, Fault.unsupportedEvent, Fault.kindOf, Fault.kind?, Fault.carries, Kind.mark?]
  · obtain ⟨earlier, later, d, reached, cause, after, hsteps, hearlier, hfailed, rfl⟩ := takeAll_failed hfailure
    have hsupported : ∀ name ∈ settings.gestures,
        (Registry.standard : Registry Bench).supports name = true := by
      simpa using hscript
    have hstep : step ∈ leakSteps := by simp [hsteps]
    have hidle : step.stage ≠ .idle := stage_ne_idle hsupported hfailed
    have hroutine : cause.Routine := (take_raises hsupported d hstep hidle).of_run hfailed
    by_cases hsetup : step.stage = .install ∨ step.stage = .select
    · obtain ⟨doing, hwords⟩ := failureOf_setup hsetup cause
      rw [hwords]
      have hkind : (Fault.setupFailed doing cause).kindOf = .setupFailed := rfl
      refine ⟨iff_of_false (by simp [hkind]) hidle, iff_of_false hidle hscript, iff_of_true hkind hsetup,
        fun _ => ?_, ?_, ?_, stage_ne_last step, by simp [hkind], ?_⟩
      · refine ⟨earlier, step, later, d, reached, cause, after, hsteps, rfl, hearlier, hfailed, rfl, ?_⟩
        intro mark hmark
        simp [Fault.setupFailed, Fault.carries, hmark]
      · rcases hsetup with hstage | hstage <;> simp [hstage]
      · rcases hsetup with hstage | hstage <;> simp [hstage]
      · simp [Fault.setupFailed, Fault.carries, Kind.mark?, hroutine .parseDegraded]
    · rw [failureOf_other hsetup]
      have hnone {kind : Kind} {mark : Mark} (hmark : kind.mark? = some mark)
          (hodd : mark = .unsupportedEvent ∨ mark = .setupFailed ∨ mark = .parseDegraded) :
          cause.kindOf ≠ kind :=
        Fault.kindOf_ne hmark (hroutine mark hodd)
      refine ⟨iff_of_false (hnone rfl (by simp)) hidle, iff_of_false hidle hscript,
        iff_of_false (hnone rfl (by simp)) hsetup, fun h => absurd h hsetup, fun hreading => ?_,
        fun _ => ⟨hnone rfl (by simp), hnone rfl (by simp)⟩, stage_ne_last step, hnone rfl (by simp),
        hroutine _ (by simp)⟩
      exact ((take_reading_raises d hreading).of_run hfailed).kindOf

end Rig

theorem Rig.failed_stage_kinds_refused :
    ∃ fault cause, RefusedLink.trial.1.2 = .error fault ∧ RefusedLink.trial.1.1.failedStage = some .select ∧
      fault.kindOf = .setupFailed ∧ fault.cause? = some cause ∧
      ∀ mark, cause.carries mark = true → fault.carries mark = true := by
  have heval : RefusedLink.trial.1.2.toOption = none ∧ RefusedLink.trial.1.1.failedStage = some .select := by
    decide +kernel
  cases hfault : RefusedLink.trial.1.2 with
  | ok _ => simp [hfault, Except.toOption] at heval
  | error fault =>
    obtain ⟨stage, hstage, -, -, hsetup, hcause, -⟩ :=
      failed_stage_kinds RefusedLink.world RefusedLink.connector RefusedLink.settings ⟨[("p", "L")]⟩
        GyroLeak.session "p" RefusedLink.scene fault hfault
    obtain rfl : Stage.select = stage := Option.some.inj (heval.2.symm.trans hstage)
    obtain ⟨_, _, _, _, _, cause, _, -, -, -, -, hbelow, hmarks⟩ := hcause (.inr rfl)
    exact ⟨fault, cause, rfl, heval.2, hsetup.mpr (.inr rfl), hbelow, hmarks⟩

end WatchTrial
