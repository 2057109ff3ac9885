import WatchTrial.Proofs.Steps
/-!
# Recording what a trial does

A rig can keep a record, in which everything that is asked of it is entered with how it ended. Keeping a
record changes nothing else: a trial with a recording rig has the course that it has without.
-/
namespace WatchTrial

inductive Effect where
  /-- Asks whether every gesture of the script can be played, which leaves the outside alone. -/
  | checkScript
  | clearLog
  | readSensors
  | install (target : Target) (pkg path : String)
  | uninstall (target : Target) (pkg : String)
  | screenshot
  | save (path : String)
  | findLabel (pkg : String)
  | select (label : String)
  | deselect (label : String)
  | wake
  | play (script : List String)
  | sleep (duration : Int64)
deriving Repr, DecidableEq, Inhabited

/-- An effect and the fault that it ended in, if it failed. -/
structure Deed where
  effect : Effect
  fault : Option Fault

/-- Whether a trial goes on after the effect: it succeeded, or it was the clearing of the log. -/
def Deed.Passed (deed : Deed) : Prop := deed.fault = none ∨ deed.effect = .clearLog

/-- An outside, and what was asked of it. -/
structure Record (ω : Type) where
  deeds : List Deed
  outside : ω

variable {ω α β : Type}

/-- The fault of an outcome that failed. -/
def faultOf : Except Fault α → Option Fault
  | .error fault => some fault
  | .ok _ => none

def Scene.recording (scene : Scene ω) (deeds : List Deed) : Scene (Record ω) :=
  ⟨scene.left, scene.cancelled, ⟨deeds, scene.outside⟩⟩

def Scene.unrecorded (scene : Scene (Record ω)) : Scene ω :=
  ⟨scene.left, scene.cancelled, scene.outside.outside⟩

def Act.recorded (effect : Effect) (a : Act ω α) : Act (Record ω) α := fun r =>
  let done := a r.outside
  (done.1, ⟨r.deeds ++ [⟨effect, faultOf done.1⟩], done.2⟩)

def Task.recorded (effect : Effect) (t : Task ω α) : Task (Record ω) α := fun scene =>
  let done := t scene.unrecorded
  (done.1, done.2.recording (scene.outside.deeds ++ [⟨effect, faultOf done.1⟩]))

private theorem Task.recorded_bind_pure (effect : Effect) (t : Task ω α) (g : α → β) :
    (t.recorded effect >>= fun x => pure (g x)) = Task.recorded effect (t >>= fun x => pure (g x)) := by
  funext scene
  rw [Act.bind_apply]
  unfold recorded
  rw [Act.bind_apply]
  rcases t scene.unrecorded with ⟨fault | x, scene'⟩ <;> rfl

namespace Rig

def recorded (rig : Rig ω) : Rig (Record ω) where
  settings := rig.settings
  supports := rig.supports
  clearLog := rig.clearLog.recorded .clearLog
  readSensors := rig.readSensors.recorded .readSensors
  install target pkg path := (rig.install target pkg path).recorded (.install target pkg path)
  uninstall target pkg := (rig.uninstall target pkg).recorded (.uninstall target pkg)
  screenshot := rig.screenshot.recorded .screenshot
  save path content := (rig.save path content).recorded (.save path)
  findLabel pkg := (rig.findLabel pkg).recorded (.findLabel pkg)
  select label := (rig.select label).recorded (.select label)
  deselect label := (rig.deselect label).recorded (.deselect label)
  wake := rig.wake.recorded .wake
  play script := (rig.play script).recorded (.play script)
  sleep duration := (rig.sleep duration).recorded (.sleep duration)

/-- What a step asks of the rig, when the label is known. -/
def effectOf (rig : Rig ω) (pkg label : String) : Step → Effect
  | .checkScript => .checkScript
  | .clearLog => .clearLog
  | .readSensorsBefore | .readSensorsAfter => .readSensors
  | .install target => .install target pkg (ApkList.pathOf (rig.settings.packageDir target) pkg)
  | .settleInstall => .sleep rig.settings.timeouts.installSettle
  | .findLabel => .findLabel pkg
  | .select => .select label
  | .wake | .wakeAgain => .wake
  | .settleSelection => .sleep rig.settings.timeouts.activateSettle
  | .playScript => .play rig.settings.gestures
  | .deselect => .deselect rig.settings.defaultWatchFace
  | .settleDeselection => .sleep rig.settings.timeouts.deselectSettle
  | .takeScreenshot _ => .screenshot
  | .saveScreenshot phase => .save (rig.settings.screenshotPath pkg phase)
  | .awaitAmbient => .sleep rig.settings.timeouts.ambientWait

variable {rig : Rig ω} {pkg : String}

private theorem effectOf_ne_clearLog {label : String} {step : Step} (h : step ≠ .clearLog) :
    rig.effectOf pkg label step ≠ .clearLog := by
  cases step <;> simp_all [effectOf]

private theorem effectOf_label {label label' : String} {step : Step} (h : step ≠ .select) :
    rig.effectOf pkg label step = rig.effectOf pkg label' step := by
  cases step <;> simp_all [effectOf]

private theorem recorded_take {d : Draft} {step : Step} (hcheck : step ≠ .checkScript) (hclear : step ≠ .clearLog) :
    rig.recorded.take pkg d step =
      Task.recorded (rig.effectOf pkg d.label step) (rig.take pkg d step) := by
  cases step with
  | checkScript => exact absurd rfl hcheck
  | clearLog => exact absurd rfl hclear
  | readSensorsBefore => exact Task.recorded_bind_pure _ rig.readSensors.task _
  | install target => exact Task.recorded_bind_pure _ (rig.install target pkg _).task _
  | findLabel => exact Task.recorded_bind_pure _ (rig.findLabel pkg).task _
  | readSensorsAfter => exact Task.recorded_bind_pure _ rig.readSensors.task _
  | takeScreenshot _ => exact Task.recorded_bind_pure _ rig.screenshot.task _
  | saveScreenshot _ => exact Task.recorded_bind_pure _ (rig.save _ d.shot).task _
  | _ => exact Task.recorded_bind_pure ..

/-- A step does with a recording rig what it does without, and enters its effect, which has passed if and
only if the step ended well. -/
theorem recorded_step (rig : Rig ω) (pkg : String) (d : Draft) {step : Step}
    (hcheck : step ≠ .checkScript) (scene : Scene (Record ω)) :
    ∃ deed : Deed, deed.effect = rig.effectOf pkg d.label step ∧
      (deed.Passed ↔ faultOf (rig.take pkg d step scene.unrecorded).1 = none) ∧
      rig.recorded.take pkg d step scene =
        ((rig.take pkg d step scene.unrecorded).1,
          (rig.take pkg d step scene.unrecorded).2.recording (scene.outside.deeds ++ [deed])) := by
  by_cases hclear : step = .clearLog
  · -- clearing the log ends well whatever its outcome is
    subst hclear
    exact ⟨⟨.clearLog, faultOf (rig.clearLog scene.outside.outside).1⟩, rfl,
      iff_of_true (.inr rfl) rfl, rfl⟩
  · refine ⟨⟨rig.effectOf pkg d.label step, faultOf (rig.take pkg d step scene.unrecorded).1⟩, rfl, ?_, ?_⟩
    · simp [Deed.Passed, effectOf_ne_clearLog hclear]
    · rw [recorded_take hcheck hclear]
      rfl

end Rig

/-- The deeds carry out a plan, effect by effect, up to the first that did not pass; the stage of that effect
is then the one in which the plan failed. -/
inductive Follows : List (Stage × Effect) → List Deed → Option Stage → Prop
  | done : Follows [] [] none
  | failed (stage : Stage) (deed : Deed) (rest : List (Stage × Effect)) (h : ¬ deed.Passed) :
      Follows ((stage, deed.effect) :: rest) [deed] (some stage)
  | passed (stage : Stage) (deed : Deed) {rest : List (Stage × Effect)} {deeds : List Deed}
      {failed : Option Stage} (h : deed.Passed) (hrest : Follows rest deeds failed) :
      Follows ((stage, deed.effect) :: rest) (deed :: deeds) failed

namespace Rig

variable {rig : Rig ω} {pkg : String}

/-- What a list of steps asks of the rig, with the stages that its steps belong to. -/
def planOf (rig : Rig ω) (pkg label : String) (steps : List Step) : List (Stage × Effect) :=
  steps.map fun step => (step.stage, rig.effectOf pkg label step)

private theorem planOf_cons (label : String) (step : Step) (rest : List Step) :
    rig.planOf pkg label (step :: rest) =
      (step.stage, rig.effectOf pkg label step) :: rig.planOf pkg label rest := rfl

/-- Steps do with a recording rig what they do without, and their deeds follow the plan of the steps. The
label in the plan is the one that the steps leave behind, so none may be found after it was used. -/
theorem recorded_takeAll (rig : Rig ω) (pkg : String) {steps : List Step}
    (hcheck : .checkScript ∉ steps)
    (hlabel : steps.Pairwise fun step later => step = .select → later ≠ .findLabel) (d : Draft)
    (scene : Scene (Record ω)) :
    let taken := rig.takeAll pkg steps d scene.unrecorded
    ∃ deeds, Follows (rig.planOf pkg taken.1.1.label steps) deeds (taken.1.2.map (·.1.stage)) ∧
      rig.recorded.takeAll pkg steps d scene =
        (taken.1, taken.2.recording (scene.outside.deeds ++ deeds)) := by
  induction steps generalizing d scene with
  | nil => exact ⟨[], .done, by simp [takeAll, Scene.recording, Scene.unrecorded]⟩
  | cons step rest ih =>
    have hstep : step ≠ .checkScript := fun h => hcheck (h ▸ List.mem_cons_self)
    obtain ⟨hfirst, hlater⟩ := List.pairwise_cons.mp hlabel
    obtain ⟨deed, heffect, hpassed, hdeed⟩ := recorded_step rig pkg d hstep scene
    rcases htake : rig.take pkg d step scene.unrecorded with ⟨fault | d', scene'⟩ <;>
      rw [htake] at hdeed hpassed <;> simp only [takeAll, htake, hdeed]
    · refine ⟨[deed], ?_, rfl⟩
      rw [planOf_cons, ← heffect]
      exact .failed step.stage deed _ (mt hpassed.mp (by simp [faultOf]))
    · obtain ⟨deeds, hfollows, hrun⟩ := ih (mt (List.mem_cons_of_mem step) hcheck) hlater d'
        (scene'.recording (scene.outside.deeds ++ [deed]))
      refine ⟨deed :: deeds, ?_, ?_⟩
      · have hused : deed.effect = rig.effectOf pkg (rig.takeAll pkg rest d' scene').1.1.label step := by
          rw [heffect]
          by_cases hselect : step = .select
          · rw [takeAll_label (fun h => hfirst _ h hselect rfl), take_label htake (by simp [hselect])]
          · exact effectOf_label hselect
        rw [planOf_cons, ← hused]
        exact .passed step.stage deed (hpassed.mpr rfl) hfollows
      · rw [hrun]
        simp [Scene.recording, Scene.unrecorded]

private theorem recorded_checked (rig : Rig ω) (pkg : String) {steps : List Step} (hcheck : .checkScript ∉ steps)
    (hlabel : steps.Pairwise fun step later => step = .select → later ≠ .findLabel) (d : Draft)
    (scene : Scene (Record ω)) :
    let taken := rig.takeAll pkg (.checkScript :: steps) d scene.unrecorded
    ∃ label deeds, Follows (rig.planOf pkg label (.checkScript :: steps))
        (⟨.checkScript, faultOf rig.checkScript⟩ :: deeds) (taken.1.2.map (·.1.stage)) ∧
      rig.recorded.takeAll pkg (.checkScript :: steps) d scene =
        (taken.1, taken.2.recording (scene.outside.deeds ++ deeds)) := by
  have hsame : rig.recorded.checkScript = rig.checkScript := rfl
  rcases hscript : rig.checkScript with fault | _
  · have htake : rig.take pkg d .checkScript scene.unrecorded = (.error fault, scene.unrecorded) := by
      simp [take, hscript, Act.bind_apply]
    have hrecorded : rig.recorded.take pkg d .checkScript scene = (.error fault, scene) := by
      simp [take, hsame, hscript, Act.bind_apply]
    simp only [takeAll, htake, hrecorded]
    refine ⟨"", [], .failed .idle ⟨.checkScript, some fault⟩ _ (by simp [Deed.Passed]), ?_⟩
    simp [Scene.recording, Scene.unrecorded]
  · have htake : rig.take pkg d .checkScript scene.unrecorded = (.ok d, scene.unrecorded) := by
      simp [take, hscript, Act.bind_apply]
    have hrecorded : rig.recorded.take pkg d .checkScript scene = (.ok d, scene) := by
      simp [take, hsame, hscript, Act.bind_apply]
    simp only [takeAll, htake, hrecorded]
    obtain ⟨deeds, hfollows, hrun⟩ := recorded_takeAll rig pkg hcheck hlabel d scene
    exact ⟨_, deeds, .passed .idle ⟨.checkScript, none⟩ (.inl rfl) hfollows, hrun⟩

theorem cleanUp_eq (rig : Rig ω) (pkg : String) (o : ω) :
    rig.cleanUp pkg o =
      let first := rig.uninstall .wearable pkg o
      let second := rig.uninstall .handheld pkg first.2
      ((Fault.join? ((faultOf first.1).toList ++ (faultOf second.1).toList)).map
        (.context ("cleanup " ++ pkg)), second.2) := by
  rcases h : rig.uninstall .wearable pkg o with ⟨fault | _, o'⟩ <;>
    rcases h' : rig.uninstall .handheld pkg o' with ⟨fault' | _, o''⟩ <;>
    simp [cleanUp, uninstallAll, h, h', faultOf]

/-- Cleaning up has words for what went wrong just when one of the two removals failed. -/
theorem cleanUp_silent_iff (rig : Rig ω) (pkg : String) (o : ω) :
    ((rig.cleanUp pkg o).1.map Fault.message).getD "" = "" ↔
      faultOf (rig.uninstall .wearable pkg o).1 = none ∧
        faultOf (rig.uninstall .handheld pkg (rig.uninstall .wearable pkg o).2).1 = none := by
  rw [cleanUp_eq]
  dsimp only
  cases faultOf (rig.uninstall .wearable pkg o).1 <;>
    cases faultOf (rig.uninstall .handheld pkg (rig.uninstall .wearable pkg o).2).1 <;>
    simp [Fault.join?, Fault.message]

/-- Cleaning up does with a recording rig what it does without. It enters the removal from both devices,
whether or not the first failed, and has words for what went wrong just when one of them failed. -/
theorem recorded_cleanUp (rig : Rig ω) (pkg : String) (r : Record ω) :
    let cleaned := rig.cleanUp pkg r.outside
    ∃ onWatch onHandheld, rig.recorded.cleanUp pkg r =
        (cleaned.1, ⟨r.deeds ++ [⟨.uninstall .wearable pkg, onWatch⟩, ⟨.uninstall .handheld pkg, onHandheld⟩],
          cleaned.2⟩) ∧
      ((cleaned.1.map Fault.message).getD "" = "" ↔ onWatch = none ∧ onHandheld = none) := by
  let first := rig.uninstall .wearable pkg r.outside
  let second := rig.uninstall .handheld pkg first.2
  refine ⟨faultOf first.1, faultOf second.1, ?_, cleanUp_silent_iff rig pkg r.outside⟩
  rw [cleanUp_eq, cleanUp_eq]
  simp only [recorded, Act.recorded, first, second, List.append_assoc, List.cons_append, List.nil_append]

/-- A trial with a recording rig is the trial without. It records the deeds of its steps, and then the removal of
the package from both devices. -/
theorem recorded_run (rig : Rig ω) (pkg : String) {steps : List Step} {scene : Scene ω} {deeds : List Deed}
    (htaken : rig.recorded.takeAll pkg steps {} (scene.recording []) =
      ((rig.takeAll pkg steps {} scene).1, (rig.takeAll pkg steps {} scene).2.recording deeds)) :
    let ran := rig.run steps pkg scene
    ∃ onWatch onHandheld,
      rig.recorded.run steps pkg (scene.recording []) = (ran.1, ran.2.recording
        (deeds ++ [⟨.uninstall .wearable pkg, onWatch⟩, ⟨.uninstall .handheld pkg, onHandheld⟩])) ∧
      ((ran.1.cleanup.map Fault.message).getD "" = "" ↔ onWatch = none ∧ onHandheld = none) := by
  let taken := rig.takeAll pkg steps {} scene
  obtain ⟨onWatch, onHandheld, hcleaned, hwords⟩ := recorded_cleanUp rig pkg ⟨deeds, taken.2.outside⟩
  refine ⟨onWatch, onHandheld, ?_, hwords⟩
  change rig.recorded.takeAll pkg steps {} (scene.recording []) = (taken.1, taken.2.recording deeds) at htaken
  change rig.recorded.cleanUp pkg (taken.2.recording deeds).outside = _ at hcleaned
  unfold run
  rw [htaken]
  simp only [hcleaned]
  rfl

/-- Everything that a leak trial does, in its order. The check of the script asks nothing of the rig, so it is
not in the record and is put in front of it. -/
def leakLog (rig : Rig ω) (pkg : String) (scene : Scene ω) : List Deed :=
  ⟨.checkScript, faultOf rig.checkScript⟩ ::
    (rig.recorded.runLeak pkg (scene.recording [])).2.outside.deeds

/-- A leak trial with a recording rig is the leak trial without. Its log follows the plan of its steps, and
then has the removal of the package from both devices. -/
theorem recorded_runLeak (rig : Rig ω) (pkg : String) (scene : Scene ω) :
    let run := rig.runLeak pkg scene
    let recorded := rig.recorded.runLeak pkg (scene.recording [])
    (recorded.1 = run.1 ∧ recorded.2.unrecorded = run.2) ∧
    ∃ label taken onWatch onHandheld,
      rig.leakLog pkg scene =
        taken ++ [⟨.uninstall .wearable pkg, onWatch⟩, ⟨.uninstall .handheld pkg, onHandheld⟩] ∧
      Follows (rig.planOf pkg label leakSteps) taken run.1.1.failedStage ∧
      (run.1.1.cleanupError = "" ↔ onWatch = none ∧ onHandheld = none) := by
  have hcheck : .checkScript ∉ leakSteps.tail := by decide
  have hlabel : leakSteps.tail.Pairwise fun step later => step = .select → later ≠ .findLabel := by decide
  obtain ⟨label, deeds, hfollows, htaken⟩ := recorded_checked rig pkg hcheck hlabel {} (scene.recording [])
  change rig.recorded.takeAll pkg leakSteps {} (scene.recording []) =
    ((rig.takeAll pkg leakSteps {} scene).1, (rig.takeAll pkg leakSteps {} scene).2.recording deeds) at htaken
  obtain ⟨onWatch, onHandheld, hran, hwords⟩ := recorded_run rig pkg htaken
  have hrecorded : rig.recorded.runLeak pkg (scene.recording []) =
      ((rig.runLeak pkg scene).1, (rig.runLeak pkg scene).2.recording
        (deeds ++ [⟨.uninstall .wearable pkg, onWatch⟩, ⟨.uninstall .handheld pkg, onHandheld⟩])) := by
    unfold runLeak
    rw [hran]
  refine ⟨?_, label, ⟨.checkScript, faultOf rig.checkScript⟩ :: deeds, onWatch, onHandheld, ?_, hfollows, hwords⟩
  · rw [hrecorded]
    exact ⟨rfl, rfl⟩
  · unfold leakLog
    rw [hrecorded]
    rfl

end Rig

end WatchTrial
