import WatchTrial.Proofs.Connecting
import WatchTrial.Proofs.Leaks
import WatchTrial.Proofs.Verdicts
/-!
# Cancelled trials

A trial pauses while it settles, polls, plays gestures and connects anew. Wherever a pause fails, nothing
follows it but the removal of the package from both devices, and the fault of the trial says that the run was
cancelled.
-/
namespace WatchTrial

open Bench

theorem Task.Halts.sequential : Task.Sequential fun t : Task Bench Unit => t.Halts :=
  ⟨.pure _, fun h h' => .bind h fun _ => h'⟩

section Session

variable {w : World} {c : Connector} (hdial : c.DialsOnly)
include hdial

private theorem Connector.connect_halts (device : String) : (c.connect w device).Halts := by
  refine .mapFault (.poll (fun told b => ?_) c.delay) fun fault => ?_
  · exact hdial.attempt_pauseless w device told b
  · exact List.subset_cons_self _ _

private theorem Session.reestablish_halts (s : Session) (link : Nat) : (reestablish w c s link).Halts := by
  refine .bind (.task (Link.close_within (Pauseless.close link))) fun _ => ?_
  refine .bind (Connector.connect_halts hdial s.device) fun fresh => ?_
  have huse : (Session.use { s with link := fresh.link }).Halts :=
    .task (.of fun b => ⟨.of_past_eq rfl, rfl⟩)
  exact .bind huse fun _ => .pure _

private theorem Session.call_halts {α : Type} {f : Nat → Act Bench α} (hf : ∀ link, (f link).Within Pauseless) :
    (call w c f).Halts := by
  have hcurrent : Task.Halts current := by
    refine .bind .get fun scene => ?_
    split
    · split
      · exact .pure _
      · exact .throw _
    · exact .throw _
  refine .bind hcurrent fun (s, link) => .bind (.taskOutcome (hf link)) fun outcome => ?_
  cases outcome with
  | ok x => exact .pure _
  | error fault =>
    dsimp only
    split
    · exact .throw _
    · exact .bind (reestablish_halts hdial s link) fun fresh => .task (hf fresh)

private theorem Session.send_halts (i : Input) : (send w c i).Halts :=
  call_halts hdial fun _ => Link.sendInput_within w (Pauseless.exchange w _) i

end Session

namespace Handheld

variable {α : Type} {h : Handheld Bench α} (hh : h.MadeOf fun _ a => a.Within Pauseless)
include hh

private theorem select_halts (timeouts : Timeouts) (device label : String) :
    (h.select timeouts device label).Halts := by
  refine .bind (.task (.retryOnce _ (hh.pressKey device _))) fun _ => ?_
  refine .bind (.poll (fun _ => hh.lookForList .within device) _) fun _ => ?_
  exact .task (hh.pick .within device _)

private theorem deselect_halts (hswipe : h.swipeAway.Halts) (timeouts : Timeouts) (device label : String) :
    (h.deselect timeouts device label).Halts := by
  refine .bind (.pause _) fun _ => .bind hswipe fun _ => ?_
  exact .bind (.pause _) fun _ => select_halts hh timeouts device _

end Handheld

namespace Rig

variable {w : World} {c : Connector} {pkg : String}

/-- Every step of a trial at the bench ends with a pause of it that fails. -/
theorem take_halts (hdial : c.DialsOnly) (settings : Settings) (labels : Labels) (session : Session)
    (pkg : String) (d : Draft) (step : Step) :
    ((Rig.atBench w c settings labels session).take pkg d step).Halts := by
  let player : Player Bench := ⟨session.watch w c, settings.timeouts⟩
  have hrun (argv : List String) (b : Bench) : Pauseless b (b.run w argv).2 := .run w argv b
  have hfiles (b : Bench) (files : Files) : Pauseless b { b with files } := ⟨.of_past_eq rfl, rfl⟩
  have hhandheld := Handheld.atBench_within c.adb (fun _ _ => hrun _) (fun _ _ => hrun _)
    (fun _ b => .note b rfl) (fun b _ => ⟨.of_past_eq rfl, rfl⟩) settings.appiumUrl (player.perform .swipeLeft)
  have hsend (i : Input) : (player.watch.send i).Halts := Session.send_halts hdial i
  have hswipe : (player.perform .swipeLeft).Halts :=
    Player.perform_of Task.Halts.sequential hsend .pause (fun _ => .throw _) _
  have hplay : (Registry.standard.run player settings.gestures).Halts :=
    Registry.run_of Task.Halts.sequential hsend .pause (fun _ => .throw _) fun _ _ _ => .throw _
  have hread : (c.adb.readSensors w settings.wearSerial).Within Pauseless :=
    .bind (Adb.runChecked_within w c.adb (hrun _)) fun _ => .pure _
  have hsave (path : String) (content : ByteArray) :
      ((Rig.atBench w c settings labels session).save path content).Within Pauseless := by
    simp only [Rig.atBench]
    exact Bench.save_within hfiles path content
  cases step with
  | checkScript => exact .bind (.lift _) fun _ => .pure _
  | clearLog => exact .bind (.taskOutcome (Adb.clearLog_within w c.adb (hrun _))) fun _ => .pure _
  | readSensorsBefore => exact .bind (.task hread) fun _ => .pure _
  | install target => exact .bind (.task (Adb.install_within w c.adb (hrun _) (hrun _))) fun _ => .pure _
  | settleInstall => exact .bind (.pause _) fun _ => .pure _
  | findLabel => exact .bind (.task (.lift _)) fun _ => .pure _
  | select => exact .bind (Handheld.select_halts hhandheld _ _ _) fun _ => .pure _
  | wake => exact .bind (hsend .wake) fun _ => .pure _
  | settleSelection => exact .bind (.pause _) fun _ => .pure _
  | wakeAgain => exact .bind (hsend .wake) fun _ => .pure _
  | playScript => exact .bind hplay fun _ => .pure _
  | deselect => exact .bind (Handheld.deselect_halts hhandheld hswipe _ _ _) fun _ => .pure _
  | settleDeselection => exact .bind (.pause _) fun _ => .pure _
  | readSensorsAfter => exact .bind (.task hread) fun _ => .pure _
  | takeScreenshot phase =>
    exact .bind (.task (Adb.screenshot_within (hrun _) (hrun _) fun b => hfiles b _)) fun _ => .pure _
  | saveScreenshot phase => exact .bind (.task (hsave _ _)) fun _ => .pure _
  | awaitAmbient => exact .bind (.pause _) fun _ => .pure _

private theorem failureOf_parts (step : Step) (fault : Fault) : fault.parts ⊆ (failureOf pkg step fault).parts := by
  unfold failureOf
  split <;> simp [Fault.setupFailed, Fault.parts]

/-- Steps that halt, taken until one fails. -/
theorem takeAll_halts {rig : Rig Bench} (htake : ∀ d step, (rig.take pkg d step).Halts) (steps : List Step)
    (d : Draft) (scene : Scene Bench) :
    let taken := rig.takeAll pkg steps d scene
    ∃ events, scene.GoesOn events taken.2 ∨ scene.CutShort events taken.2 ∧
      ∃ step fault, taken.1.2 = some (step, fault) ∧ taken.2.outside.stop.fault ∈ fault.parts := by
  induction steps generalizing d scene with
  | nil => exact ⟨[], .inl (.refl scene)⟩
  | cons step rest ih =>
    obtain ⟨events, hstep⟩ := htake d step scene
    unfold takeAll
    rcases hrun : rig.take pkg d step scene with ⟨fault | d', scene'⟩ <;> rw [hrun] at hstep
    · refine ⟨events, hstep.imp_right ?_⟩
      rintro ⟨hcut, fault', hfault, hpart⟩
      cases hfault
      exact ⟨hcut, step, _, rfl, failureOf_parts step fault hpart⟩
    · rcases hstep with hgoes | ⟨-, fault, hfault, -⟩
      · obtain ⟨later, hlater⟩ := ih d' scene'
        exact ⟨events ++ later, hlater.imp hgoes.trans (And.imp_left (.after hgoes))⟩
      · cases hfault

def removal (adb : Adb) (settings : Settings) (pkg : String) (onWatch onHandheld : Answer) : List Event :=
  [.ran (adb.command settings.wearSerial ["uninstall", pkg]) onWatch,
    .ran (adb.command settings.handheldSerial ["uninstall", pkg]) onHandheld]

private theorem cleanUp_bench (w : World) (c : Connector) (settings : Settings) (labels : Labels) (session : Session)
    (pkg : String) (b : Bench) :
    let after := ((Rig.atBench w c settings labels session).cleanUp pkg b).2
    (∃ onWatch onHandheld, after.past = b.past ++ removal c.adb settings pkg onWatch onHandheld) ∧
      after.stop = b.stop := by
  rw [cleanUp_eq]
  simp only [Rig.atBench, Adb.uninstall_bench]
  exact ⟨⟨_, _, List.append_assoc ..⟩, rfl⟩

/-- A trial in which no pause fails, or whose first failed pause is followed by the removal of the package
alone. Such a trial has no verdict on the watch face, and its fault has the one of the pause as a part. -/
def EndsAtFailedPause (adb : Adb) (settings : Settings) (pkg : String) (scene : Scene Bench)
    (verdict : Option Verdict) (outcome : Except Fault Unit) (after : Bench) : Prop :=
  ∃ events, after.past = scene.outside.past ++ events ∧
    ∀ before duration later, events = before ++ .slept duration :: later →
      scene.FailsAfter (before ++ [.slept duration]) →
        (∃ onWatch onHandheld, later = removal adb settings pkg onWatch onHandheld) ∧
        verdict = some .setupFailed ∧ ∃ fault, outcome = .error fault ∧ after.stop.fault ∈ fault.parts ∧
          ∀ mark, after.stop.fault.carries mark = true → fault.carries mark = true

private theorem run_endsAtFailedPause (hdial : c.DialsOnly) (settings : Settings) (labels : Labels) (session : Session)
    (steps : List Step) (pkg : String) (scene : Scene Bench) (verdict : Course → Option Verdict)
    (hverdict : ∀ course : Course, course.failure ≠ none → verdict course = some .setupFailed) :
    let run := (Rig.atBench w c settings labels session).run steps pkg scene
    EndsAtFailedPause c.adb settings pkg scene (verdict run.1) run.1.outcome run.2.outside := by
  intro run
  let rig := Rig.atBench w c settings labels session
  let taken := rig.takeAll pkg steps {} scene
  obtain ⟨events, hend⟩ := takeAll_halts (take_halts hdial settings labels session pkg) steps {} scene
  obtain ⟨⟨onWatch, onHandheld, hremoved⟩, hstop⟩ := cleanUp_bench w c settings labels session pkg taken.2.outside
  have hpast : run.2.outside.past =
      scene.outside.past ++ (events ++ removal c.adb settings pkg onWatch onHandheld) := by
    have htaken : taken.2.outside.past = scene.outside.past ++ events := hend.elim (·.past) (·.1.past)
    rw [← List.append_assoc, ← htaken, ← hremoved]
    rfl
  refine ⟨_, hpast, fun before duration later hsplit hfails => ?_⟩
  rcases split_append hsplit with ⟨rest, hevents, rfl⟩ | ⟨rest, -, hremoval⟩
  · rcases hend with hgoes | ⟨hcut, step, fault, hfault, hpart⟩
    · exact absurd hfails (hgoes.paused before duration rest hevents)
    · have hfailure : run.1.failure = some (step, fault) := hfault
      have hpart' : run.2.outside.stop.fault ∈ fault.parts := by
        rw [← hstop] at hpart
        exact hpart
      refine ⟨⟨onWatch, onHandheld, ?_⟩, hverdict run.1 (by simp [hfailure]), fault, ?_, hpart',
        fun mark => Fault.carries_of_part hpart'⟩
      · rw [hcut.after_eq_nil hevents hfails, List.nil_append]
      · simp [Course.outcome, hfailure]
  · -- nothing is paused for while the package is removed
    have hpause : .slept duration ∈ removal c.adb settings pkg onWatch onHandheld := by simp [hremoval]
    simp [removal] at hpause

/-- In a trial at the bench nothing follows a pause that fails but the removal of the package from both
devices. The trial then counts as not set up, and its fault has the one of the pause as a part. -/
theorem failed_pause_ends_trial (w : World) (c : Connector) (hdial : c.DialsOnly) (settings : Settings)
    (labels : Labels) (session : Session) (pkg : String) (scene : Scene Bench) :
    let rig := Rig.atBench w c settings labels session
    let leak := rig.runLeak pkg scene
    let display := rig.runDisplay pkg scene
    EndsAtFailedPause c.adb settings pkg scene leak.1.1.verdict leak.1.2 leak.2.outside ∧
      EndsAtFailedPause c.adb settings pkg scene display.1.1.verdict display.1.2 display.2.outside := by
  intro rig leak display
  constructor
  · exact run_endsAtFailedPause hdial settings labels session leakSteps pkg scene (·.leakReport.verdict)
      fun course hfailure => course.setupFailed_iff.mpr hfailure
  · refine run_endsAtFailedPause hdial settings labels session displaySteps pkg scene (·.displayReport.verdict)
      fun course hfailure => ?_
    simp [Course.displayReport, Course.displayVerdict, Option.isSome_iff_ne_none, hfailure]

end Rig

/-! A watch whose link is lost when it is first woken, and which refuses every other: the third pause of the
trial, which is between two attempts to connect, fails. -/
namespace RefusedLink

def world : World :=
  { GyroLeak.world with
    dial := fun _ _ => some "connection refused"
    write := fun _ _ _ => .unsent "broken pipe" }

def connector : Connector := ⟨{}, Adb.dialServer world {} 1080, 7⟩

def settings : Settings := { wearSerial := "w", handheldSerial := "h" }

def scene : Scene Bench := { left := 2, outside := { session := some GyroLeak.session } }

def trial : (LeakReport × Except Fault Unit) × Scene Bench :=
  (Rig.atBench world connector settings ⟨[("p", "L")]⟩ GyroLeak.session).runLeak "p" scene

end RefusedLink

theorem Rig.failed_pause_ends_trial_refused :
    ∃ before duration later, RefusedLink.trial.2.outside.past = before ++ .slept duration :: later ∧
      RefusedLink.scene.FailsAfter (before ++ [.slept duration]) ∧
      (∃ onWatch onHandheld, later = removal {} RefusedLink.settings "p" onWatch onHandheld) ∧
      RefusedLink.trial.1.1.verdict = some .setupFailed ∧
      ∃ fault, RefusedLink.trial.1.2 = .error fault ∧ fault.carries .canceled = true := by
  let past := RefusedLink.trial.2.outside.past
  have heval : past[20]?.any Event.isPause = true ∧ (past.take 20).countP Event.isPause = 2 := by decide +kernel
  obtain ⟨e, he, hpause⟩ := (Option.any_eq_true _ _).mp heval.1
  obtain ⟨duration, rfl⟩ := Event.eq_slept hpause
  obtain ⟨hlt, hget⟩ := List.getElem?_eq_some_iff.mp he
  have hsplit : past = past.take 20 ++ .slept duration :: past.drop 21 := by
    rw [← hget, ← List.drop_eq_getElem_cons hlt, List.take_append_drop]
  have hfails : RefusedLink.scene.FailsAfter (past.take 20 ++ [.slept duration]) := by
    left
    rw [List.countP_append, heval.2]
    simp [Event.isPause, RefusedLink.scene]
  obtain ⟨⟨events, hpast, hends⟩, -⟩ := failed_pause_ends_trial RefusedLink.world RefusedLink.connector
    (Connector.dialsOnly_dialServer _ _ _ _) RefusedLink.settings ⟨[("p", "L")]⟩ GyroLeak.session "p"
    RefusedLink.scene
  have hevents : past = events := hpast
  obtain ⟨hremoved, hverdict, fault, hfault, -, hkept⟩ := hends _ _ _ (hevents.symm.trans hsplit) hfails
  have hstop : RefusedLink.trial.2.outside.stop.fault.carries .canceled = true := by decide +kernel
  exact ⟨_, duration, _, hsplit, hfails, hremoved, hverdict, fault, hfault, hkept .canceled hstop⟩

end WatchTrial
