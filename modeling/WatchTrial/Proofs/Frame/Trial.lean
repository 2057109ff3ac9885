import WatchTrial.Proofs.Frame.Companion
import WatchTrial.Proofs.Frame.Watch
import WatchTrial.Trial.Bench
/-!
# What the steps of a trial do to the outside

Apart from reading the sensors, every step of a trial stays within each relation that the parts of its rig
stay within, and so does cleaning up.
-/
namespace WatchTrial

theorem Adb.screenshot_within {R : Bench → Bench → Prop} [IsPreorder Bench R] {w : World} {adb : Adb}
    {device : String}
    (hcapture : ∀ b, R b (b.run w (adb.command device ["shell", "screencap", "-p", remoteScreenshot])).2)
    (hpull : ∀ b, R b (b.run w (adb.command device ["pull", remoteScreenshot, w.scratch])).2)
    (hremove : ∀ b : Bench, R b { b with files := b.files.remove w.scratch }) :
    (adb.screenshot w device).Within R := by
  have hpulled : (adb.pullScreenshot w device).Within R := by
    refine .bind (runChecked_within w adb hcapture) fun output => ?_
    split
    · exact .throw _
    · refine .bind (runChecked_within w adb hpull) fun _ => ?_
      refine .bind .get fun b => ?_
      split
      · exact .throw _
      · split
        · exact .throw _
        · exact .pure _
  intro b
  exact trans_of R (hpulled b) (hremove _)

theorem Bench.save_within {R : Bench → Bench → Prop} (hfiles : ∀ (b : Bench) files, R b { b with files })
    (path : String) (content : ByteArray) : (Bench.save path content).Within R := by
  intro b
  unfold Bench.save
  split
  · exact hfiles b _
  · split
    · exact hfiles b _
    · exact hfiles b _

namespace Rig

/-- Everything that a rig offers, apart from reading the sensors, stays within a relation. -/
structure Within {ω : Type} (R : ω → ω → Prop) (rig : Rig ω) : Prop where
  clearLog : rig.clearLog.Within R
  install : ∀ target pkg path, (rig.install target pkg path).Within R
  uninstall : ∀ target pkg, (rig.uninstall target pkg).Within R
  screenshot : rig.screenshot.Within R
  save : ∀ path content, (rig.save path content).Within R
  findLabel : ∀ pkg, (rig.findLabel pkg).Within R
  select : ∀ label, Act.Within (Scene.Via R) (rig.select label)
  deselect : ∀ label, Act.Within (Scene.Via R) (rig.deselect label)
  wake : Act.Within (Scene.Via R) rig.wake
  play : ∀ script, Act.Within (Scene.Via R) (rig.play script)
  sleep : ∀ duration, Act.Within (Scene.Via R) (rig.sleep duration)

theorem take_saveScreenshot_within {ω : Type} {R : ω → ω → Prop} [IsPreorder ω R] (rig : Rig ω) {pkg : String}
    {d : Draft} {phase : Phase} (hsave : (rig.save (rig.settings.screenshotPath pkg phase) d.shot).Within R) :
    Act.Within (Scene.Via R) (rig.take pkg d (.saveScreenshot phase)) :=
  .bind hsave.task fun _ => .pure _

theorem takeAll_within {ω : Type} {R : ω → ω → Prop} [IsPreorder ω R] {rig : Rig ω} {pkg : String}
    {steps : List Step} (hsteps : ∀ step ∈ steps, ∀ d, Act.Within (Scene.Via R) (rig.take pkg d step))
    (d : Draft) (scene : Scene ω) : R scene.outside (rig.takeAll pkg steps d scene).2.outside := by
  induction steps generalizing d scene with
  | nil => exact refl_of R _
  | cons step rest ih =>
    have hstep := hsteps step List.mem_cons_self d
    unfold takeAll
    split
    next d' scene' htake =>
      have hrest := ih (fun s hs => hsteps s (List.mem_cons_of_mem _ hs)) d' scene'
      exact trans_of R (hstep.of_run htake) hrest
    next fault scene' htake => exact hstep.of_run htake

namespace Within

variable {ω : Type} {R : ω → ω → Prop} [IsPreorder ω R] {rig : Rig ω} (hrig : rig.Within R)
include hrig

theorem take (pkg : String) (d : Draft) {step : Step} (hbefore : step ≠ .readSensorsBefore)
    (hafter : step ≠ .readSensorsAfter) : Act.Within (Scene.Via R) (rig.take pkg d step) := by
  cases step with
  | checkScript => exact .bind (.lift _) fun _ => .pure _
  | clearLog => exact .bind hrig.clearLog.task.taskOutcome fun _ => .pure _
  | readSensorsBefore => exact absurd rfl hbefore
  | install target => exact .bind (hrig.install target _ _).task fun _ => .pure _
  | settleInstall => exact .bind (hrig.sleep _) fun _ => .pure _
  | findLabel => exact .bind (hrig.findLabel pkg).task fun _ => .pure _
  | select => exact .bind (hrig.select _) fun _ => .pure _
  | wake => exact .bind hrig.wake fun _ => .pure _
  | settleSelection => exact .bind (hrig.sleep _) fun _ => .pure _
  | wakeAgain => exact .bind hrig.wake fun _ => .pure _
  | playScript => exact .bind (hrig.play _) fun _ => .pure _
  | deselect => exact .bind (hrig.deselect _) fun _ => .pure _
  | settleDeselection => exact .bind (hrig.sleep _) fun _ => .pure _
  | readSensorsAfter => exact absurd rfl hafter
  | takeScreenshot phase => exact .bind hrig.screenshot.task fun _ => .pure _
  | saveScreenshot phase => exact take_saveScreenshot_within rig (hrig.save _ _)
  | awaitAmbient => exact .bind (hrig.sleep _) fun _ => .pure _

theorem uninstallAll (pkg : String) (targets : List Target) (o : ω) :
    R o (rig.uninstallAll pkg targets o).2 := by
  induction targets generalizing o with
  | nil => exact refl_of R o
  | cons target rest ih =>
    unfold Rig.uninstallAll
    split
    next x o' hrun => exact trans_of R ((hrig.uninstall target pkg).of_run hrun) (ih o')
    next fault o' hrun => exact trans_of R ((hrig.uninstall target pkg).of_run hrun) (ih o')

theorem cleanUp (pkg : String) (o : ω) : R o (rig.cleanUp pkg o).2 :=
  hrig.uninstallAll pkg [.wearable, .handheld] o

end Within

/-- Everything that a trial at the bench is made of, apart from reading the sensors and from taking and saving
screenshots, stays within a relation. -/
structure BenchActs (w : World) (R : Bench → Bench → Prop) (c : Connector) : Prop where
  connector : c.Within w R
  clearLog : ∀ device b, R b (b.run w (c.adb.command device ["logcat", "-c"])).2
  packages : ∀ device b, R b (b.run w (c.adb.command device ["shell", "pm", "list", "packages"])).2
  install : ∀ device path b, R b (b.run w (c.adb.command device ["install", path])).2
  uninstall : ∀ device pkg b, R b (b.run w (c.adb.command device ["uninstall", pkg])).2
  key : ∀ device key b, R b (b.run w (c.adb.command device ["shell", "input", "keyevent", key])).2
  launch : ∀ device component b,
    R b (b.run w (c.adb.command device ["shell", "am", "start", "-n", component])).2
  request : ∀ r b, R b (b.request w r).2
  hold : ∀ (b : Bench) automators, R b { b with automators }

/-- Everything that a trial at the bench is made of, apart from reading the sensors, stays within a
relation. -/
structure BenchWithin (w : World) (R : Bench → Bench → Prop) (c : Connector) : Prop extends
    BenchActs w R c where
  capture : ∀ device b,
    R b (b.run w (c.adb.command device ["shell", "screencap", "-p", Adb.remoteScreenshot])).2
  pull : ∀ device b, R b (b.run w (c.adb.command device ["pull", Adb.remoteScreenshot, w.scratch])).2
  files : ∀ (b : Bench) files, R b { b with files }

theorem BenchActs.atBench {w : World} {R : Bench → Bench → Prop} [IsPreorder Bench R] {c : Connector}
    (h : BenchActs w R c) (settings : Settings) (labels : Labels) (session : Session)
    (hscreenshot : (c.adb.screenshot w settings.wearSerial).Within R)
    {save : String → ByteArray → Act Bench Unit} (hsave : ∀ path content, (save path content).Within R) :
    { Rig.atBench w c settings labels session with save }.Within R := by
  have hslept := h.connector.slept
  have hsend := h.connector.send
  let player : Player Bench := ⟨session.watch w c, settings.timeouts⟩
  have hswipe := player.perform_within hslept hsend .swipeLeft
  have hhandheld := Handheld.atBench_within c.adb h.key h.launch h.request h.hold settings.appiumUrl
    (player.perform .swipeLeft)
  exact
    { clearLog := Adb.clearLog_within w c.adb (h.clearLog settings.wearSerial)
      install := fun target pkg path =>
        Adb.install_within w c.adb (h.packages (settings.serial target))
          (h.install (settings.serial target) path)
      uninstall := fun target pkg => Adb.uninstall_within w c.adb (h.uninstall (settings.serial target) pkg)
      screenshot := hscreenshot
      save := hsave
      findLabel := fun pkg => .lift (labels.lookup pkg)
      select := Handheld.select_within hhandheld hslept settings.timeouts settings.handheldSerial
      deselect := Handheld.deselect_within hhandheld hslept hswipe settings.timeouts settings.handheldSerial
      wake := hsend .wake
      play := fun script =>
        Registry.run_within hslept (show ∀ i, Act.Within (Scene.Via R) (player.watch.send i) from hsend) script
      sleep := .pause hslept }

theorem BenchWithin.atBench {w : World} {R : Bench → Bench → Prop} [IsPreorder Bench R] {c : Connector}
    (h : BenchWithin w R c) (settings : Settings) (labels : Labels) (session : Session) :
    (Rig.atBench w c settings labels session).Within R :=
  h.toBenchActs.atBench settings labels session
    (Adb.screenshot_within (h.capture settings.wearSerial) (h.pull settings.wearSerial) fun b => h.files b _)
    (Bench.save_within h.files)

end Rig

end WatchTrial
