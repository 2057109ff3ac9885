import WatchTrial.Proofs.CancelledTrial
/-!
# What a report says about the removal of a package

A trial ends with two commands that remove its package, one for each device. Its report has no words about
them just when both could be run and ended with status zero. What they printed makes no difference, so a failure
that is only printed goes unreported, unlike that of an installation.
-/
namespace WatchTrial

private theorem Adb.uninstall_faultOf (w : World) (adb : Adb) (device pkg : String) (b : Bench) :
    faultOf (adb.uninstall w device pkg b).1 = none ↔
      (w.run b.past (adb.command device ["uninstall", pkg])).Succeeded := by
  let argv := adb.command device ["uninstall", pkg]
  let answer := w.run b.past argv
  change faultOf (((adb.run w device ["uninstall", pkg]).output >>= _) b).1 = none ↔ answer.Succeeded
  cases hfailure : answer.failure with
  | some why =>
    have hrun : (adb.run w device ["uninstall", pkg]).output b =
        (.error (.commandFailed (" ".intercalate argv) why.fault), (b.run w argv).2) := by
      rw [Ran.output, Adb.run, execute_failed w hfailure]
      rfl
    rw [Act.bind_error hrun]
    simp [faultOf, Answer.Succeeded, hfailure]
  | none =>
    have hrun : (adb.run w device ["uninstall", pkg]).output b = (.ok (outputOf argv answer), (b.run w argv).2) := by
      rw [Ran.output, Adb.run, execute_ran w hfailure]
      rfl
    rw [Act.bind_ok hrun]
    by_cases hexit : answer.exit = 0 <;>
      simp [faultOf, Answer.Succeeded, hfailure, hexit, Output.succeeded, outputOf]

namespace Rig

/-- The words about the end of a trial, whose last two events are the removal of the package. -/
def ReportsRemoval (adb : Adb) (settings : Settings) (pkg words : String) (after : Bench) : Prop :=
  ∃ before onWatch onHandheld, after.past = before ++ removal adb settings pkg onWatch onHandheld ∧
    (words = "" ↔ onWatch.Succeeded ∧ onHandheld.Succeeded)

private theorem run_reportsRemoval (w : World) (c : Connector) (settings : Settings) (labels : Labels)
    (session : Session) (steps : List Step) (pkg : String) (scene : Scene Bench) :
    let run := (Rig.atBench w c settings labels session).run steps pkg scene
    ReportsRemoval c.adb settings pkg run.1.cleanupError run.2.outside := by
  intro run
  let rig := Rig.atBench w c settings labels session
  let b := (rig.takeAll pkg steps {} scene).2.outside
  have hsilent : run.1.cleanupError = "" ↔ _ := cleanUp_silent_iff rig pkg b
  have hpast : run.2.outside.past = (rig.cleanUp pkg b).2.past := rfl
  rw [cleanUp_eq] at hpast
  simp only [rig, Rig.atBench, Adb.uninstall_bench, Adb.uninstall_faultOf] at hpast hsilent
  exact ⟨b.past, _, _, hpast.trans (List.append_assoc ..), hsilent⟩

/-- The report of a trial has no words about the removal of the package just when both commands for it could
be run and ended with status zero, whatever they printed. -/
theorem removal_reported (w : World) (c : Connector) (settings : Settings) (labels : Labels) (session : Session)
    (pkg : String) (scene : Scene Bench) :
    let rig := Rig.atBench w c settings labels session
    let leak := rig.runLeak pkg scene
    let display := rig.runDisplay pkg scene
    ReportsRemoval c.adb settings pkg leak.1.1.cleanupError leak.2.outside ∧
      ReportsRemoval c.adb settings pkg display.1.1.cleanupError display.2.outside :=
  ⟨run_reportsRemoval w c settings labels session leakSteps pkg scene,
    run_reportsRemoval w c settings labels session displaySteps pkg scene⟩

end Rig

/-! Devices that print that a package could not be removed, with status zero. -/
namespace PrintedFailure

def printed : String := "Failure [DELETE_FAILED_INTERNAL_ERROR]\n"

def world : World :=
  { GyroLeak.world with
    run := fun past argv =>
      if "uninstall" ∈ argv then { stdout := printed } else GyroLeak.world.run past argv }

def rig : Rig Bench :=
  Rig.atBench world ⟨{}, Bench.dial world "dial", 1⟩ { wearSerial := "w", handheldSerial := "h" } ⟨[("p", "L")]⟩
    GyroLeak.session

def removalPrinted (device : String) : List String :=
  ((rig.runLeak "p" GyroLeak.scene).2.outside.past.filterMap
    (Event.answerTo? ["adb", "-s", device, "uninstall", "p"])).map (·.stdout)

end PrintedFailure

open PrintedFailure in
/-- The package was removed from neither device, and the report has no words about it. An installation
that prints the same has failed. -/
theorem Rig.removal_failed_unreported :
    (PrintedFailure.rig.runLeak "p" GyroLeak.scene).1.1.cleanupError = "" ∧
    (PrintedFailure.rig.runDisplay "p" GyroLeak.scene).1.1.cleanupError = "" ∧
    removalPrinted "w" = [printed] ∧ removalPrinted "h" = [printed] ∧
    installFailure? printed = some "Failure [DELETE_FAILED_INTERNAL_ERROR]" := by
  decide +kernel

end WatchTrial
