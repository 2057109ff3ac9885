import WatchTrial.Device.Operations
import WatchTrial.Link.Command
import WatchTrial.Proofs.Outside
/-!
# What device commands and links do to a bench

A command changes a bench only by running, a line on a link only by being sent. So an operation on a device
or a link stays within every relation that its own commands and lines stay within.
-/
namespace WatchTrial

variable {R : Bench → Bench → Prop} (w : World)

/-- The command could be run and ended with status zero. -/
def Answer.Succeeded (answer : Answer) : Prop := answer.failure = none ∧ answer.exit = 0

instance : DecidablePred Answer.Succeeded := fun answer =>
  inferInstanceAs (Decidable (answer.failure = none ∧ answer.exit = 0))

namespace Adb

private theorem execute_bench (argv : List String) (b : Bench) : (execute w argv b).2 = (b.run w argv).2 := by
  unfold execute
  simp only
  split <;> rfl

def outputOf (argv : List String) (answer : Answer) : Output :=
  ⟨argv, answer.stdout, answer.stderr, answer.exit⟩

theorem execute_failed {argv : List String} {b : Bench} {why : Reason}
    (h : (w.run b.past argv).failure = some why) :
    execute w argv b = ((outputOf argv (w.run b.past argv),
      .error (.commandFailed (" ".intercalate argv) why.fault)), (b.run w argv).2) := by
  unfold execute
  dsimp only [Bench.run]
  rw [h]
  rfl

theorem execute_ran {argv : List String} {b : Bench} (h : (w.run b.past argv).failure = none) :
    execute w argv b = ((outputOf argv (w.run b.past argv), .ok ()), (b.run w argv).2) := by
  unfold execute
  dsimp only [Bench.run]
  rw [h]
  rfl

theorem check_bench (argv : List String) (b : Bench) : (check w argv b).2 = (b.run w argv).2 := by
  rw [← execute_bench]
  unfold check
  split
  next output ok b' hrun => rw [hrun]
  next => rfl

/-- What a command gives back is what the answer to its run says, whether or not it counts as done. -/
theorem check_output (argv : List String) (b : Bench) :
    (check w argv b).1.1 = ⟨argv, (w.run b.past argv).stdout, (w.run b.past argv).stderr,
      (w.run b.past argv).exit⟩ := by
  have hexecute : (execute w argv b).1.1 = ⟨argv, (w.run b.past argv).stdout, (w.run b.past argv).stderr,
      (w.run b.past argv).exit⟩ := by
    unfold execute Bench.run
    simp only
    split <;> rfl
  rw [← hexecute]
  unfold check
  split
  next output ok b' hrun => rw [hrun]
  next => rfl

theorem output_bench (r : Ran) (b : Bench) : (r.output b).2 = (r b).2 := rfl

theorem check_ok {argv : List String} {b : Bench} (h : (check w argv b).1.2 = .ok ()) :
    (w.run b.past argv).failure = none ∧ (w.run b.past argv).exit = 0 := by
  unfold check execute Bench.run at h
  simp only at h
  cases hfailure : (w.run b.past argv).failure with
  | some why => simp [hfailure] at h
  | none =>
    refine ⟨rfl, ?_⟩
    by_cases hexit : (w.run b.past argv).exit = 0
    · exact hexit
    · simp [hfailure, Output.succeeded, hexit] at h

/-- A checked command that counts as done could be run and ended with status zero. Its answer is the last
event, and its output is what that says. -/
theorem runChecked_ok {adb : Adb} {device : String} {args : List String} {b b' : Bench} {output : Output}
    (h : (adb.runChecked w device args).output b = (.ok output, b')) :
    ∃ answer, b'.past = b.past ++ [.ran (adb.command device args) answer] ∧
      output.stdout = answer.stdout ∧ answer.failure = none ∧ answer.exit = 0 := by
  let argv := adb.command device args
  have hbench := check_bench w argv b
  have houtput := check_output w argv b
  have hok : (check w argv b).1.2 = .ok () → _ := check_ok w
  unfold Ran.output runChecked at h
  rcases hrun : check w argv b with ⟨⟨output', fault | _⟩, b''⟩ <;>
    rw [hrun] at h hbench houtput hok <;> cases h
  exact ⟨w.run b.past argv, congrArg Bench.past hbench, congrArg Output.stdout houtput, hok rfl⟩

/-- A device that gives its display size has answered the question for it, as the last thing that happened. -/
theorem displaySize_ok {adb : Adb} {device : String} {b b' : Bench} {size : DisplaySize}
    (h : adb.displaySize w device b = (.ok size, b')) :
    ∃ answer, b'.past = b.past ++ [.ran (adb.command device ["shell", "wm", "size"]) answer] ∧
      answer.failure = none ∧ answer.exit = 0 ∧ DisplaySize.read answer.stdout = .ok size := by
  obtain ⟨output, _, hrun, hread⟩ := Act.of_bind_ok h
  obtain ⟨answer, hpast, hstdout, hdone⟩ := runChecked_ok w hrun
  rcases hsize : DisplaySize.read output.stdout with fault | size' <;> rw [hsize] at hread <;> cases hread
  exact ⟨answer, hpast, hdone.1, hdone.2, hstdout ▸ hsize⟩

theorem run_within (adb : Adb) {device : String} {args : List String}
    (h : ∀ b, R b (b.run w (adb.command device args)).2) : (adb.run w device args).output.Within R := by
  intro b
  rw [output_bench, run, execute_bench]
  exact h b

theorem runChecked_within (adb : Adb) {device : String} {args : List String}
    (h : ∀ b, R b (b.run w (adb.command device args)).2) :
    (adb.runChecked w device args).output.Within R := by
  intro b
  rw [output_bench, runChecked, check_bench]
  exact h b

theorem connect_within (adb : Adb) {address : String}
    (h : ∀ b, R b (b.run w (adb.command "" ["connect", address])).2) :
    (Act.of (adb.connect w address)).Within R := by
  refine .of fun b => ?_
  have hb := check_bench w (adb.command "" ["connect", address]) b
  unfold connect runChecked
  rcases hrun : check w (adb.command "" ["connect", address]) b with ⟨⟨output, fault | ok⟩, b'⟩ <;>
    rw [hrun] at hb <;> simp only at hb <;> subst hb
  · exact h b
  · simp only
    split
    · exact h b
    · split <;> exact h b

private theorem retry_bench (argv : List String) (b : Bench) :
    (retry w argv b).2 = (b.run w argv).2 ∨ (retry w argv b).2 = ((b.run w argv).2.run w argv).2 := by
  have hfirst := check_bench w argv b
  have hsecond := check_bench w argv (b.run w argv).2
  unfold retry retryOnce
  rcases h : check w argv b with ⟨⟨output, fault | ok⟩, b'⟩ <;> rw [h] at hfirst <;>
    simp only at hfirst <;> subst hfirst
  · rcases h' : check w argv (b.run w argv).2 with ⟨⟨output', fault' | ok'⟩, b''⟩ <;> rw [h'] at hsecond <;>
      exact .inr (by simpa [h, h'] using hsecond)
  · exact .inl (by simp [h])

private theorem retry_within [IsPreorder Bench R] {argv : List String} (h : ∀ b, R b (b.run w argv).2) :
    (retry w argv).output.Within R := by
  intro b
  rw [output_bench]
  rcases retry_bench w argv b with hb | hb <;> rw [hb]
  · exact h b
  · exact trans_of R (h b) (h _)

variable [IsPreorder Bench R] (adb : Adb) {device : String}

theorem displaySize_within (h : ∀ b, R b (b.run w (adb.command device ["shell", "wm", "size"])).2) :
    (adb.displaySize w device).Within R := by
  refine .bind (runChecked_within w adb h) fun output => ?_
  split
  · exact .pure _
  · exact .throw _

theorem keyEvent_within {key : String}
    (h : ∀ b, R b (b.run w (adb.command device ["shell", "input", "keyevent", key])).2) :
    (adb.keyEvent w device key).Within R :=
  .bind (runChecked_within w adb h) fun _ => .pure _

theorem startActivity_within {component : String}
    (h : ∀ b, R b (b.run w (adb.command device ["shell", "am", "start", "-n", component])).2) :
    (adb.startActivity w device component).Within R :=
  .bind (runChecked_within w adb h) fun _ => .pure _

theorem clearLog_within (h : ∀ b, R b (b.run w (adb.command device ["logcat", "-c"])).2) :
    (adb.clearLog w device).Within R :=
  .bind (runChecked_within w adb h) fun _ => .pure _

theorem install_within {pkg path : String}
    (hlist : ∀ b, R b (b.run w (adb.command device ["shell", "pm", "list", "packages"])).2)
    (hinstall : ∀ b, R b (b.run w (adb.command device ["install", path])).2) :
    (adb.install w device pkg path).Within R := by
  refine .bind (.bind (runChecked_within w adb hlist) fun _ => .pure _) fun installed => ?_
  split
  · exact .pure _
  · refine .bind (retry_within w hinstall) fun output => ?_
    split
    · exact .throw _
    · exact .pure _

theorem uninstall_within {pkg : String}
    (h : ∀ b, R b (b.run w (adb.command device ["uninstall", pkg])).2) :
    (adb.uninstall w device pkg).Within R := by
  refine .bind (run_within w adb h) fun output => ?_
  split
  · exact .pure _
  · exact .throw _

theorem dialServer_within {port : Int64} (hstart : ∀ argv b, R b (b.start w argv).2)
    (hrun : ∀ argv b, R b (b.run w argv).2) (hdial : ∀ doing, (Bench.dial w doing device).Within R) :
    (adb.dialServer w port device).Within R := by
  have hserver : (adb.startServer w port device).Within R := by
    refine .bind (.of fun b => hstart _ b) fun failure => ?_
    cases failure with
    | some why => exact .throw _
    | none => exact .pure _
  have hforward : (adb.forward w device port port).Within R :=
    .bind (runChecked_within w adb fun b => hrun _ b) fun _ => .pure _
  exact .bind hserver fun _ => .bind hforward fun _ => hdial _

theorem displaySize_bench (w : World) (adb : Adb) (device : String) (b : Bench) :
    (adb.displaySize w device b).2 = (b.run w (adb.command device ["shell", "wm", "size"])).2 := by
  rw [← check_bench]
  refine Act.bind_state (fun output b => ?_) b
  cases DisplaySize.read output.stdout <;> rfl

theorem uninstall_bench (w : World) (adb : Adb) (device pkg : String) (b : Bench) :
    (adb.uninstall w device pkg b).2 = (b.run w (adb.command device ["uninstall", pkg])).2 := by
  rw [← execute_bench]
  refine Act.bind_state (fun output b => ?_) b
  split <;> rfl

end Adb

namespace Link

theorem send_within {link : Nat} {command : String} (h : ∀ b, R b (exchange w link command b).2) :
    (send w link command).Within R := h

theorem sendInput_within [IsPreorder Bench R] {link : Nat} (h : ∀ text b, R b (exchange w link text b).2)
    (i : Input) : (sendInput w link i).Within R := by
  unfold sendInput
  split
  · exact .throw _
  · exact .bind (send_within w (h _)) fun _ => .pure _

theorem close_within {link : Nat} (h : ∀ b, R b (b.close link)) : (close link).Within R := h

end Link

end WatchTrial
