import WatchTrial.Proofs.Raising
/-!
# Acts that are tried again

An act that is retried is done once when it ends well and twice otherwise, and only its last outcome counts: the
first fault leaves no trace in the second one. For a command this means that it runs once or twice, and that what
it gives back belongs to its last run.
-/
namespace WatchTrial

variable {ω α : Type}

namespace Fault

/-- The fault as that of a failed command: words are put in front of it unless it says so already. -/
def asFailedCommand (doing : String) (fault : Fault) : Fault :=
  if fault.carries .commandFailed then fault else .commandFailed doing fault

variable (doing : String) (fault : Fault)

private theorem asFailedCommand_carries : (fault.asFailedCommand doing).carries .commandFailed = true := by
  unfold asFailedCommand
  split
  next h => exact h
  next => rfl

private theorem asFailedCommand_carries_of_ne {mark : Mark} (h : mark ≠ .commandFailed) :
    (fault.asFailedCommand doing).carries mark = fault.carries mark := by
  unfold asFailedCommand
  split
  next => rfl
  next => simp [commandFailed, carries, Kind.mark?, h.symm]

private theorem FailedCommand.asFailedCommand {fault : Fault} (h : fault.FailedCommand) (doing : String) :
    fault.asFailedCommand doing = fault := if_pos h.carries

end Fault

section Attempts

variable {a : Act ω α} {o o' : ω} (doing : String)

private theorem retryOnce_of_ok {x : α} (h : a o = (.ok x, o')) : retryOnce doing a o = (.ok x, o') := by
  simp [retryOnce, h]

private theorem retryOnce_of_error {fault : Fault} (h : a o = (.error fault, o')) :
    retryOnce doing a o = ((a o').1.mapError (·.asFailedCommand doing), (a o').2) := by
  rcases hagain : a o' with ⟨fault' | x, o''⟩ <;> simp only [retryOnce, h, hagain] <;> rfl

end Attempts

def Act.noted (a : Act ω α) : Act (List (Except Fault α) × ω) α :=
  fun o => ((a o.2).1, o.1 ++ [(a o.2).1], (a o.2).2)

/-- Noting the outcomes of an act that is retried does not change how it ends. -/
theorem retryOnce_noted (doing : String) (a : Act ω α) (o : ω) :
    retryOnce doing a.noted ([], o) =
      ((retryOnce doing a o).1, (if (a o).1.isOk then [(a o).1] else [(a o).1, (a (a o).2).1]),
        (retryOnce doing a o).2) := by
  rcases hfirst : a o with ⟨fault | x, o'⟩
  · have hnoted : a.noted ([], o) = (.error fault, [.error fault], o') := by simp [Act.noted, hfirst]
    rw [retryOnce_of_error doing hfirst, retryOnce_of_error doing hnoted]
    rfl
  · have hnoted : a.noted ([], o) = (.ok x, [.ok x], o') := by simp [Act.noted, hfirst]
    rw [retryOnce_of_ok doing hfirst, retryOnce_of_ok doing hnoted]
    rfl

namespace Adb

variable (w : World) {argv : List String} {b : Bench}

theorem check_succeeded (h : (w.run b.past argv).Succeeded) :
    check w argv b = ((outputOf argv (w.run b.past argv), .ok ()), (b.run w argv).2) := by
  simp [check, execute_ran w h.1, Output.succeeded, outputOf, h.2]

theorem check_failed (h : ¬ (w.run b.past argv).Succeeded) :
    ∃ fault, check w argv b = ((outputOf argv (w.run b.past argv), .error fault), (b.run w argv).2) := by
  have hbench := check_bench w argv b
  have houtput := check_output w argv b
  rcases hrun : check w argv b with ⟨⟨output, fault | _⟩, b'⟩ <;> rw [hrun] at hbench houtput
  · cases hbench
    cases houtput
    exact ⟨fault, rfl⟩
  · exact absurd (check_ok w (congrArg (·.1.2) hrun)) h

private theorem check_ok_iff : (check w argv b).1.2 = .ok () ↔ (w.run b.past argv).Succeeded :=
  ⟨check_ok w, fun h => congrArg (·.1.2) (check_succeeded w h)⟩

/-- A command that is retried is one that is checked, on the bench that a failed first run has left. -/
theorem retry_eq (argv : List String) (b : Bench) :
    retry w argv b = check w argv (if (w.run b.past argv).Succeeded then b else (b.run w argv).2) := by
  let attempt : Act (Output × Bench) Unit := fun o =>
    ((check w argv o.2).1.2, (check w argv o.2).1.1, (check w argv o.2).2)
  have hretry : retry w argv b =
      let tried := retryOnce (" ".intercalate argv) attempt (default, b)
      ((tried.2.1, tried.1), tried.2.2) := rfl
  rw [hretry]
  by_cases hfirst : (w.run b.past argv).Succeeded
  · have hrun := check_succeeded w hfirst
    have hattempt : attempt (default, b) = (.ok (), outputOf argv (w.run b.past argv), (b.run w argv).2) := by
      simp [attempt, hrun]
    rw [if_pos hfirst, hrun, retryOnce_of_ok _ hattempt]
  · obtain ⟨fault, hrun⟩ := check_failed w hfirst
    have hattempt : attempt (default, b) = (.error fault, outputOf argv (w.run b.past argv), (b.run w argv).2) := by
      simp [attempt, hrun]
    have hagain : (check w argv (b.run w argv).2).1.2.mapError (·.asFailedCommand (" ".intercalate argv)) =
        (check w argv (b.run w argv).2).1.2 := by
      cases hsecond : (check w argv (b.run w argv).2).1.2 with
      | ok => rfl
      | error fault => exact congrArg Except.error ((check_error hsecond).asFailedCommand _)
    rw [if_neg hfirst, retryOnce_of_error _ hattempt]
    exact congrArg (fun outcome => ((_, outcome), _)) hagain

private theorem retry_error {fault : Fault} (h : (retry w argv b).1.2 = .error fault) : fault.FailedCommand := by
  rw [retry_eq] at h
  exact check_error h

/-- The answers to a command that is retried. -/
def tries (argv : List String) (past : List Event) : List Answer :=
  let first := w.run past argv
  if first.Succeeded then [first] else [first, w.run (past ++ [.ran argv first]) argv]

theorem tries_cases (argv : List String) (past : List Event) :
    let first := w.run past argv
    first.Succeeded ∧ tries w argv past = [first] ∨
      ¬ first.Succeeded ∧ tries w argv past = [first, w.run (past ++ [.ran argv first]) argv] := by
  intro first
  by_cases h : first.Succeeded
  · exact .inl ⟨h, if_pos h⟩
  · exact .inr ⟨h, if_neg h⟩

/-- A command that is retried leaves its answers in the past, and its outcome is that of the last one. -/
theorem retry_tries (argv : List String) (b : Bench) :
    (retry w argv b).2.past = b.past ++ (tries w argv b.past).map (.ran argv) ∧
    ∃ last ∈ (tries w argv b.past).getLast?,
      (retry w argv b).1.1 = outputOf argv last ∧ ((retry w argv b).1.2 = .ok () ↔ last.Succeeded) := by
  rw [retry_eq, check_bench]
  rcases tries_cases w argv b.past with ⟨hfirst, htries⟩ | ⟨hfirst, htries⟩ <;> rw [htries]
  · rw [if_pos hfirst]
    exact ⟨rfl, _, rfl, check_output w argv b, check_ok_iff w⟩
  · rw [if_neg hfirst]
    refine ⟨?_, _, rfl, check_output w argv (b.run w argv).2, check_ok_iff w⟩
    exact List.append_assoc b.past [_] [_]

end Adb

/-- An act that is retried is done once or twice, and its last outcome is the one that counts. So a command that is
retried runs once or twice and gives back what its last run printed, whether or not that run counts as done. -/
theorem retried_at_most_once :
    (∀ {ω α : Type} (doing : String) (attempt : Act ω α) (o : ω),
      let first := attempt o
      let second := attempt first.2
      let run := retryOnce doing attempt.noted ([], o)
      run.2.1 = (if first.1.isOk then [first.1] else [first.1, second.1]) ∧
      retryOnce doing attempt o = (run.1, run.2.2) ∧
      (∀ x, run.1 = .ok x ↔ run.2.1.getLast? = some (.ok x)) ∧
      ∀ fault, run.1 = .error fault → fault.carries .commandFailed = true ∧
        ∃ cause, second.1 = .error cause ∧
          (fault = if cause.carries .commandFailed then cause else .commandFailed doing cause) ∧
          ∀ mark, mark ≠ .commandFailed → fault.carries mark = cause.carries mark) ∧
    ∀ (w : World) (argv : List String) (b : Bench),
      let first := w.run b.past argv
      let second := w.run (b.past ++ [.ran argv first]) argv
      let answers := if first.Succeeded then [first] else [first, second]
      let run := Adb.retry w argv b
      run.2.past = b.past ++ answers.map (.ran argv) ∧
      ∃ last ∈ answers.getLast?, run.1.1 = Adb.outputOf argv last ∧ (run.1.2 = .ok () ↔ last.Succeeded) ∧
        ∀ fault, run.1.2 = .error fault → fault.kindOf = .commandFailed := by
  refine ⟨?_, ?_⟩
  · intro ω α doing attempt o first second run
    have hrun : run = _ := retryOnce_noted doing attempt o
    rw [hrun]
    refine ⟨rfl, rfl, ?_⟩
    rcases hfirst : attempt o with ⟨fault | x, o'⟩
    · have hsecond : second = attempt o' := congrArg (fun first => attempt first.2) hfirst
      rcases hagain : attempt o' with ⟨cause | x, o''⟩
      · have hretried : retryOnce doing attempt o = (.error (cause.asFailedCommand doing), o'') := by
          rw [retryOnce_of_error doing hfirst, hagain]
          rfl
        rw [hretried, hsecond, hagain]
        refine ⟨by simp [Except.isOk, Except.toBool], ?_⟩
        rintro _ ⟨⟩
        refine ⟨cause.asFailedCommand_carries doing, cause, rfl, rfl, fun mark hmark => ?_⟩
        exact cause.asFailedCommand_carries_of_ne doing hmark
      · have hretried : retryOnce doing attempt o = (.ok x, o'') := by
          rw [retryOnce_of_error doing hfirst, hagain]
          rfl
        rw [hretried]
        simp [Except.isOk, Except.toBool]
    · rw [retryOnce_of_ok doing hfirst]
      simp [Except.isOk, Except.toBool]
  · intro w argv b first second answers run
    obtain ⟨hpast, last, hlast, houtput, hok⟩ := Adb.retry_tries w argv b
    exact ⟨hpast, last, hlast, houtput, hok, fun fault hfault => (Adb.retry_error w hfault).kindOf⟩

end WatchTrial
