import WatchTrial.Proofs.Answers
import WatchTrial.Proofs.Frame.Trial
/-!
# The faults of acts and tasks

An act raises a sort of faults when each fault that it can fail with is of that sort. The parts of a trial
raise routine faults only: lost links, failed commands, cancellation, complaints of the automation server and
plain words, in whatever order they are wrapped.
-/
namespace WatchTrial

variable {ω α β : Type}

namespace Fault

/-- The fault does not say, at any depth, that a gesture cannot be played, that a trial was not set up or that
text was skipped. -/
def Routine (fault : Fault) : Prop :=
  ∀ mark, mark = .unsupportedEvent ∨ mark = .setupFailed ∨ mark = .parseDegraded → fault.carries mark = false

variable {fault : Fault} {kind : Kind} {mark : Mark}

mutual

private theorem carries_of_kind? (hmark : kind.mark? = some mark) :
    ∀ fault : Fault, fault.kind? = some kind → fault.carries mark = true
  | .plain _, h | .mark _, h => nomatch h
  | .failure _ _ none, h => by
    cases h
    simp [carries, hmark]
  | .failure _ _ (some cause), h => by
    cases h
    simp [carries, hmark]
  | .context _ cause, h => carries_of_kind? hmark cause h
  | .joined causes, h => anyCarries_of_firstKind? hmark causes h

private theorem anyCarries_of_firstKind? (hmark : kind.mark? = some mark) :
    ∀ causes : List Fault, firstKind? causes = some kind → anyCarries mark causes = true
  | [], h => nomatch h
  | cause :: rest, h => by
    unfold anyCarries
    unfold firstKind? at h
    cases hkind : cause.kind? with
    | some found =>
      rw [hkind] at h
      cases h
      rw [carries_of_kind? hmark cause hkind, Bool.true_or]
    | none =>
      rw [hkind] at h
      rw [anyCarries_of_firstKind? hmark rest h, Bool.or_true]

end

theorem kindOf_ne (hmark : kind.mark? = some mark) (h : fault.carries mark = false) : fault.kindOf ≠ kind := by
  intro hkind
  unfold kindOf at hkind
  cases hfound : fault.kind? with
  | none =>
    rw [hfound] at hkind
    cases hkind
    cases hmark
  | some found =>
    rw [hfound] at hkind
    obtain rfl : found = kind := hkind
    rw [carries_of_kind? hmark fault hfound] at h
    cases h

namespace Routine

theorem plain (text : String) : Routine (.plain text) := fun _ _ => rfl

theorem canceled : Routine .canceled := by
  rintro _ (rfl | rfl | rfl) <;> rfl

private theorem reason : ∀ why : Reason, Routine why.fault
  | .cancelled => canceled
  | .because text => plain text

theorem invalidSession : Routine (.mark .invalidSession) := by
  rintro _ (rfl | rfl | rfl) <;> rfl

theorem context (h : fault.Routine) (about : String) : Routine (.context about fault) := h

theorem connectionLost (h : fault.Routine) (doing : String) : Routine (.connectionLost doing fault) := by
  intro mark hmark
  have hcause := h mark hmark
  rcases hmark with rfl | rfl | rfl <;> simp [Fault.connectionLost, carries, Kind.mark?, hcause]

theorem commandFailed (h : fault.Routine) (doing : String) : Routine (.commandFailed doing fault) := by
  intro mark hmark
  have hcause := h mark hmark
  rcases hmark with rfl | rfl | rfl <;> simp [Fault.commandFailed, carries, Kind.mark?, hcause]

end Routine

end Fault

/-- Every fault of the act is of this sort. -/
def Act.Raises (P : Fault → Prop) (a : Act ω α) : Prop := ∀ o fault, (a o).1 = .error fault → P fault

namespace Act.Raises

variable {P Q : Fault → Prop}

theorem of_run {a : Act ω α} (h : a.Raises P) {o o' : ω} {fault : Fault} (hrun : a o = (.error fault, o')) :
    P fault := h o fault (congrArg Prod.fst hrun)

theorem mono {a : Act ω α} (h : a.Raises P) (hPQ : ∀ fault, P fault → Q fault) : a.Raises Q :=
  fun o fault hfault => hPQ fault (h o fault hfault)

theorem pure (x : α) : (Pure.pure x : Act ω α).Raises P := fun _ _ h => nomatch h

theorem throw {fault : Fault} (h : P fault) : (MonadExcept.throw fault : Act ω α).Raises P := by
  rintro o _ ⟨⟩
  exact h

theorem get : (MonadState.get : Act ω ω).Raises P := fun _ _ h => nomatch h

theorem lift {e : Except Fault α} (h : ∀ fault, e = .error fault → P fault) : (liftM e : Act ω α).Raises P :=
  fun _ fault hfault => h fault hfault

theorem of (f : ω → α × ω) : (Act.of f).Raises P := fun _ _ h => nomatch h

theorem bind {a : Act ω α} {f : α → Act ω β} (ha : a.Raises P) (hf : ∀ x, (f x).Raises P) :
    (a >>= f).Raises P := by
  intro o fault hfault
  rcases hrun : a o with ⟨fault' | x, o'⟩
  · rw [Act.bind_error hrun] at hfault
    cases hfault
    exact ha.of_run hrun
  · rw [Act.bind_ok hrun] at hfault
    exact hf x o' fault hfault

theorem task {a : Act ω α} (ha : a.Raises P) : Act.Raises P a.task := fun scene => ha scene.outside

theorem mapFault {t : Task ω α} (ht : Act.Raises P t) {g : Fault → Fault}
    (hg : ∀ fault, P fault → Q (g fault)) :
    Act.Raises Q (t.mapFault g) := by
  intro scene fault hfault
  unfold Task.mapFault at hfault
  rcases hrun : t scene with ⟨fault' | x, scene'⟩ <;> rw [hrun] at hfault <;> cases hfault
  exact hg fault' (ht.of_run hrun)

private theorem bind_outcome {t : Task ω α} {f : Except Fault α → Task ω β} (ht : Act.Raises P t)
    (hok : ∀ x, Act.Raises Q (f (.ok x))) (herror : ∀ fault, P fault → Act.Raises Q (f (.error fault))) :
    Act.Raises Q (t.outcome >>= f) := by
  intro scene fault hfault
  rcases hrun : t scene with ⟨fault' | x, scene'⟩
  · have houtcome : t.outcome scene = (.ok (.error fault'), scene') := by simp [Task.outcome, hrun]
    rw [Act.bind_ok houtcome] at hfault
    exact herror fault' (ht.of_run hrun) scene' fault hfault
  · have houtcome : t.outcome scene = (.ok (.ok x), scene') := by simp [Task.outcome, hrun]
    rw [Act.bind_ok houtcome] at hfault
    exact hok x scene' fault hfault

theorem retryOnce {a : Act ω α} (ha : a.Raises P) {doing : String}
    (hdoing : ∀ fault, P fault → ¬ fault.carries .commandFailed = true → P (.commandFailed doing fault)) :
    (retryOnce doing a).Raises P := by
  intro o fault hfault
  unfold WatchTrial.retryOnce at hfault
  split at hfault
  · cases hfault
  · split at hfault
    · cases hfault
    next again _ hrun =>
      have hagain := ha.of_run hrun
      simp only at hfault
      split at hfault <;> cases hfault
      · exact hagain
      next hnot => exact hdoing again hagain hnot

section Pauses

variable [Sleeper ω]

theorem pause (h : ∀ o : ω, P (Sleeper.fault o)) (duration : Int64) : Act.Raises P (pause duration : Task ω Unit) := by
  intro scene fault hfault
  unfold WatchTrial.pause at hfault
  simp only at hfault
  split at hfault <;> cases hfault
  exact h _

theorem pollFrom (h : ∀ o : ω, P (Sleeper.fault o)) {step : Bool → Act ω (Option α)}
    (hstep : ∀ told, (step told).Raises P) (duration : Int64) (left : Nat) (cancelled : Bool) (o : ω) :
    ∀ fault, (pollFrom duration step left cancelled o).1 = .error fault → P fault := by
  fun_induction WatchTrial.pollFrom duration step left cancelled o with
  | case1 left cancelled o fault o' hrun =>
    rintro _ ⟨⟩
    exact (hstep _).of_run hrun
  | case2 => simp
  | case3 cancelled o o' hrun slept left hgo ih => exact ih
  | case4 =>
    rintro _ ⟨⟩
    exact h _

theorem poll (h : ∀ o : ω, P (Sleeper.fault o)) {step : Bool → Act ω (Option α)} (hstep : ∀ told, (step told).Raises P)
    (duration : Int64) : Act.Raises P (poll duration step) :=
  fun scene => pollFrom h hstep duration scene.left scene.cancelled scene.outside

end Pauses

theorem sequential : Task.Sequential fun t : Task ω Unit => Act.Raises P t :=
  ⟨.pure _, fun h h' => .bind h fun _ => h'⟩

end Act.Raises

private theorem Act.Chained.raises : Act.Chained fun α (a : Act ω α) => a.Raises Fault.Routine where
  pure := .pure
  refuse text := .throw (.plain text)
  bind := .bind

private theorem Act.Compositional.raises : Act.Compositional fun α (a : Act ω α) => a.Raises Fault.Routine where
  toChained := .raises
  get := .get
  retryOnce doing _ h := h.retryOnce fun _ hfault _ => hfault.commandFailed doing

/-- A failed command, with the reason why it failed. -/
def Fault.FailedCommand (fault : Fault) : Prop := ∃ doing why, fault = .commandFailed doing (Reason.fault why)

theorem Fault.FailedCommand.routine {fault : Fault} (h : fault.FailedCommand) : fault.Routine := by
  obtain ⟨doing, why, rfl⟩ := h
  exact (Routine.reason why).commandFailed doing

theorem Fault.FailedCommand.carries {fault : Fault} (h : fault.FailedCommand) :
    fault.carries .commandFailed = true := by
  obtain ⟨doing, why, rfl⟩ := h
  rfl

theorem Fault.FailedCommand.kindOf {fault : Fault} (h : fault.FailedCommand) :
    fault.kindOf = .commandFailed := by
  obtain ⟨doing, why, rfl⟩ := h
  rfl

namespace Adb

variable {w : World} {adb : Adb} {device : String}

theorem check_error {argv : List String} {b : Bench} {fault : Fault} (h : (check w argv b).1.2 = .error fault) :
    fault.FailedCommand := by
  unfold check execute at h
  simp only at h
  cases hfailure : (b.run w argv).1.failure with
  | some why =>
    simp only [hfailure] at h
    cases h
    exact ⟨_, why, rfl⟩
  | none =>
    simp only [hfailure] at h
    split at h <;> cases h
    exact ⟨_, .because _, rfl⟩

private theorem runChecked_raises (args : List String) :
    (adb.runChecked w device args).output.Raises Fault.FailedCommand := by
  intro b fault hfault
  unfold Ran.output runChecked at hfault
  rcases hrun : check w (adb.command device args) b with ⟨⟨output, fault' | _⟩, b'⟩ <;> rw [hrun] at hfault <;>
    cases hfault
  exact check_error (congrArg (fun run => run.1.2) hrun)

theorem readSensors_raises : (adb.readSensors w device).Raises Fault.FailedCommand :=
  .bind (runChecked_raises _) fun _ => .pure _

private theorem keyEvent_raises (key : String) : (adb.keyEvent w device key).Raises Fault.Routine :=
  .bind ((runChecked_raises _).mono fun _ h => h.routine) fun _ => .pure _

private theorem startActivity_raises (component : String) :
    (adb.startActivity w device component).Raises Fault.Routine :=
  .bind ((runChecked_raises _).mono fun _ h => h.routine) fun _ => .pure _

private theorem retry_raises (argv : List String) : (retry w argv).output.Raises Fault.FailedCommand := by
  let attempt : Act (Output × Bench) Unit := fun o =>
    ((check w argv o.2).1.2, (check w argv o.2).1.1, (check w argv o.2).2)
  have hattempt : attempt.Raises Fault.FailedCommand := fun _ _ hfault => check_error hfault
  intro b fault hfault
  let tried := retryOnce (" ".intercalate argv) attempt (default, b)
  have houtcome : ((retry w argv).output b).1 = tried.1.map fun _ => tried.2.1 := rfl
  rw [houtcome] at hfault
  rcases hrun : tried.1 with fault' | _ <;> rw [hrun] at hfault <;> cases hfault
  exact hattempt.retryOnce (fun fault hfault hnot => absurd hfault.carries hnot) (default, b) fault hrun

theorem install_raises (pkg path : String) : (adb.install w device pkg path).Raises Fault.FailedCommand := by
  have hinstalled : (adb.isInstalled w device pkg).Raises Fault.FailedCommand :=
    .bind (runChecked_raises _) fun _ => .pure _
  refine .bind hinstalled fun installed => ?_
  split
  · exact .pure _
  · refine .bind (retry_raises _) fun output => ?_
    split
    · exact .throw ⟨_, .because _, rfl⟩
    · exact .pure _

end Adb

private theorem Automator.ask_raises (w : World) (server method path : String) (body : Option Json) :
    (ask w server method path body).Raises Fault.Routine := by
  unfold ask
  split
  · exact .throw (.plain _)
  · refine .bind (.of _) fun response => .lift fun fault hfault => ?_
    unfold bodyOf at hfault
    split at hfault
    · cases hfault
      exact ((Fault.Routine.plain _).context _).context _
    · cases hfault
      exact (Fault.Routine.plain _).context _
    · split at hfault <;> cases hfault
      unfold refusal
      simp only
      split
      · exact Fault.Routine.invalidSession.context _
      · exact .plain _

theorem Handheld.atBench_raises (w : World) (adb : Adb) (server : String) (swipeAway : Task Bench Unit) :
    (atBench w adb server swipeAway).MadeOf fun _ a => a.Raises Fault.Routine :=
  have hask := Automator.ask_raises w
  { pressKey := fun _ key => Adb.keyEvent_raises key
    launch := fun _ component => Adb.startActivity_raises component
    open_ := fun _ => Automator.start_of .raises (hask _ _ _ _)
    isVisible := fun _ => Automator.isVisible_of .raises fun _ _ _ => hask _ _ _ _
    click := fun _ => Automator.click_of .raises fun _ _ _ => hask _ _ _ _
    scrollToEnd := fun _ => Automator.scrollToEnd_of .raises fun _ _ _ => hask _ _ _ _
    scrollTo := fun _ => Automator.scrollTo_of .raises fun _ _ _ => hask _ _ _ _
    keep := fun _ _ _ _ h => nomatch h
    orDrop := fun device _ a ha b fault hfault => by
      unfold orDrop at hfault
      split at hfault <;> cases hfault
      next hrun => exact ha.of_run hrun }

section Picking

variable [Sleeper ω] (hclock : ∀ o : ω, (Sleeper.fault o).Routine) {h : Handheld ω α}
  (hh : h.MadeOf fun _ a => a.Raises Fault.Routine)
include hclock hh

theorem Handheld.select_raises (timeouts : Timeouts) (device label : String) :
    Act.Raises Fault.Routine (h.select timeouts device label) := by
  refine .bind (Act.Raises.task ((hh.pressKey device _).retryOnce fun _ hfault _ => hfault.commandFailed _)) fun _ => ?_
  refine .bind (.poll hclock (fun _ => hh.lookForList .raises device) _) fun _ => ?_
  exact (hh.pick .raises device _).task

theorem Handheld.deselect_raises (hswipe : Act.Raises Fault.Routine h.swipeAway) (timeouts : Timeouts)
    (device label : String) : Act.Raises Fault.Routine (h.deselect timeouts device label) := by
  refine .bind (.pause hclock _) fun _ => .bind hswipe fun _ => ?_
  exact .bind (.pause hclock _) fun _ => select_raises hclock hh timeouts device _

end Picking

theorem Bench.fault_routine (b : Bench) : (Sleeper.fault b).Routine := .reason b.stop

theorem Link.send_raises {w : World} (link : Nat) (line : String) :
    (send w link line).Raises Fault.Routine := by
  intro b fault hfault
  change outcomeOf line (exchange w link line b).1 = .error fault at hfault
  cases hexchange : (exchange w link line b).1 with
  | line answer =>
    rw [hexchange] at hfault
    obtain ⟨text, rfl⟩ := valueOf_error hfault
    exact (Fault.Routine.plain text).commandFailed line
  | _ =>
    rw [hexchange] at hfault
    cases hfault
    exact (Fault.Routine.plain _).connectionLost line

namespace Session

variable {w : World} {c : Connector}

private theorem reestablish_raises (s : Session) (link : Nat) : Act.Raises Fault.Routine (reestablish w c s link) := by
  have hconnect : Act.Raises Fault.Routine (c.connect w s.device) := by
    refine .mapFault (P := Fault.Routine) (.poll Bench.fault_routine (fun told b fault hfault => ?_) _)
      fun fault h => ?_
    · cases hfault
    · exact h.connectionLost _
  refine .bind (.task (.of _)) fun _ => .bind hconnect fun fresh => ?_
  exact .bind (.task (.of _)) fun _ => .pure _

private theorem call_raises {f : Nat → Act Bench α} (hf : ∀ link, (f link).Raises Fault.Routine) :
    Act.Raises Fault.Routine (call w c f) := by
  have hcurrent : Act.Raises Fault.Routine current := by
    refine .bind .get fun scene => ?_
    split
    · split
      · exact .pure _
      · exact .throw (.plain _)
    · exact .throw (.plain _)
  refine .bind hcurrent fun (s, link) => .bind_outcome (hf link).task (fun x => .pure _) fun fault hfault => ?_
  dsimp only
  split
  · exact .throw hfault
  · exact .bind (reestablish_raises s link) fun fresh => (hf fresh).task

theorem send_raises (i : Input) : Act.Raises Fault.Routine (send w c i) := by
  refine call_raises fun link => ?_
  unfold Link.sendInput
  split
  next fault hline =>
    unfold Link.lineOf at hline
    split at hline <;> cases hline <;> exact .throw (.plain _)
  next line _ => exact .bind (Link.send_raises link line) fun _ => .pure _

end Session

end WatchTrial
