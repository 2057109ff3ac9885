import WatchTrial.Proofs.Answers
import WatchTrial.Proofs.DisplaySizes
import WatchTrial.Proofs.ManagedSession
import WatchTrial.Proofs.Patience
/-!
# Connecting until it works

The journal of connecting is a row of failed attempts, each followed by one pause, and then an attempt that
made a session or a pause that failed. An attempt reaches the device, dials a link, probes it and asks for the
display size; one that fails after its link was dialled closes the link again.
-/
namespace WatchTrial

open Bench

private theorem DisplaySize.positive_of_read {answer : String} {size : DisplaySize} (h : read answer = .ok size) :
    0 < size.width ∧ 0 < size.height := by
  obtain ⟨-, -, -, -, -, -, hpositive⟩ := read_ok_iff_decimals.mp h
  rw [Int64.lt_iff_toInt_lt, Int64.lt_iff_toInt_lt]
  exact hpositive

def Connector.probeLine : String := Link.variableLine livenessVariable

namespace Event

/-- An event of an attempt to connect: a command, a dial, or the probe or the end of a link. -/
def OfAttempt : Event → Prop
  | .ran .. | .started .. | .dialled .. | .closed _ => True
  | .sent _ text => text = Connector.probeLine ∨ text = "done"
  | .requested .. | .slept _ => False

variable {adb : Adb} {device : String} {e : Event}

theorem OfAttempt.pauseless (h : e.OfAttempt) : e.isPause = false := by
  cases e <;> first | rfl | exact h.elim

theorem Prepares.quiet (h : e.Prepares adb device) : e.Quiet := by
  cases e <;> trivial

theorem Prepares.ofAttempt (h : e.Prepares adb device) : e.OfAttempt := by
  cases e <;> trivial

end Event

/-- The moment of cancellation stays. -/
def Bench.SameMoment (before after : Bench) : Prop := after.cancelAfter = before.cancelAfter

instance : IsPreorder Bench SameMoment where
  refl _ := rfl
  trans _ _ _ h h' := h'.trans h

namespace Connector

/-- What is relied on where a run may be cancelled: a dial opens one link and leaves the moment of
cancellation alone. -/
structure DialsOnly (c : Connector) : Prop where
  oneLink : c.DialsOneLink
  moment : ∀ device b, (c.dial device b).2.cancelAfter = b.cancelAfter

theorem dialsOnly_dial (w : World) (doing : String) (adb : Adb) (delay : Int64) :
    DialsOnly ⟨adb, Bench.dial w doing, delay⟩ where
  oneLink := Bench.dial_opensOneLink w doing adb
  moment device b := by
    simp only [Bench.dial]
    cases w.dial b.past device <;> rfl

theorem dialsOnly_dialServer (w : World) (adb : Adb) (port delay : Int64) :
    DialsOnly ⟨adb, adb.dialServer w port, delay⟩ where
  oneLink := adb.dialServer_opensOneLink w port
  moment device := by
    have hdial (doing : String) : (Bench.dial w doing device).Within SameMoment :=
      (dialsOnly_dial w doing adb delay).moment device
    exact Adb.dialServer_within w adb (fun _ _ => rfl) (fun _ _ => rfl) hdial

variable (w : World) (c : Connector) (device : String)

/-- The command that connects the device ran, just when its id is a network address. -/
def Reached (events : List Event) : Prop :=
  if isNetworkAddress device then
    ∃ answer, events = [.ran (c.adb.command "" ["connect", device]) answer]
  else events = []

/-- The device was reached, and then a link to it was dialled. -/
def Dialled (events : List Event) : Prop :=
  ∃ reached prepared, c.Reached device reached ∧ (∀ e ∈ prepared, e.Prepares c.adb device) ∧
    events = reached ++ prepared ++ [.dialled device none]

/-- The events of an attempt that failed, after this past. The link of an attempt has the next number. -/
inductive FailedAttempt (past : List Event) : List Event → Prop
  | unreached (answer : Answer) (h : isNetworkAddress device = true) :
      FailedAttempt past [.ran (c.adb.command "" ["connect", device]) answer]
  | undialled {reached prepared dialling : List Event} {b : Bench} {fault : Fault}
      (hreached : c.Reached device reached) (hprepared : ∀ e ∈ prepared, e.Prepares c.adb device)
      (hdialling : dialling = prepared ∨ ∃ why, dialling = prepared ++ [.dialled device (some why)])
      (hb : b.past = past ++ reached) (hfault : (c.dial device b).1 = .error fault)
      (hleft : (c.dial device b).2.past = past ++ reached ++ dialling) :
      FailedAttempt past (reached ++ dialling)
  | unanswered {dialled : List Event} (h : c.Dialled device dialled) :
      FailedAttempt past (dialled ++ [.sent (dialCount past) probeLine,
        .sent (dialCount past) "done", .closed (dialCount past)])
  | unsized {dialled : List Event} (answer : Answer) (h : c.Dialled device dialled) :
      FailedAttempt past (dialled ++ [.sent (dialCount past) probeLine,
        .ran (c.adb.command device ["shell", "wm", "size"]) answer,
        .sent (dialCount past) "done", .closed (dialCount past)])

/-- The events of an attempt that made a session, after this past. -/
def SuccessfulAttempt (past events : List Event) (s : Session) : Prop :=
  ∃ dialled answer, c.Dialled device dialled ∧
    events = dialled ++ [.sent (dialCount past) probeLine,
      .ran (c.adb.command device ["shell", "wm", "size"]) answer] ∧
    (∃ text, (Link.receive [] (w.write (past ++ dialled) (dialCount past) probeLine)).1 = .line text ∧
      Link.Agrees text) ∧
    answer.failure = none ∧ answer.exit = 0 ∧ DisplaySize.read answer.stdout = .ok s.size ∧
    s = ⟨device, s.size, some (dialCount past), true⟩

/-- Failed attempts after a past, each followed by one pause. -/
inductive Retries : List Event → List Event → Prop
  | none (past : List Event) : Retries past []
  | again {past failed rest : List Event} (h : c.FailedAttempt device past failed)
      (hrest : Retries (past ++ failed ++ [.slept c.delay]) rest) :
      Retries past (failed ++ [.slept c.delay] ++ rest)

variable {w c device} {past : List Event}

theorem Reached.ran {events : List Event} (h : c.Reached device events) :
    ∀ e ∈ events, ∃ argv answer, e = .ran argv answer := by
  unfold Reached at h
  split at h
  · obtain ⟨answer, rfl⟩ := h
    simp
  · simp [h]

theorem Reached.quiet {events : List Event} (h : c.Reached device events) : ∀ e ∈ events, e.Quiet := by
  intro e he
  obtain ⟨argv, answer, rfl⟩ := h.ran e he
  trivial

theorem Reached.ofAttempt {events : List Event} (h : c.Reached device events) :
    ∀ e ∈ events, e.OfAttempt := by
  intro e he
  obtain ⟨argv, answer, rfl⟩ := h.ran e he
  trivial

theorem Dialled.ofAttempt {events : List Event} (h : c.Dialled device events) : ∀ e ∈ events, e.OfAttempt := by
  obtain ⟨reached, prepared, hreached, hprepared, rfl⟩ := h
  intro e he
  simp only [List.mem_append, List.mem_singleton] at he
  rcases he with (he | he) | rfl
  · exact hreached.ofAttempt e he
  · exact (hprepared e he).ofAttempt
  · trivial

theorem FailedAttempt.ofAttempt {events : List Event} (h : c.FailedAttempt device past events) :
    ∀ e ∈ events, e.OfAttempt := by
  intro e he
  cases h with
  | unreached answer hnetwork =>
    obtain rfl := List.mem_singleton.mp he
    trivial
  | undialled hreached hprepared hdialling =>
    rcases List.mem_append.mp he with he | he
    · exact hreached.ofAttempt e he
    · rcases hdialling with rfl | ⟨why, rfl⟩
      · exact (hprepared e he).ofAttempt
      · rcases List.mem_append.mp he with he | he
        · exact (hprepared e he).ofAttempt
        · obtain rfl := List.mem_singleton.mp he
          trivial
  | unanswered hdialled =>
    simp only [List.mem_append, List.mem_cons, List.not_mem_nil, or_false] at he
    rcases he with he | rfl | rfl | rfl
    · exact hdialled.ofAttempt e he
    all_goals simp [Event.OfAttempt]
  | unsized answer hdialled =>
    simp only [List.mem_append, List.mem_cons, List.not_mem_nil, or_false] at he
    rcases he with he | rfl | rfl | rfl | rfl
    · exact hdialled.ofAttempt e he
    all_goals simp [Event.OfAttempt]

theorem SuccessfulAttempt.ofAttempt {events : List Event} {s : Session}
    (h : c.SuccessfulAttempt w device past events s) : ∀ e ∈ events, e.OfAttempt := by
  obtain ⟨dialled, answer, hdialled, rfl, -⟩ := h
  intro e he
  simp only [List.mem_append, List.mem_cons, List.not_mem_nil, or_false] at he
  rcases he with he | rfl | rfl
  · exact hdialled.ofAttempt e he
  all_goals simp [Event.OfAttempt]

private theorem reach_course (w : World) (c : Connector) (device : String) (past : List Event) :
    Act.Triple (fun b => b.past = past) (c.reach w device)
      (fun _ b => ∃ reached, c.Reached device reached ∧ b.past = past ++ reached)
      (fun b => ∃ events, c.FailedAttempt device past events ∧ b.past = past ++ events) := by
  unfold reach
  split
  next hnetwork =>
    have hran : Act.Triple (fun b => b.past = past) (Act.of (c.adb.connect w device))
        (fun _ b => ∃ answer, b.past = past ++ [.ran (c.adb.command "" ["connect", device]) answer])
        (fun _ => False) := by
      rintro b rfl
      exact Adb.connect_within (R := fun b b' =>
        ∃ answer, b'.past = b.past ++ [.ran (c.adb.command "" ["connect", device]) answer])
        w c.adb (fun b => ⟨_, rfl⟩) b
    refine .bind (hran.consequence (fun _ h => h) (fun _ _ h => h) fun _ h => h.elim) fun (_, outcome) => ?_
    rintro b ⟨answer, hpast⟩
    cases outcome with
    | error fault => exact ⟨_, .unreached answer hnetwork, hpast⟩
    | ok _ => exact ⟨_, by simp [Reached, hnetwork], hpast⟩
  next hserial =>
    rintro b rfl
    exact ⟨[], by simp [Reached, hserial], (List.append_nil _).symm⟩

private theorem DialsOneLink.dial_course (hdial : c.DialsOneLink) (past : List Event) :
    Act.Triple (fun b => ∃ reached, c.Reached device reached ∧ b.past = past ++ reached) (c.dial device)
      (fun link b => link = dialCount past ∧ ∃ dialled, c.Dialled device dialled ∧ b.past = past ++ dialled)
      (fun b => ∃ events, c.FailedAttempt device past events ∧ b.past = past ++ events) := by
  rintro b ⟨reached, hreached, hb⟩
  obtain ⟨prepared, hprepared, -, hpast⟩ := hdial device b
  rcases hrun : c.dial device b with ⟨fault | link, b'⟩ <;> rw [hrun, hb] at hpast
  · have hdialling : ∃ dialling, (dialling = prepared ∨
        ∃ why, dialling = prepared ++ [.dialled device (some why)]) ∧
        b'.past = past ++ reached ++ dialling := by
      rcases hpast with hpast | ⟨why, hpast⟩
      · exact ⟨prepared, .inl rfl, hpast⟩
      · exact ⟨_, .inr ⟨why, rfl⟩, by rw [hpast, List.append_assoc]⟩
    obtain ⟨dialling, hdialling, hleft⟩ := hdialling
    refine ⟨reached ++ dialling, .undialled hreached hprepared hdialling hb (congrArg Prod.fst hrun) ?_, ?_⟩
    · rw [hrun]
      exact hleft
    · rw [hleft, List.append_assoc]
  · obtain ⟨rfl, hpast⟩ := hpast
    refine ⟨dialCount_append_quiet past hreached.quiet, reached ++ prepared ++ [.dialled device none],
      ⟨reached, prepared, hreached, hprepared, rfl⟩, ?_⟩
    rw [hpast]
    simp only [List.append_assoc]

section Probing

variable (w : World) (c : Connector) (device : String) (past : List Event)

private def Attached (b : Bench) : Prop :=
  Link.waiting b (dialCount past) = [] ∧ ∃ dialled, c.Dialled device dialled ∧ b.past = past ++ dialled

private def Answered (b : Bench) : Prop :=
  ∃ dialled, c.Dialled device dialled ∧
    (∃ text, (Link.receive [] (w.write (past ++ dialled) (dialCount past) probeLine)).1 = .line text ∧
      Link.Agrees text) ∧
    b.past = past ++ dialled ++ [.sent (dialCount past) probeLine]

/-- What was said on the link before it is closed. -/
private def Spoken (b : Bench) : Prop :=
  ∃ dialled, c.Dialled device dialled ∧
    (b.past = past ++ dialled ++ [.sent (dialCount past) probeLine] ∨
      ∃ answer, b.past = past ++ dialled ++ [.sent (dialCount past) probeLine,
        .ran (c.adb.command device ["shell", "wm", "size"]) answer])

private theorem attach_course :
    Act.Triple (fun b => ∃ dialled, c.Dialled device dialled ∧ b.past = past ++ dialled)
      (Link.attach (dialCount past)) (fun _ => c.Attached device past) (c.Spoken device past) := by
  intro b hb
  exact ⟨Link.waiting_leave (dialCount past) [] b, hb⟩

private theorem send_course :
    Act.Triple (c.Attached device past) (Link.send w (dialCount past) probeLine)
      (fun _ => c.Answered w device past) (c.Spoken device past) := by
  rintro b ⟨hread, dialled, hdialled, hb⟩
  have hpast : (Link.exchange w (dialCount past) probeLine b).2.past =
      past ++ dialled ++ [.sent (dialCount past) probeLine] := by
    rw [← hb]
    rfl
  have hanswer : (Link.exchange w (dialCount past) probeLine b).1 =
      (Link.receive [] (w.write (past ++ dialled) (dialCount past) probeLine)).1 := by
    rw [← hb, ← hread]
    rfl
  unfold Link.send
  simp only
  rcases houtcome : Link.outcomeOf probeLine (Link.exchange w (dialCount past) probeLine b).1 with fault | value
  · exact ⟨dialled, hdialled, .inl hpast⟩
  · exact ⟨dialled, hdialled, hanswer ▸ Link.outcomeOf_ok houtcome, hpast⟩

private theorem displaySize_course :
    Act.Triple (c.Answered w device past) (c.adb.displaySize w device)
      (fun size b => ∃ events,
        c.SuccessfulAttempt w device past events ⟨device, size, some (dialCount past), true⟩ ∧ b.past = past ++ events)
      (c.Spoken device past) := by
  rintro b ⟨dialled, hdialled, hanswered, hb⟩
  have hbench := Adb.displaySize_bench w c.adb device b
  rcases hrun : c.adb.displaySize w device b with ⟨fault | size, b'⟩
  · rw [hrun] at hbench
    let sizing := c.adb.command device ["shell", "wm", "size"]
    have hpast : b'.past = b.past ++ [.ran sizing (w.run b.past sizing)] := congrArg Bench.past hbench
    refine ⟨dialled, hdialled, .inr ⟨w.run b.past sizing, ?_⟩⟩
    rw [hpast, hb, List.append_assoc]
    rfl
  · obtain ⟨answer, hpast, hfailure, hexit, hread⟩ := Adb.displaySize_ok w hrun
    refine ⟨_, ⟨dialled, answer, hdialled, rfl, hanswered, hfailure, hexit, hread, rfl⟩, ?_⟩
    rw [hpast, hb]
    simp only [List.append_assoc]
    rfl

private theorem probe_course :
    Act.Triple (fun b => ∃ dialled, c.Dialled device dialled ∧ b.past = past ++ dialled)
      (c.probe w device (dialCount past))
      (fun s b => ∃ events, c.SuccessfulAttempt w device past events s ∧ b.past = past ++ events)
      (fun b => ∃ events, c.FailedAttempt device past events ∧ b.past = past ++ events) := by
  refine orClose_triple (E := c.Spoken device past) ?_ ?_
  · refine .bind (c.attach_course device past) fun _ => .bind (c.send_course w device past) fun _ => ?_
    exact .bind (c.displaySize_course w device past) fun size => .pure fun b hb => hb
  · rintro b ⟨dialled, hdialled, hpast | ⟨answer, hpast⟩⟩
    · exact ⟨_, .unanswered hdialled, by simp [Bench.close, Bench.note, hpast]⟩
    · exact ⟨_, .unsized answer hdialled, by simp [Bench.close, Bench.note, hpast]⟩

end Probing

private theorem DialsOneLink.attempt_course (hdial : c.DialsOneLink) (w : World) (device : String)
    (past : List Event) :
    Act.Triple (fun b => b.past = past) (c.attempt w device false)
      (fun s b => ∃ events, c.SuccessfulAttempt w device past events s ∧ b.past = past ++ events)
      (fun b => ∃ events, c.FailedAttempt device past events ∧ b.past = past ++ events) := by
  refine .bind (reach_course w c device past) fun _ => .bind (hdial.dial_course past) fun link => ?_
  refine .given fun hlink => ?_
  subst hlink
  exact probe_course w c device past

private theorem DialsOneLink.attempt_some (hdial : c.DialsOneLink) {told : Bool} {b : Bench} {s : Session}
    (h : (c.attempt w device told b).1.toOption = some s) :
    ∃ events, c.SuccessfulAttempt w device b.past events s ∧
      (c.attempt w device told b).2.past = b.past ++ events := by
  cases told with
  | true => cases h
  | false =>
    have hcourse := hdial.attempt_course w device b.past b rfl
    rcases hrun : c.attempt w device false b with ⟨fault | s', b'⟩ <;> rw [hrun] at h hcourse <;> cases h
    exact hcourse

private theorem DialsOneLink.attempt_none (hdial : c.DialsOneLink) {told : Bool} {b : Bench}
    (h : (c.attempt w device told b).1.toOption = none) :
    (told = true ∧ (c.attempt w device told b).2 = b) ∨
      ∃ events, c.FailedAttempt device b.past events ∧
        (c.attempt w device told b).2.past = b.past ++ events := by
  cases told with
  | true => exact .inl ⟨rfl, rfl⟩
  | false =>
    have hcourse := hdial.attempt_course w device b.past b rfl
    rcases hrun : c.attempt w device false b with ⟨fault | s', b'⟩ <;> rw [hrun] at h hcourse <;> cases h
    exact .inr hcourse

/-- The run made failed attempts with pauses between them, and then one that made a session, or it ended with a
pause that failed. -/
private def Polls (w : World) (c : Connector) (device : String) (scene : Scene Bench)
    (run : Except Fault Session × Scene Bench) : Prop :=
  ∃ retries, c.Retries device scene.outside.past retries ∧
    ((∃ s last, run.1 = .ok s ∧ c.SuccessfulAttempt w device (scene.outside.past ++ retries) last s ∧
      scene.GoesOn (retries ++ last) run.2) ∨
    ∃ last, run.1 = .error run.2.outside.stop.fault ∧
      (c.FailedAttempt device (scene.outside.past ++ retries) last ∨ last = [] ∧ scene.CancelledBy retries) ∧
      scene.CutShort (retries ++ last ++ [.slept c.delay]) run.2)

private theorem Polls.again {scene scene' : Scene Bench} {failed : List Event}
    {run : Except Fault Session × Scene Bench} (hfailed : c.FailedAttempt device scene.outside.past failed)
    (hpaused : scene.GoesOn (failed ++ [.slept c.delay]) scene') (h : c.Polls w device scene' run) :
    c.Polls w device scene run := by
  obtain ⟨retries, hretries, hend⟩ := h
  have hpast : scene'.outside.past = scene.outside.past ++ failed ++ [.slept c.delay] := by
    rw [hpaused.past, List.append_assoc]
  have hwhole : scene.outside.past ++ (failed ++ [.slept c.delay] ++ retries) = scene'.outside.past ++ retries := by
    rw [hpast]
    simp only [List.append_assoc]
  refine ⟨failed ++ [.slept c.delay] ++ retries, .again hfailed (hpast ▸ hretries), ?_⟩
  rw [hwhole]
  rcases hend with ⟨s, last, hs, hmade, hgoes⟩ | ⟨last, hfault, hlast, hcut⟩
  · refine .inl ⟨s, last, hs, hmade, ?_⟩
    rw [List.append_assoc]
    exact hpaused.trans hgoes
  · refine .inr ⟨last, hfault, hlast.imp_right (And.imp_right (hpaused.cancelledBy_append _).mpr), ?_⟩
    rw [List.append_assoc, List.append_assoc, ← List.append_assoc retries]
    exact .after hpaused hcut

namespace DialsOnly

variable (hdial : c.DialsOnly)
include hdial

private theorem dial_pauseless (device : String) : (c.dial device).Within Pauseless := by
  have hgrew : (c.dial device).Within (Grew fun e => e.isPause = false) := by
    exact hdial.oneLink.dial_grew (fun e he => he.ofAttempt.pauseless) fun _ => rfl
  exact fun b => ⟨hgrew b, hdial.moment device b⟩

theorem attempt_pauseless (w : World) (device : String) (told : Bool) :
    (c.attempt w device told).Within Pauseless := by
  unfold attempt
  split
  · exact .throw _
  · refine .bind (reach_within (Pauseless.run w _)) fun _ => .bind (hdial.dial_pauseless device) fun link => ?_
    refine orClose_within ?_ (Pauseless.close link)
    refine .bind (.of (Pauseless.leave link [])) fun _ => ?_
    refine .bind (Link.send_within w (Pauseless.exchange w link _)) fun _ => ?_
    exact .bind (Adb.displaySize_within w c.adb (Pauseless.run w _)) fun _ => .pure _

private theorem pollFrom_attempts (device : String) {step : Bool → Act Bench (Option Session)}
    (hstep : ∀ told b, step told b =
      (.ok (c.attempt w device told b).1.toOption, (c.attempt w device told b).2))
    (left : Nat) (cancelled : Bool) (b : Bench) :
    c.Polls w device ⟨left, cancelled, b⟩ (pollFrom c.delay step left cancelled b) := by
  have hquiet (told : Bool) : (step told).Within Pauseless := by
    intro b
    rw [hstep]
    exact hdial.attempt_pauseless w device told b
  have hgave {told : Bool} {b b' : Bench} {found : Option Session} (hrun : step told b = (.ok found, b')) :
      (c.attempt w device told b).1.toOption = found ∧ (c.attempt w device told b).2 = b' := by
    rw [hstep] at hrun
    obtain ⟨hfound, hb'⟩ := Prod.mk.inj hrun
    exact ⟨Except.ok.inj hfound, hb'⟩
  fun_induction pollFrom c.delay step left cancelled b with
  | case1 left cancelled b fault b' hrun =>
    rw [hstep] at hrun
    cases hrun
  | case2 left cancelled b s b' hrun =>
    obtain ⟨hmade, rfl⟩ := hgave hrun
    obtain ⟨last, hlast, hpast⟩ := hdial.oneLink.attempt_some hmade
    refine ⟨[], .none _, .inl ⟨s, last, rfl, ?_, ?_⟩⟩
    · rw [List.append_nil]
      exact hlast
    · exact Pauseless.goesOn_of ⟨left, cancelled, b⟩ ((hquiet _).of_run hrun) hpast
  | case3 cancelled b b' hrun slept left hgo ih =>
    obtain ⟨hnone, hb'⟩ := hgave hrun
    rcases hdial.oneLink.attempt_none hnone with ⟨htold, hsame⟩ | ⟨failed, hfailed, hpast⟩
    · -- the run was cancelled before the attempt, so the pause cannot have ended well
      obtain rfl : b = b' := hsame.symm.trans hb'
      let scene : Scene Bench := ⟨left + 1, cancelled, b⟩
      have hcancelled : scene.CancelledBy [.slept c.delay] := (Scene.cancelledBy_nil.mpr htold).append _
      rw [Scene.cancelledBy_pause, hgo] at hcancelled
      cases hcancelled
    · rw [hb'] at hpast
      have htried := Pauseless.goesOn_of ⟨left + 1, cancelled, b⟩ ((hquiet _).of_run hrun) hpast
      exact .again hfailed (htried.trans (.pause rfl hgo)) ih
  | case4 cancelled b b' hrun slept left hstop =>
    obtain ⟨hnone, hb'⟩ := hgave hrun
    have hfails : (⟨left, cancelled, b'⟩ : Scene Bench).FailsAfter [.slept c.delay] :=
      Scene.failsAfter_of_stop hstop
    rcases hdial.oneLink.attempt_none hnone with ⟨htold, hsame⟩ | ⟨failed, hfailed, hpast⟩
    · obtain rfl : b = b' := hsame.symm.trans hb'
      refine ⟨[], .none _, .inr ⟨[], rfl, .inr ⟨rfl, Scene.cancelledBy_nil.mpr htold⟩, ?_⟩⟩
      exact .pause hfails rfl
    · rw [hb'] at hpast
      have htried := Pauseless.goesOn_of ⟨left, cancelled, b⟩ ((hquiet _).of_run hrun) hpast
      refine ⟨[], .none _, .inr ⟨failed, rfl, .inl ?_, ?_⟩⟩
      · rw [List.append_nil]
        exact hfailed
      · exact .after htried (.pause hfails rfl)

theorem connect_course (w : World) (device : String) (scene : Scene Bench) :
    let run := c.connect w device scene
    let past := scene.outside.past
    ∃ retries, c.Retries device past retries ∧
      ((∃ s last, run.1 = .ok s ∧ c.SuccessfulAttempt w device (past ++ retries) last s ∧
        scene.GoesOn (retries ++ last) run.2) ∨
      ∃ last, run.1 = .error (.connectionLost ("connect " ++ device) run.2.outside.stop.fault) ∧
        (c.FailedAttempt device (past ++ retries) last ∨ last = [] ∧ scene.CancelledBy retries) ∧
        scene.CutShort (retries ++ last ++ [.slept c.delay]) run.2) := by
  obtain ⟨retries, hretries, hend⟩ := hdial.pollFrom_attempts (w := w) device (fun _ _ => rfl) scene.left
    scene.cancelled scene.outside
  refine ⟨retries, hretries, hend.imp ?_ ?_⟩
  · rintro ⟨s, last, hs, hend⟩
    exact ⟨s, last, congrArg (Except.mapError _) hs, hend⟩
  · rintro ⟨last, hfault, hend⟩
    exact ⟨last, congrArg (Except.mapError _) hfault, hend⟩

theorem connect_ok {scene scene' : Scene Bench} {s : Session}
    (h : c.connect w device scene = (.ok s, scene')) :
    ∃ retries last, c.Retries device scene.outside.past retries ∧
      c.SuccessfulAttempt w device (scene.outside.past ++ retries) last s ∧
      scene.GoesOn (retries ++ last) scene' := by
  obtain ⟨retries, hretries, hend⟩ := hdial.connect_course w device scene
  rw [h] at hend
  rcases hend with ⟨s, last, hs, hmade, hgoes⟩ | ⟨last, hfault, -⟩
  · cases hs
    exact ⟨retries, last, hretries, hmade, hgoes⟩
  · cases hfault

theorem connect_error {scene scene' : Scene Bench} {fault : Fault}
    (h : c.connect w device scene = (.error fault, scene')) :
    fault = .connectionLost ("connect " ++ device) scene'.outside.stop.fault ∧
      ∃ retries last, c.Retries device scene.outside.past retries ∧
        (c.FailedAttempt device (scene.outside.past ++ retries) last ∨
          last = [] ∧ scene.CancelledBy retries) ∧
        scene.CutShort (retries ++ last ++ [.slept c.delay]) scene' := by
  obtain ⟨retries, hretries, hend⟩ := hdial.connect_course w device scene
  rw [h] at hend
  rcases hend with ⟨s, last, hs, -⟩ | ⟨last, hfault, hend⟩
  · cases hs
  · exact ⟨Except.error.inj hfault, retries, last, hretries, hend⟩

end DialsOnly

theorem SuccessfulAttempt.eq {events : List Event} {s : Session}
    (h : c.SuccessfulAttempt w device past events s) : s = ⟨device, s.size, some (dialCount past), true⟩ := by
  obtain ⟨_, _, -, -, -, -, -, -, hs⟩ := h
  exact hs

private theorem SuccessfulAttempt.isOpen {events : List Event} {s : Session}
    (h : c.SuccessfulAttempt w device past events s) :
    ∃ link, s.link = some link ∧ Link.IsOpen (past ++ events) link := by
  obtain ⟨_, answer, ⟨reached, prepared, hreached, hprepared, rfl⟩, rfl, -, -, -, -, hs⟩ := h
  refine ⟨dialCount past, by rw [hs], past ++ (reached ++ prepared), device, [.sent (dialCount past) probeLine,
    .ran (c.adb.command device ["shell", "wm", "size"]) answer], ?_, ?_, ?_⟩
  · simp only [List.append_assoc, List.cons_append, List.nil_append]
  · refine dialCount_append_quiet past fun e he => ?_
    rcases List.mem_append.mp he with he | he
    · exact hreached.quiet e he
    · exact (hprepared e he).quiet
  · simp

theorem SuccessfulAttempt.isOpen_after {scene scene' : Scene Bench} {retries last : List Event} {s : Session}
    (h : c.SuccessfulAttempt w device (scene.outside.past ++ retries) last s)
    (hgoes : scene.GoesOn (retries ++ last) scene') :
    ∃ link, s.link = some link ∧ Link.IsOpen scene'.outside.past link := by
  rw [hgoes.past, ← List.append_assoc]
  exact h.isOpen

theorem SuccessfulAttempt.positive {events : List Event} {s : Session}
    (h : c.SuccessfulAttempt w device past events s) : 0 < s.size.width ∧ 0 < s.size.height := by
  obtain ⟨_, answer, -, -, -, -, -, hread, -⟩ := h
  exact DisplaySize.positive_of_read hread

/-- Connecting makes attempts that fail, each followed by one pause, until an attempt makes a session or a
pause fails; attempts themselves do not pause. The session is over the open link of the last attempt and has
the size that the device gave in it. After a pause that failed no link of an attempt is open; the fault says
that there is no connection, has the fault of the pause as a part and every mark of it. -/
theorem connect_until_it_works (w : World) (c : Connector) (hdial : c.DialsOnly) (device : String)
    (scene : Scene Bench) :
    let run := c.connect w device scene
    let past := scene.outside.past
    (∀ s, run.1 = .ok s → ∃ retries last link,
      c.Retries device past retries ∧ c.SuccessfulAttempt w device (past ++ retries) last s ∧
      scene.GoesOn (retries ++ last) run.2 ∧
      s.link = some link ∧ Link.IsOpen run.2.outside.past link ∧ 0 < s.size.width ∧ 0 < s.size.height) ∧
    (∀ fault, run.1 = .error fault → ∃ retries last,
      c.Retries device past retries ∧
      -- a run that was cancelled before makes no attempt any more
      (c.FailedAttempt device (past ++ retries) last ∨ last = [] ∧ scene.CancelledBy retries) ∧
      scene.CutShort (retries ++ last ++ [.slept c.delay]) run.2 ∧
      (∀ link, dialCount past ≤ link → ¬ Link.IsOpen run.2.outside.past link) ∧
      fault.carries .connectionLost = true ∧ run.2.outside.stop.fault ∈ fault.parts ∧
      ∀ mark, run.2.outside.stop.fault.carries mark = true → fault.carries mark = true) ∧
    (∀ past' attempt, c.FailedAttempt device past' attempt → ∀ e ∈ attempt, e.isPause = false) ∧
    ∀ past' attempt s, c.SuccessfulAttempt w device past' attempt s → ∀ e ∈ attempt, e.isPause = false := by
  intro run past
  refine ⟨fun s hs => ?_, fun fault hfault => ?_, fun _ _ hfailed e he => (hfailed.ofAttempt e he).pauseless,
    fun _ _ _ hmade e he => (hmade.ofAttempt e he).pauseless⟩
  · have hconnect : c.connect w device scene = (.ok s, run.2) := Prod.ext hs rfl
    obtain ⟨retries, last, hretries, hmade, hgoes⟩ := hdial.connect_ok hconnect
    obtain ⟨link, hlink, hopen⟩ := hmade.isOpen_after hgoes
    exact ⟨retries, last, link, hretries, hmade, hgoes, hlink, hopen, hmade.positive⟩
  · have hconnect : c.connect w device scene = (.error fault, run.2) := Prod.ext hfault rfl
    obtain ⟨rfl, retries, last, hretries, hlast, hcut⟩ := hdial.connect_error hconnect
    have hpart : run.2.outside.stop.fault ∈
        (Fault.connectionLost ("connect " ++ device) run.2.outside.stop.fault).parts := by
      simp [Fault.connectionLost, Fault.parts, Fault.mem_parts_self]
    refine ⟨retries, last, hretries, hlast, hcut, fun link hlink hopen => ?_, rfl, hpart,
      fun mark => Fault.carries_of_part hpart⟩
    have hstart : scene.outside.Keeps (dialCount past) none scene.outside.session := ⟨.start _, rfl⟩
    obtain ⟨htidy, -⟩ := (hdial.oneLink.connect_triple w device).of_error hstart hconnect
    cases htidy.isCurrent link hlink hopen

end Connector

/-! A watch in the network that refuses the first link, does not answer on the second and works with the
third. -/
namespace ThirdLink

def device : String := "10.0.0.7:5555"

def world : World where
  finds _ := true
  run _ argv :=
    { stdout := if argv.contains "connect" then "connected to 10.0.0.7:5555" else "Physical size: 10x20" }
  start _ _ := none
  dial past _ := if dialCount past = 0 then some "connection refused" else none
  write _ link _ := .arrived (if link = 1 then "" else "OK:watch\n") "end of file"
  request _ _ := .failed "no server"
  scratch := ""

def connector : Connector := ⟨{}, Adb.dialServer world {} 1080, 5⟩

def session : Session := ⟨device, ⟨10, 20⟩, some 2, true⟩

def connect (left : Nat) : Except Fault Session × Scene Bench :=
  connector.connect world device { left, outside := {} }

end ThirdLink

theorem Connector.connect_until_it_works_third :
    ((ThirdLink.connect 2).1 = .ok ThirdLink.session ∧
      ∃ retries last, ThirdLink.connector.Retries ThirdLink.device [] retries ∧
        ThirdLink.connector.SuccessfulAttempt ThirdLink.world ThirdLink.device retries last ThirdLink.session ∧
        (ThirdLink.connect 2).2.outside.past = retries ++ last ∧
        Link.IsOpen (ThirdLink.connect 2).2.outside.past 2) ∧
    ∃ fault, (ThirdLink.connect 1).1 = .error fault ∧ fault.carries .canceled = true ∧
      ∀ link, ¬ Link.IsOpen (ThirdLink.connect 1).2.outside.past link := by
  have hdial := dialsOnly_dialServer ThirdLink.world {} 1080 5
  have hcourse (left : Nat) := connect_until_it_works ThirdLink.world ThirdLink.connector hdial ThirdLink.device
    { left, outside := {} }
  refine ⟨?_, ?_⟩
  · have hmade : (ThirdLink.connect 2).1 = .ok ThirdLink.session := by
      refine Act.eq_ok_of_toOption ?_
      decide +kernel
    obtain ⟨hworks, -⟩ := hcourse 2
    obtain ⟨retries, last, link, hretries, hlast, hgoes, hlink, hopen, -⟩ := hworks _ hmade
    obtain rfl : link = 2 := (Option.some.inj hlink).symm
    exact ⟨hmade, retries, last, hretries, hlast, hgoes.past, hopen⟩
  · have hgave : (ThirdLink.connect 1).1.toOption = none := by decide +kernel
    obtain ⟨-, hfails, -⟩ := hcourse 1
    cases hfault : (ThirdLink.connect 1).1 with
    | ok s => simp [hfault, Except.toOption] at hgave
    | error fault =>
      obtain ⟨_, _, -, -, -, hclosed, -, -, hcanceled⟩ := hfails fault hfault
      exact ⟨fault, rfl, hcanceled .canceled (by decide +kernel), fun link => hclosed link (Nat.zero_le _)⟩

end WatchTrial
