import WatchTrial.Proofs.FaultTrees
import WatchTrial.Proofs.Journal
/-!
# Pauses that fail

Which pause of a run fails is settled by the scene in which the run begins: every pause of a run that was
cancelled before, the first one for which no patience is left, and the first one at or after the moment at
which the outside cancels. A task halts when nothing follows a pause that fails and its fault then has the
fault of the pause as a part. Tasks that halt can be put together in every way in which those of a trial are.
-/
namespace WatchTrial

variable {α β : Type}

def Event.isPause : Event → Bool
  | .slept _ => true
  | _ => false

theorem Event.eq_slept {e : Event} (h : e.isPause = true) : ∃ duration, e = .slept duration := by
  cases e with
  | slept duration => exact ⟨duration, rfl⟩
  | _ => cases h

/-- The run that began in the scene has been cancelled by the time of these events. -/
def Scene.CancelledBy (scene : Scene Bench) (events : List Event) : Prop :=
  scene.cancelled = true ∨
    ∃ moment, scene.outside.cancelAfter = some moment ∧ moment ≤ scene.outside.past.length + events.length

/-- The last of these events, which follow the scene, is a pause that fails. -/
def Scene.FailsAfter (scene : Scene Bench) (events : List Event) : Prop :=
  scene.left < events.countP Event.isPause ∨ scene.CancelledBy events

/-- The events take the scene to another one, and every pause among them ended well. -/
structure Scene.GoesOn (scene : Scene Bench) (events : List Event) (scene' : Scene Bench) : Prop where
  past : scene'.outside.past = scene.outside.past ++ events
  moment : scene'.outside.cancelAfter = scene.outside.cancelAfter
  cancelled : scene'.cancelled = scene.cancelled
  left : scene'.left + events.countP Event.isPause = scene.left
  paused : ∀ before duration after, events = before ++ .slept duration :: after →
    ¬ scene.FailsAfter (before ++ [.slept duration])

/-- The events end with a pause that fails, and every pause before it ended well. -/
structure Scene.CutShort (scene : Scene Bench) (events : List Event) (scene' : Scene Bench) : Prop where
  past : scene'.outside.past = scene.outside.past ++ events
  fails : scene.FailsAfter events
  lastPause : ∃ before duration between,
    events = before ++ [.slept duration] ∧ scene.GoesOn before between

theorem split_append {es fs before after : List Event} {e : Event} (h : es ++ fs = before ++ e :: after) :
    (∃ rest, es = before ++ e :: rest ∧ after = rest ++ fs) ∨
      ∃ rest, before = es ++ rest ∧ fs = rest ++ e :: after := by
  rcases List.append_eq_append_iff.mp h with ⟨rest, hbefore, hfs⟩ | ⟨rest, hes, hrest⟩
  · exact .inr ⟨rest, hbefore, hfs⟩
  · cases rest with
    | nil => exact .inr ⟨[], by simpa using hes.symm, by simpa using hrest.symm⟩
    | cons first rest =>
      obtain ⟨rfl, rfl⟩ := List.cons.inj hrest
      exact .inl ⟨rest, hes, rfl⟩

namespace Scene

variable {scene scene' scene'' : Scene Bench} {events later : List Event}

theorem cancelledBy_nil : scene.CancelledBy [] ↔
    (scene.cancelled || Sleeper.cancels scene.outside) = true := by
  simp [CancelledBy, Sleeper.cancels, Option.any_eq_true]

theorem cancelledBy_pause (scene : Scene Bench) (duration : Int64) :
    scene.CancelledBy [.slept duration] ↔
      (scene.cancelled || Sleeper.cancels (Sleeper.slept duration scene.outside)) = true := by
  simp [CancelledBy, Sleeper.cancels, Sleeper.slept, Bench.note, Option.any_eq_true]

theorem CancelledBy.append (h : scene.CancelledBy events) (later : List Event) :
    scene.CancelledBy (events ++ later) := by
  refine h.imp_right ?_
  rintro ⟨moment, hmoment, hle⟩
  refine ⟨moment, hmoment, ?_⟩
  rw [List.length_append]
  omega

private theorem failsAfter_pause (scene : Scene Bench) (duration : Int64) :
    scene.FailsAfter [.slept duration] ↔
      scene.left = 0 ∨ (scene.cancelled || Sleeper.cancels (Sleeper.slept duration scene.outside)) = true := by
  refine or_congr ?_ (scene.cancelledBy_pause duration)
  simp [Event.isPause]

theorem failsAfter_of_stop {duration : Int64} (hstop : ∀ left, scene.left = left + 1 →
    (scene.cancelled || Sleeper.cancels (Sleeper.slept duration scene.outside)) = false → False) :
    scene.FailsAfter [.slept duration] := by
  rw [failsAfter_pause]
  cases hleft : scene.left with
  | zero => exact .inl rfl
  | succ left => exact .inr (eq_true_of_ne_false (hstop left hleft))

namespace GoesOn

/-- Whether the run is cancelled later can be told from the scene that was reached. -/
theorem cancelledBy_append (h : scene.GoesOn events scene') (later : List Event) :
    scene.CancelledBy (events ++ later) ↔ scene'.CancelledBy later := by
  have hlength : scene'.outside.past.length = scene.outside.past.length + events.length := by
    rw [h.past, List.length_append]
  simp only [CancelledBy, h.cancelled, h.moment, hlength, List.length_append, Nat.add_assoc]

private theorem failsAfter_append (h : scene.GoesOn events scene') (later : List Event) :
    scene.FailsAfter (events ++ later) ↔ scene'.FailsAfter later := by
  have hleft := h.left
  have hpatience : scene.left < (events ++ later).countP Event.isPause ↔
      scene'.left < later.countP Event.isPause := by
    rw [List.countP_append]
    omega
  exact or_congr hpatience (h.cancelledBy_append later)

theorem refl (scene : Scene Bench) : scene.GoesOn [] scene where
  past := (List.append_nil _).symm
  moment := rfl
  cancelled := rfl
  left := rfl
  paused := by simp

theorem trans (h : scene.GoesOn events scene') (h' : scene'.GoesOn later scene'') :
    scene.GoesOn (events ++ later) scene'' where
  past := by rw [h'.past, h.past, List.append_assoc]
  moment := h'.moment.trans h.moment
  cancelled := h'.cancelled.trans h.cancelled
  left := by
    have hleft := h.left
    have hleft' := h'.left
    rw [List.countP_append]
    omega
  paused before duration after hsplit := by
    rcases split_append hsplit with ⟨rest, hevents, -⟩ | ⟨rest, rfl, hlater⟩
    · exact h.paused before duration rest hevents
    · rw [List.append_assoc, h.failsAfter_append]
      exact h'.paused rest duration after hlater

theorem pause {duration : Int64} {left : Nat} (hleft : scene.left = left + 1)
    (hgo : (scene.cancelled || Sleeper.cancels (Sleeper.slept duration scene.outside)) = false) :
    scene.GoesOn [.slept duration] ⟨left, false, Sleeper.slept duration scene.outside⟩ where
  past := rfl
  moment := rfl
  cancelled := ((Bool.or_eq_false_iff.mp hgo).1).symm
  left := hleft.symm
  paused before d after hsplit := by
    cases before with
    | nil =>
      obtain ⟨hd, -⟩ := List.cons.inj hsplit
      rw [List.nil_append, ← hd, failsAfter_pause, hleft, hgo]
      simp
    | cons first rest => simp at hsplit

private theorem of_pauseless {b : Bench} (hpast : b.past = scene.outside.past ++ events)
    (hmoment : b.cancelAfter = scene.outside.cancelAfter) (hevents : ∀ e ∈ events, e.isPause = false) :
    scene.GoesOn events { scene with outside := b } where
  past := hpast
  moment := hmoment
  cancelled := rfl
  left := by
    rw [List.countP_eq_zero.mpr fun e he => by simp [hevents e he]]
    rfl
  paused before duration after hsplit := by
    have hpause := hevents (.slept duration) (by simp [hsplit])
    cases hpause

end GoesOn

namespace CutShort

theorem pause {duration : Int64} (h : scene.FailsAfter [.slept duration])
    (hpast : scene'.outside.past = scene.outside.past ++ [.slept duration]) :
    scene.CutShort [.slept duration] scene' :=
  ⟨hpast, h, [], duration, scene, rfl, .refl scene⟩

theorem after (h : scene.GoesOn events scene') (h' : scene'.CutShort later scene'') :
    scene.CutShort (events ++ later) scene'' where
  past := by rw [h'.past, h.past, List.append_assoc]
  fails := (h.failsAfter_append later).mpr h'.fails
  lastPause := by
    obtain ⟨before, duration, between, rfl, hbefore⟩ := h'.lastPause
    exact ⟨events ++ before, duration, between, (List.append_assoc ..).symm, h.trans hbefore⟩

theorem after_eq_nil (h : scene.CutShort events scene') {before after : List Event} {duration : Int64}
    (hsplit : events = before ++ .slept duration :: after)
    (hfails : scene.FailsAfter (before ++ [.slept duration])) : after = [] := by
  obtain ⟨earlier, d, between, rfl, hearlier⟩ := h.lastPause
  rcases split_append hsplit with ⟨rest, hin, -⟩ | ⟨rest, -, hlast⟩
  · exact absurd hfails (hearlier.paused before duration rest hin)
  · cases rest with
    | nil => exact (List.cons.inj hlast).2.symm
    | cons first rest => simp at hlast

end CutShort

end Scene

/-- Nothing is paused for, and the moment of cancellation stays. -/
def Bench.Pauseless (before after : Bench) : Prop :=
  Bench.Grew (fun e => e.isPause = false) before after ∧ after.cancelAfter = before.cancelAfter

instance : IsPreorder Bench Bench.Pauseless where
  refl b := ⟨refl_of _ b, rfl⟩
  trans _ _ _ h h' := ⟨trans_of _ h.1 h'.1, h'.2.trans h.2⟩

namespace Bench.Pauseless

theorem run (w : World) (argv : List String) (b : Bench) : Pauseless b (b.run w argv).2 :=
  ⟨.run w (fun _ => rfl) b, rfl⟩

theorem note (b : Bench) {e : Event} (h : e.isPause = false) : Pauseless b (b.note e) := ⟨.note b h, rfl⟩

theorem leave (link : Nat) (rest : List Char) (b : Bench) : Pauseless b (Link.leave link rest b) :=
  ⟨.of_past_eq rfl, rfl⟩

theorem exchange (w : World) (link : Nat) (text : String) (b : Bench) :
    Pauseless b (Link.exchange w link text b).2 :=
  trans_of _ (note b (e := .sent link text) rfl) (leave link _ _)

theorem close (link : Nat) (b : Bench) : Pauseless b (b.close link) :=
  trans_of _ (note b rfl) (note (b.note (.sent link "done")) rfl)

theorem goesOn_of (scene : Scene Bench) {b : Bench} {events : List Event} (h : Pauseless scene.outside b)
    (hpast : b.past = scene.outside.past ++ events) : scene.GoesOn events { scene with outside := b } := by
  obtain ⟨⟨grown, hgrown, hevents⟩, hmoment⟩ := h
  obtain rfl : grown = events := List.append_cancel_left (hgrown.symm.trans hpast)
  exact .of_pauseless hpast hmoment hevents

private theorem goesOn (scene : Scene Bench) {b : Bench} (h : Pauseless scene.outside b) :
    ∃ events, scene.GoesOn events { scene with outside := b } := by
  obtain ⟨events, hpast, -⟩ := h.1
  exact ⟨events, h.goesOn_of scene hpast⟩

end Bench.Pauseless

/-- Nothing follows a pause of the task that fails, and the fault of the pause is a part of its fault. -/
def Task.Halts (t : Task Bench α) : Prop :=
  ∀ scene, ∃ events, scene.GoesOn events (t scene).2 ∨
    scene.CutShort events (t scene).2 ∧
      ∃ fault, (t scene).1 = .error fault ∧ (t scene).2.outside.stop.fault ∈ fault.parts

namespace Task.Halts

theorem pure (x : α) : Task.Halts (Pure.pure x) := fun scene => ⟨[], .inl (.refl scene)⟩

theorem throw (fault : Fault) : Task.Halts (MonadExcept.throw fault : Task Bench α) :=
  fun scene => ⟨[], .inl (.refl scene)⟩

theorem lift (e : Except Fault α) : Task.Halts (liftM e : Task Bench α) :=
  fun scene => ⟨[], .inl (.refl scene)⟩

theorem get : Task.Halts (MonadState.get : Task Bench (Scene Bench)) :=
  fun scene => ⟨[], .inl (.refl scene)⟩

theorem bind {t : Task Bench α} {f : α → Task Bench β} (ht : t.Halts) (hf : ∀ x, (f x).Halts) :
    Task.Halts (t >>= f) := by
  intro scene
  obtain ⟨events, ht⟩ := ht scene
  rcases hrun : t scene with ⟨fault | x, scene'⟩ <;> rw [hrun] at ht
  · rw [Act.bind_error hrun]
    rcases ht with ht | ⟨hcut, fault', hfault, hpart⟩
    · exact ⟨events, .inl ht⟩
    · cases hfault
      exact ⟨events, .inr ⟨hcut, fault, rfl, hpart⟩⟩
  · rw [Act.bind_ok hrun]
    rcases ht with ht | ⟨-, fault, hfault, -⟩
    · obtain ⟨later, hlater⟩ := hf x scene'
      refine ⟨events ++ later, ?_⟩
      rcases hlater with hlater | ⟨hcut, hfault⟩
      · exact .inl (ht.trans hlater)
      · exact .inr ⟨.after ht hcut, hfault⟩
    · cases hfault

theorem task {a : Act Bench α} (ha : a.Within Bench.Pauseless) : a.task.Halts := by
  intro scene
  obtain ⟨events, hevents⟩ := Bench.Pauseless.goesOn scene (ha scene.outside)
  exact ⟨events, .inl hevents⟩

theorem taskOutcome {a : Act Bench α} (ha : a.Within Bench.Pauseless) : a.task.outcome.Halts := by
  intro scene
  obtain ⟨events, hevents⟩ := Bench.Pauseless.goesOn scene (ha scene.outside)
  exact ⟨events, .inl hevents⟩

theorem mapFault {t : Task Bench α} (ht : t.Halts) {g : Fault → Fault}
    (hg : ∀ fault, fault.parts ⊆ (g fault).parts) :
    (t.mapFault g).Halts := by
  intro scene
  obtain ⟨events, ht⟩ := ht scene
  refine ⟨events, ht.imp_right ?_⟩
  rintro ⟨hcut, fault, hfault, hpart⟩
  exact ⟨hcut, g fault, by rw [Task.mapFault, hfault]; rfl, hg fault hpart⟩

end Task.Halts

private theorem pause_course (duration : Int64) (scene : Scene Bench) :
    (scene.GoesOn [.slept duration] (pause duration scene).2 ∧ (pause duration scene).1 = .ok ()) ∨
      scene.CutShort [.slept duration] (pause duration scene).2 ∧
        (pause duration scene).1 = .error (pause duration scene).2.outside.stop.fault := by
  unfold pause
  simp only
  split
  next left hleft hgo => exact .inl ⟨.pause hleft hgo, rfl⟩
  next hstop => exact .inr ⟨.pause (Scene.failsAfter_of_stop hstop) rfl, rfl⟩

/-- Repeating a step without pauses ends with what a try gave, or in a pause that failed. -/
theorem pollFrom_course {step : Bool → Act Bench (Option α)}
    (hstep : ∀ told, (step told).Within Bench.Pauseless) (duration : Int64) (left : Nat) (cancelled : Bool)
    (b : Bench) :
    let scene : Scene Bench := ⟨left, cancelled, b⟩
    let run := pollFrom duration step left cancelled b
    ∃ events,
      (scene.GoesOn events run.2 ∧ ∃ told b', (step told b').1 = run.1.map some) ∨
      scene.CutShort events run.2 ∧ run.1 = .error run.2.outside.stop.fault := by
  fun_induction pollFrom duration step left cancelled b with
  | case1 left cancelled b fault b' hrun =>
    obtain ⟨events, hevents⟩ := Bench.Pauseless.goesOn ⟨left, cancelled, b⟩ ((hstep _).of_run hrun)
    exact ⟨events, .inl ⟨hevents, _, b, congrArg Prod.fst hrun⟩⟩
  | case2 left cancelled b x b' hrun =>
    obtain ⟨events, hevents⟩ := Bench.Pauseless.goesOn ⟨left, cancelled, b⟩ ((hstep _).of_run hrun)
    exact ⟨events, .inl ⟨hevents, _, b, congrArg Prod.fst hrun⟩⟩
  | case3 cancelled b b' hrun slept left hgo ih =>
    obtain ⟨tried, htried⟩ := Bench.Pauseless.goesOn ⟨left + 1, cancelled, b⟩ ((hstep _).of_run hrun)
    have hpaused := htried.trans (.pause rfl hgo)
    obtain ⟨later, ⟨hlater, hgave⟩ | ⟨hcut, hfault⟩⟩ := ih
    · exact ⟨_, .inl ⟨hpaused.trans hlater, hgave⟩⟩
    · exact ⟨_, .inr ⟨.after hpaused hcut, hfault⟩⟩
  | case4 cancelled b b' hrun slept left hstop =>
    obtain ⟨tried, htried⟩ := Bench.Pauseless.goesOn ⟨left, cancelled, b⟩ ((hstep _).of_run hrun)
    exact ⟨_, .inr ⟨.after htried (.pause (Scene.failsAfter_of_stop hstop) rfl), rfl⟩⟩

namespace Task.Halts

theorem pause (duration : Int64) : Task.Halts (pause duration) := by
  intro scene
  refine ⟨[.slept duration], (pause_course duration scene).imp And.left ?_⟩
  rintro ⟨hcut, hfault⟩
  exact ⟨hcut, _, hfault, Fault.mem_parts_self _⟩

theorem poll {step : Bool → Act Bench (Option α)} (hstep : ∀ told, (step told).Within Bench.Pauseless)
    (duration : Int64) : Task.Halts (poll duration step) := by
  intro scene
  obtain ⟨events, hcourse⟩ := pollFrom_course hstep duration scene.left scene.cancelled scene.outside
  refine ⟨events, hcourse.imp And.left ?_⟩
  rintro ⟨hcut, hfault⟩
  exact ⟨hcut, _, hfault, Fault.mem_parts_self _⟩

end Task.Halts

end WatchTrial
