import WatchTrial.Gesture.Rehearsal
import WatchTrial.Proofs.PickedFace
/-!
# Playing a script when nothing fails

With a watch that takes every input and a clock with enough patience, settings that were accepted can refuse
a script for one reason only. They divide a swipe into one step or more, but its duration may be negative, and
then every swipe is refused when its turn comes. This ends every leak trial, since leaving a watch face begins
with a swipe.
-/
namespace WatchTrial

variable {ω : Type}

def Gesture.swipes : List Gesture := [swipeRight, swipeLeft, swipeUp, swipeDown]

private theorem Gesture.name_inj {g g' : Gesture} : g.name = g'.name ↔ g = g' := by
  cases g <;> cases g' <;> decide

/-- Nothing has cancelled the run, the outside is calm, and so many further pauses end well. -/
structure Scene.Steady (Calm : ω → Prop) (pauses : Nat) (scene : Scene ω) : Prop where
  going : scene.cancelled = false
  patient : pauses ≤ scene.left
  calm : Calm scene.outside

theorem Scene.Steady.of_le {Calm : ω → Prop} {pauses pauses' : Nat} {scene : Scene ω}
    (h : scene.Steady Calm pauses) (hle : pauses' ≤ pauses) : scene.Steady Calm pauses' :=
  ⟨h.going, hle.trans h.patient, h.calm⟩

/-- As long as the outside is calm it does not cancel the run, the watch takes every input, and neither inputs
nor pauses disturb it. -/
structure Watch.Undisturbed [Sleeper ω] (watch : Watch ω) (Calm : ω → Prop) : Prop where
  send : ∀ i pauses scene, scene.Steady Calm pauses →
    ∃ scene', watch.send i scene = (.ok (), scene') ∧ scene'.Steady Calm pauses
  slept : ∀ d o, Calm o → Calm (Sleeper.slept d o)
  going : ∀ o, Calm o → Sleeper.cancels o = false

/-- With patience for so many pauses the task ends well, and no other patience is used up, unless it is
refused. -/
def Task.PlaysUnless (Calm : ω → Prop) (why : Fault) (pauses : Nat) (refused : Prop) (t : Task ω Unit) : Prop :=
  ∀ scene spare, scene.Steady Calm (pauses + spare) →
    (refused → (t scene).1 = .error why) ∧
    (¬ refused → ∃ scene', t scene = (.ok (), scene') ∧ scene'.Steady Calm spare)

namespace Task.PlaysUnless

variable {Calm : ω → Prop} {why : Fault} {pauses pauses' : Nat} {refused refused' : Prop} {t t' : Task ω Unit}

theorem pure : PlaysUnless Calm why 0 False (Pure.pure ()) :=
  fun scene _ h => ⟨False.elim, fun _ => ⟨scene, rfl, h.of_le (Nat.le_add_left ..)⟩⟩

theorem throw : PlaysUnless Calm why 0 True (MonadExcept.throw why) :=
  fun _ _ _ => ⟨fun _ => rfl, fun h => absurd trivial h⟩

theorem bind (ht : t.PlaysUnless Calm why pauses refused) (ht' : t'.PlaysUnless Calm why pauses' refused') :
    (t >>= fun _ => t').PlaysUnless Calm why (pauses + pauses') (refused ∨ refused') := by
  intro scene spare h
  -- the patience for the second task is spare while the first one plays
  obtain ⟨hrefused, hplayed⟩ := ht scene (pauses' + spare) (h.of_le (Nat.add_assoc ..).ge)
  by_cases hfirst : refused
  · have herror : t scene = (.error why, (t scene).2) := Prod.ext (hrefused hfirst) rfl
    rw [Act.bind_error herror]
    exact ⟨fun _ => rfl, fun hneither => absurd (.inl hfirst) hneither⟩
  · obtain ⟨scene', hrun, hsteady⟩ := hplayed hfirst
    obtain ⟨hrefused', hplayed'⟩ := ht' scene' spare hsteady
    rw [Act.bind_ok hrun]
    exact ⟨fun heither => hrefused' (heither.resolve_left hfirst),
      fun hneither => hplayed' fun hsecond => hneither (.inr hsecond)⟩

theorem weaken (h : t.PlaysUnless Calm why pauses refused) (hpauses : pauses ≤ pauses')
    (hrefused : refused ↔ refused') : t.PlaysUnless Calm why pauses' refused' := by
  intro scene spare hsteady
  rw [← hrefused]
  exact h scene spare (hsteady.of_le (Nat.add_le_add_right hpauses spare))

end Task.PlaysUnless

variable [Sleeper ω] {Calm : ω → Prop} {why : Fault}

private theorem Swipe.problem?_eq {s : Swipe} (hsteps : 1 ≤ s.steps) :
    s.problem? = if s.duration < 0 then some (.negative s.duration) else none :=
  if_neg (Int64.not_lt.mpr hsteps)

private theorem Player.swipe_refused (p : Player ω) {s : Swipe} (hsteps : 1 ≤ s.steps) (hduration : s.duration < 0) :
    p.swipe s = throw (.plain (Swipe.Problem.negative s.duration).message) := by
  unfold swipe
  rw [Swipe.problem?_eq hsteps, if_pos hduration]

private theorem Player.swipeLeft_refused {p : Player ω} (hsteps : 1 ≤ p.timeouts.swipeSteps)
    (hduration : p.timeouts.swipeDuration < 0) (scene : Scene ω) :
    (p.perform .swipeLeft scene).1 =
      .error (.plain (Swipe.Problem.negative p.timeouts.swipeDuration).message) := by
  have hswipe (start stop : Point) := p.swipe_refused (s := ⟨start, stop, _, _⟩) hsteps hduration
  simp only [perform, Gesture.motions, playAll, Gesture.swipe, play, hswipe]
  rfl

namespace Watch.Undisturbed

variable {p : Player ω} (hwatch : p.watch.Undisturbed Calm)
include hwatch

theorem pause (d : Int64) : Task.PlaysUnless Calm why 1 False (WatchTrial.pause d) := by
  intro scene spare h
  have hpatient := h.patient
  obtain ⟨left, hleft⟩ : ∃ left, scene.left = left + 1 := ⟨scene.left - 1, by omega⟩
  have hslept := hwatch.slept d _ h.calm
  have hrun : WatchTrial.pause d scene = (.ok (), ⟨left, false, Sleeper.slept d scene.outside⟩) := by
    simp [WatchTrial.pause, hleft, h.going, hwatch.going _ hslept]
  have hspare : spare ≤ left := by omega
  exact ⟨False.elim, fun _ => ⟨_, hrun, rfl, hspare, hslept⟩⟩

theorem input (i : Input) : Task.PlaysUnless Calm why 0 False (p.make (.input i)) :=
  fun scene spare h => ⟨False.elim, fun _ => hwatch.send i spare scene (h.of_le (Nat.le_add_left ..))⟩

theorem glide (gap : Point) (duration : Int64) (steps : Nat) (place : Point) :
    Task.PlaysUnless Calm why steps False (p.glide gap duration steps place) := by
  induction steps generalizing place with
  | zero => exact .pure
  | succ steps ih =>
    refine .weaken (.bind (hwatch.input _) (.bind (hwatch.pause duration) (ih _))) ?_ ?_
    · omega
    · simp

theorem swipe (s : Swipe) (hsteps : 1 ≤ s.steps) :
    Task.PlaysUnless Calm (.plain (Swipe.Problem.negative s.duration).message) s.steps.toInt.toNat
      (s.duration < 0) (p.swipe s) := by
  by_cases hduration : s.duration < 0
  · rw [p.swipe_refused hsteps hduration]
    exact .weaken .throw (Nat.zero_le _) (iff_of_true trivial hduration)
  · unfold Player.swipe
    rw [Swipe.problem?_eq hsteps, if_neg hduration]
    refine .weaken (.bind (hwatch.input _) (.bind (hwatch.glide _ _ _ _) (hwatch.input _))) ?_ ?_
    · omega
    · simpa using hduration

variable (hsteps : 1 ≤ p.timeouts.swipeSteps)
include hsteps

theorem perform (g : Gesture) :
    Task.PlaysUnless Calm (.plain (Swipe.Problem.negative p.timeouts.swipeDuration).message)
      (p.timeouts.swipeSteps.toInt.toNat + 1) (p.timeouts.swipeDuration < 0 ∧ g ∈ Gesture.swipes)
      (p.perform g) := by
  let why : Fault := .plain (Swipe.Problem.negative p.timeouts.swipeDuration).message
  have hinput (i : Input) : Task.PlaysUnless Calm why 0 False (p.play (.move (.input i))) := hwatch.input i
  have hrest (d : Int64) : Task.PlaysUnless Calm why 1 False (p.play (Gesture.rest d)) := hwatch.pause d
  have hswipe (start stop : Point) : Task.PlaysUnless Calm why p.timeouts.swipeSteps.toInt.toNat
      (p.timeouts.swipeDuration < 0) (p.play (Gesture.swipe p.timeouts start stop)) :=
    hwatch.swipe ⟨start, stop, p.timeouts.swipeDuration, p.timeouts.swipeSteps⟩ hsteps
  unfold Player.perform
  cases g <;> simp only [Gesture.motions, Player.playAll]
  case standby => exact .weaken (.bind (hrest _) .pure) (by omega) (by simp [Gesture.swipes])
  case swipeRight | swipeLeft =>
    exact .weaken (.bind (hswipe _ _) .pure) (by omega) (by simp [Gesture.swipes])
  case swipeUp | swipeDown =>
    exact .weaken (.bind (hswipe _ _) (.bind (hrest _) .pure)) (by omega) (by simp [Gesture.swipes])
  case pressSideButton =>
    exact .weaken (.bind (hinput _) (.bind (hrest _) .pure)) (by omega) (by simp [Gesture.swipes])
  case holdSideButton | holdCenter =>
    exact .weaken (.bind (hinput _) (.bind (hrest _) (.bind (hinput _) .pure))) (by omega)
      (by simp [Gesture.swipes])
  case tapCenter | wake => exact .weaken (.bind (hinput _) .pure) (by omega) (by simp [Gesture.swipes])

theorem executeAll {script : List String}
    (hscript : ∀ name ∈ script, (Registry.standard : Registry ω).supports name = true) :
    Task.PlaysUnless Calm (.plain (Swipe.Problem.negative p.timeouts.swipeDuration).message)
      (script.length * (p.timeouts.swipeSteps.toInt.toNat + 1))
      (p.timeouts.swipeDuration < 0 ∧ ∃ g ∈ Gesture.swipes, g.name ∈ script)
      ((Registry.standard : Registry ω).executeAll p script) := by
  induction script with
  | nil => exact .weaken .pure (Nat.zero_le _) (by simp)
  | cons name rest ih =>
    obtain ⟨hname, hrest⟩ := List.forall_mem_cons.mp hscript
    obtain ⟨g, rfl, hexecute⟩ := Registry.standard_execute hname
    refine .weaken (.bind (hexecute p ▸ hwatch.perform hsteps g) (ih hrest)) ?_ ?_
    · rw [List.length_cons, Nat.succ_mul, Nat.add_comm]
    · -- no two gestures share a name, so the first name is that of a swipe just when `g` is one
      simp only [List.mem_cons, Gesture.name_inj, ← and_or_left]
      refine and_congr_right fun _ => ⟨?_, ?_⟩
      · rintro (hg | ⟨g', hg', hmem⟩)
        · exact ⟨g, hg, .inl rfl⟩
        · exact ⟨g', hg', .inr hmem⟩
      · rintro ⟨g', hg', rfl | hmem⟩
        · exact .inl hg'
        · exact .inr ⟨g', hg', hmem⟩

theorem run {script : List String}
    (hscript : ∀ name ∈ script, (Registry.standard : Registry ω).supports name = true) :
    Task.PlaysUnless Calm (.plain (Swipe.Problem.negative p.timeouts.swipeDuration).message)
      (script.length * (p.timeouts.swipeSteps.toInt.toNat + 1))
      (p.timeouts.swipeDuration < 0 ∧ ∃ g ∈ Gesture.swipes, g.name ∈ script)
      ((Registry.standard : Registry ω).run p script) := by
  rw [Registry.run_of_supported hscript]
  exact hwatch.executeAll hsteps hscript

end Watch.Undisturbed

private theorem Settings.one_le_swipeSteps {s : Settings} (h : s.problem? = none) : 1 ≤ s.timeouts.swipeSteps := by
  refine Int64.not_lt.mp fun hsteps => ?_
  grind [problem?]

private theorem Handheld.deselect_swiped {α : Type} {h : Handheld ω α} {timeouts : Timeouts} {device label : String}
    {scene scene' : Scene ω} {x : Unit} (hrun : h.deselect timeouts device label scene = (.ok x, scene')) :
    ∃ before after, h.swipeAway before = (.ok (), after) := by
  obtain ⟨_, before, -, hrun⟩ := Act.of_bind_ok hrun
  obtain ⟨_, after, hswipe, -⟩ := Act.of_bind_ok hrun
  exact ⟨before, after, hswipe⟩

/-- A leak trial that does not fail has left the watch face with a swipe. -/
theorem Rig.runLeak_swiped {w : World} {c : Connector} {settings : Settings} {labels : Labels} {session : Session}
    {pkg : String} {scene : Scene Bench}
    (h : ((Rig.atBench w c settings labels session).runLeak pkg scene).1.1.verdict ∈ [some .clean, some .leak]) :
    ∃ before after,
      (⟨session.watch w c, settings.timeouts⟩ : Player Bench).perform .swipeLeft before = (.ok (), after) := by
  obtain ⟨d, done, htaken, -⟩ := runLeak_verdict h
  have hsplit : leakSteps = leakSteps.take 13 ++ (.deselect :: [.settleDeselection, .readSensorsAfter]) := rfl
  rw [hsplit] at htaken
  obtain ⟨_, _, -, hrest⟩ := takeAll_append_ok htaken
  obtain ⟨_, _, hdeselect, -⟩ := takeAll_cons_ok hrest
  obtain ⟨_, hdeselect, -⟩ := Act.bind_pure_ok hdeselect
  exact Handheld.deselect_swiped hdeselect

/-- Settings that were accepted, with a watch and a clock that never fail, play every script of supported
gestures to its end, and the swipe with which a watch face is left, as long as the duration of a swipe is not
negative. If it is, every swipe is refused when its turn comes, and no leak trial can end with a verdict. -/
theorem Settings.accepted_settings_play {s : Settings} (haccepted : s.problem? = none) {watch : Watch ω}
    (hwatch : watch.Undisturbed Calm) {script : List String}
    (hscript : ∀ name ∈ script, (Registry.standard : Registry ω).supports name = true) :
    let t := s.timeouts
    let player : Player ω := ⟨watch, t⟩
    let refused : Except Fault Unit := .error (.plain (Swipe.Problem.negative t.swipeDuration).message)
    (∀ scene : Scene ω, scene.Steady Calm (script.length * (t.swipeSteps.toInt.toNat + 1)) →
      (Registry.standard.run player script scene).1 =
        if t.swipeDuration < 0 ∧ ∃ g ∈ Gesture.swipes, g.name ∈ script then refused else .ok ()) ∧
    (∀ scene : Scene ω, scene.Steady Calm (t.swipeSteps.toInt.toNat + 1) →
      (player.perform .swipeLeft scene).1 = if t.swipeDuration < 0 then refused else .ok ()) ∧
    (t.swipeDuration < 0 → ∀ w c labels session pkg scene,
      ((Rig.atBench w c s labels session).runLeak pkg scene).1.1.verdict = some .setupFailed) := by
  intro t player refused
  have hsteps := one_le_swipeSteps haccepted
  have hplayer : player.watch.Undisturbed Calm := hwatch
  refine ⟨fun scene hscene => ?_, fun scene hscene => ?_, fun hduration w c labels session pkg scene => ?_⟩
  · obtain ⟨hrefused, hplayed⟩ := hplayer.run hsteps hscript scene 0 hscene
    split
    next h => exact hrefused h
    next h =>
      obtain ⟨scene', hrun, -⟩ := hplayed h
      exact congrArg Prod.fst hrun
  · obtain ⟨hrefused, hplayed⟩ := hplayer.perform hsteps .swipeLeft scene 0 hscene
    split
    next h => exact hrefused ⟨h, by decide⟩
    next h =>
      obtain ⟨scene', hrun, -⟩ := hplayed fun h' => h h'.1
      exact congrArg Prod.fst hrun
  · -- a trial with a verdict would have left the watch face, and so have swiped
    by_contra hfailed
    have hverdict : ((Rig.atBench w c s labels session).runLeak pkg scene).1.1.verdict ∈
        [some .clean, some .leak] := by
      rcases Course.leakVerdict_cases ((Rig.atBench w c s labels session).run leakSteps pkg scene).1 with h | h | h
      · exact List.mem_cons.mpr (.inl h)
      · exact List.mem_cons_of_mem _ (List.mem_singleton.mpr h)
      · exact absurd h hfailed
    obtain ⟨before, after, hswiped⟩ := Rig.runLeak_swiped hverdict
    have herror := Player.swipeLeft_refused (p := ⟨session.watch w c, t⟩) hsteps hduration before
    rw [hswiped] at herror
    cases herror

private theorem Practice.take_ok {p : Practice} (h : p.failAt = none) (i : Input) :
    take i p = (.ok (), { p.note (.input i) with calls := p.calls + 1 }) := by
  simp [take, h]

/-- The practice watch takes every input unless one was chosen to fail. -/
theorem Practice.undisturbed (size : DisplaySize) : (watch size).Undisturbed fun p => p.failAt = none where
  send i pauses scene h := by
    refine ⟨{ scene with outside := { scene.outside.note (.input i) with calls := scene.outside.calls + 1 } },
      ?_, h.going, h.patient, h.calm⟩
    change Act.task (take i) scene = _
    rw [Act.task, take_ok h.calm]
  slept _ _ h := h
  going _ _ := rfl

theorem Settings.accepted_settings_play_practice :
    let s : Settings := { handheldSerial := "h" }
    let player : Player Practice := ⟨Practice.watch ⟨320, 290⟩, s.timeouts⟩
    let script := ["swipe_up", "press_and_hold_side_button", "swipe_left"]
    s.problem? = none ∧ (∀ name ∈ script, (Registry.standard : Registry Practice).supports name = true) ∧
      (Registry.standard.run player script { left := 33, outside := {} }).1 = .ok () ∧
      (player.perform .swipeLeft { left := 11, outside := {} }).1 = .ok () := by
  intro s player script
  have haccepted : s.problem? = none := by decide
  have hscript : ∀ name ∈ script, (Registry.standard : Registry Practice).supports name = true := by
    decide +kernel
  obtain ⟨hrun, hswipe, -⟩ :=
    Settings.accepted_settings_play haccepted (Practice.undisturbed ⟨320, 290⟩) hscript
  exact ⟨haccepted, hscript, hrun _ ⟨rfl, by decide, rfl⟩, hswipe _ ⟨rfl, by decide, rfl⟩⟩

/-! Settings that are accepted, in which a swipe takes less than no time. -/
namespace BackwardSwipe

def settings : Settings :=
  { wearSerial := "w", handheldSerial := "h", script := some ["swipe_left"],
    timeouts := { swipeSteps := 2, swipeDuration := -1 } }

def report : LeakReport :=
  ((Rig.atBench GyroLeak.world GyroLeak.connector settings ⟨[("p", "L")]⟩ GyroLeak.session).runLeak "p"
    GyroLeak.scene).1.1

end BackwardSwipe

theorem Settings.accepted_swipe_refused :
    BackwardSwipe.settings.problem? = none ∧
    (Registry.standard : Registry Practice).supports "swipe_left" = true ∧
    faultOf ((Registry.standard : Registry Practice).run
        ⟨Practice.watch ⟨320, 290⟩, BackwardSwipe.settings.timeouts⟩ ["swipe_left"]
        { left := 33, outside := {} }).1 ≠ none ∧
    (BackwardSwipe.report.verdict, BackwardSwipe.report.failedStage, BackwardSwipe.report.error) =
      (some .setupFailed, some .act, "swipe: negative duration -1ns") := by
  decide +kernel

end WatchTrial
