import WatchTrial.Proofs.Leaks
import WatchTrial.Proofs.Plan
import WatchTrial.Proofs.Screenshots
import WatchTrial.Text.Base64
/-!
# What a display trial reports

A display trial carries out a fixed plan until something fails, like a leak trial. Its report names a
screenshot file just when that file was written, and at the end the file has the screenshot that the watch
showed then. For the first of the two files this needs that the second is another one.
-/
namespace WatchTrial

open Files Bench

/-- How many steps a display trial takes before the screenshot of a phase. -/
def Phase.place : Phase → Nat
  | interactive => 9
  | ambient => 12

private theorem Follows.getElem?_iff {plan : List (Stage × Effect)} {deeds : List Deed} {failed : Option Stage}
    (h : Follows plan deeds failed) {k : Nat} {effect : Effect} (hplan : (plan.map Prod.snd)[k]? = some effect)
    (heffect : effect ≠ .clearLog) :
    deeds[k]? = some ⟨effect, none⟩ ↔ k + 1 ≤ deeds.length ∧ ∀ deed ∈ deeds.take (k + 1), deed.Passed := by
  constructor
  · intro hdeed
    obtain ⟨hk, hget⟩ := List.getElem?_eq_some_iff.mp hdeed
    refine ⟨hk, fun deed hmem => ?_⟩
    rw [List.take_succ_eq_append_getElem hk, hget] at hmem
    rcases List.mem_append.mp hmem with hmem | hmem
    · have hsplit : deeds = deeds.take k ++ ⟨effect, none⟩ :: deeds.drop (k + 1) := by
        rw [← hget, List.getElem_cons_drop, List.take_append_drop]
      exact h.passed_before hsplit deed hmem
    · obtain rfl := List.mem_singleton.mp hmem
      exact .inl rfl
  · rintro ⟨hk, hpassed⟩
    have hmem : deeds[k] ∈ deeds.take (k + 1) := by
      rw [List.take_succ_eq_append_getElem hk]
      exact List.mem_append_right _ (List.mem_singleton_self _)
    have heq : deeds[k].effect = effect := by
      obtain ⟨rest, hrest⟩ := h.isPrefix
      rw [← hrest, List.getElem?_append_left (by rwa [List.length_map]), List.getElem?_map,
        List.getElem?_eq_getElem hk] at hplan
      exact Option.some.inj hplan
    have hfault : deeds[k].fault = none := (hpassed _ hmem).resolve_right (heq ▸ heffect)
    rw [List.getElem?_eq_getElem hk, ← heq, ← hfault]

def DisplayReport.savedAs (report : DisplayReport) : Phase → String
  | .interactive => report.interactive
  | .ambient => report.ambient

theorem Course.displayVerdict_eq_captured_iff (course : Course) :
    course.displayVerdict = .captured ↔ course.failure = none := by
  unfold displayVerdict
  cases course.failure <;> simp

namespace Rig

variable {ω : Type}

private theorem takeAll_take_iff (rig : Rig ω) (pkg : String) {steps : List Step} (hcheck : .checkScript ∉ steps)
    (hlabel : steps.Pairwise fun step later => step = .select → later ≠ .findLabel) (scene : Scene ω) {n : Nat}
    (hn : n ≤ steps.length) :
    let taken := (rig.recorded.takeAll pkg steps {} (scene.recording [])).2.outside.deeds
    (rig.takeAll pkg (steps.take n) {} scene).1.2 = none ↔
      n ≤ taken.length ∧ ∀ deed ∈ taken.take n, deed.Passed := by
  intro taken
  have hcheck' : .checkScript ∉ steps.take n := mt List.mem_of_mem_take hcheck
  obtain ⟨deeds, hfollows, htaken⟩ := recorded_takeAll rig pkg hcheck' (hlabel.sublist (List.take_sublist n steps))
    {} (scene.recording [])
  let first := rig.takeAll pkg (steps.take n) {} scene
  change Follows _ deeds (first.1.2.map (·.1.stage)) at hfollows
  change rig.recorded.takeAll pkg (steps.take n) {} (scene.recording []) =
    (first.1, first.2.recording deeds) at htaken
  have hlength : deeds.length ≤ n := by
    have hle := hfollows.isPrefix.length_le
    simpa [planOf, Nat.min_eq_left hn] using hle
  have hsplit : steps = steps.take n ++ steps.drop n := (List.take_append_drop n steps).symm
  cases hfirst : first.1.2 with
  | none =>
    -- the rest adds its deeds to those of the first steps
    have hok : rig.recorded.takeAll pkg (steps.take n) {} (scene.recording []) =
        ((first.1.1, none), first.2.recording deeds) := by rw [htaken, ← hfirst]
    obtain ⟨more, -, hmore⟩ := recorded_takeAll rig pkg (mt List.mem_of_mem_drop hcheck)
      (hlabel.sublist (List.drop_sublist n steps)) first.1.1 (first.2.recording deeds)
    have hdeeds : taken = deeds ++ more := by
      simp only [taken]
      rw [hsplit, takeAll_append_of_ok hok, hmore]
      rfl
    rw [hfirst] at hfollows
    obtain ⟨hlength', hpassed⟩ := hfollows.failed_none rfl
    obtain rfl : deeds.length = n := by simpa [planOf, Nat.min_eq_left hn] using hlength'
    rw [hdeeds, List.take_left]
    exact iff_of_true rfl ⟨by simp, hpassed⟩
  | some failure =>
    have hfailed : (rig.recorded.takeAll pkg (steps.take n) {} (scene.recording [])).1.2 ≠ none := by
      simp [htaken, hfirst]
    have hdeeds : taken = deeds := by
      simp only [taken]
      rw [hsplit, takeAll_append_of_failed hfailed, htaken]
      rfl
    rw [hfirst] at hfollows
    obtain ⟨earlier, deed, rfl, hfail, -⟩ := hfollows.failed_some rfl
    refine iff_of_false (by simp) ?_
    rintro ⟨hle, hpassed⟩
    rw [hdeeds] at hle hpassed
    refine hfail (hpassed deed ?_)
    rw [List.take_of_length_le hlength]
    simp

/-- What a display trial does when nothing fails, up to cleaning up, with the stages that it is in. -/
def displayPlan (rig : Rig ω) (pkg label : String) : List (Stage × Effect) :=
  let timeouts := rig.settings.timeouts
  [(.install, rig.installing pkg .handheld),
   (.install, .sleep timeouts.installSettle),
   (.install, rig.installing pkg .wearable),
   (.install, .sleep timeouts.installSettle),
   (.select, .findLabel pkg),
   (.select, .select label),
   (.select, .wake),
   (.select, .sleep timeouts.activateSettle),
   (.select, .wake),
   (.act, .screenshot),
   (.act, .save (rig.settings.screenshotPath pkg .interactive)),
   (.act, .sleep timeouts.ambientWait),
   (.act, .screenshot),
   (.act, .save (rig.settings.screenshotPath pkg .ambient))]

private theorem planOf_displaySteps (rig : Rig ω) (pkg label : String) :
    rig.planOf pkg label displaySteps = rig.displayPlan pkg label := rfl

private theorem takeAll_savedAs_eq (rig : Rig ω) (pkg : String) {phase : Phase} {xs ys : List Step}
    (hxs : .saveScreenshot phase ∉ xs) (hys : .saveScreenshot phase ∉ ys) (scene : Scene ω) :
    (rig.takeAll pkg (xs ++ .saveScreenshot phase :: ys) {} scene).1.1.savedAs phase =
      if (rig.takeAll pkg (xs ++ [.saveScreenshot phase]) {} scene).1.2 = none then
        rig.settings.screenshotPath pkg phase
      else "" := by
  have hbefore : (rig.takeAll pkg xs {} scene).1.1.savedAs phase = "" := by
    rw [takeAll_savedAs hxs]
    cases phase <;> rfl
  rcases hfirst : rig.takeAll pkg xs {} scene with ⟨⟨d₁, failure⟩, scene₁⟩
  cases failure with
  | some failure =>
    have hfailed : (rig.takeAll pkg xs {} scene).1.2 ≠ none := by simp [hfirst]
    rw [takeAll_append_of_failed hfailed, takeAll_append_of_failed hfailed, hbefore, if_neg hfailed]
  | none =>
    rw [hfirst] at hbefore
    rw [takeAll_append_of_ok hfirst, takeAll_append_of_ok hfirst, takeAll, takeAll]
    rcases htake : rig.take pkg d₁ (.saveScreenshot phase) scene₁ with ⟨fault | d₂, scene₂⟩
    · exact hbefore
    · exact (takeAll_savedAs hys d₂ scene₂).trans (take_saveScreenshot_ok htake).2

/-- The report of a display trial names the screenshot file of a phase just when the steps up to its saving
ended well. -/
theorem runDisplay_savedAs (rig : Rig ω) (pkg : String) (scene : Scene ω) (phase : Phase) :
    (rig.runDisplay pkg scene).1.1.savedAs phase =
      if (rig.takeAll pkg (displaySteps.take (phase.place + 2)) {} scene).1.2 = none then
        rig.settings.screenshotPath pkg phase
      else "" := by
  have hdraft : (rig.runDisplay pkg scene).1.1.savedAs phase =
      (rig.takeAll pkg displaySteps {} scene).1.1.savedAs phase := by
    cases phase <;> rfl
  have hfirst : displaySteps.take (phase.place + 2) =
      displaySteps.take (phase.place + 1) ++ [.saveScreenshot phase] := by
    cases phase <;> rfl
  have hall : displaySteps = displaySteps.take (phase.place + 1) ++
      .saveScreenshot phase :: displaySteps.drop (phase.place + 2) := by
    cases phase <;> rfl
  rw [hdraft, hfirst]
  nth_rewrite 1 [hall]
  refine takeAll_savedAs_eq rig pkg ?_ ?_ scene <;> cases phase <;>
    simp [displaySteps, activationSteps, Phase.place]

/-- What the watch shows for the screenshot of a phase, after the steps of a display trial before it. -/
def shown? (rig : Rig ω) (pkg : String) (phase : Phase) (scene : Scene ω) : Option Screenshot :=
  match rig.takeAll pkg (displaySteps.take phase.place) {} scene with
  | ((_, none), reached) => (rig.screenshot reached.outside).1.toOption
  | ((_, some _), _) => none

theorem takeAll_saves {rig : Rig ω} {pkg : String} {phase : Phase} {d : Draft} {scene scene' : Scene ω}
    (h : rig.takeAll pkg (displaySteps.take (phase.place + 2)) {} scene = ((d, none), scene')) :
    ∃ shot before, rig.shown? pkg phase scene = some shot ∧
      rig.save (rig.settings.screenshotPath pkg phase) shot.data before = (.ok (), scene'.outside) := by
  have hsteps : displaySteps.take (phase.place + 2) =
      displaySteps.take phase.place ++ [.takeScreenshot phase, .saveScreenshot phase] := by
    cases phase <;> rfl
  rw [hsteps] at h
  obtain ⟨d₀, scene₀, hbefore, hlast⟩ := takeAll_append_ok h
  obtain ⟨d₁, scene₁, hshown, hlast⟩ := takeAll_cons_ok hlast
  obtain ⟨d₂, scene₂, hsaved, hnil⟩ := takeAll_cons_ok hlast
  cases hnil
  obtain ⟨shot, htaken, rfl⟩ := Act.bind_pure_ok hshown
  have hshot : rig.screenshot scene₀.outside = (.ok shot, scene₁.outside) := Act.task_run htaken
  refine ⟨shot, scene₁.outside, ?_, (take_saveScreenshot_ok hsaved).1⟩
  simp only [shown?, hbefore, hshot]
  rfl

/-- A display trial that fails does so while installing, selecting or acting. -/
theorem runDisplay_failedStage {rig : Rig ω} {pkg : String} {scene : Scene ω} {stage : Stage}
    (h : (rig.runDisplay pkg scene).1.1.failedStage = some stage) : stage ∈ [.install, .select, .act] := by
  change (rig.takeAll pkg displaySteps {} scene).1.2.map (·.1.stage) = some stage at h
  obtain ⟨⟨step, fault⟩, hfailed, rfl⟩ := Option.map_eq_some_iff.mp h
  obtain ⟨earlier, later, -, -, -, -, hsteps, -⟩ := takeAll_failed hfailed
  have hmem : step ∈ displaySteps := hsteps ▸ List.mem_append_right _ List.mem_cons_self
  simp only [displaySteps, activationSteps, List.cons_append, List.nil_append, List.mem_cons,
    List.not_mem_nil, or_false] at hmem
  rcases hmem with rfl | rfl | rfl | rfl | rfl | rfl | rfl | rfl | rfl | rfl | rfl | rfl | rfl | rfl <;>
    simp [Step.stage]

/-- A display trial ends well just when its verdict is that both screenshots were captured, and just when no
stage failed. -/
theorem runDisplay_outcome (rig : Rig ω) (pkg : String) (scene : Scene ω) :
    let run := rig.runDisplay pkg scene
    (run.1.2 = .ok () ↔ run.1.1.verdict = some .captured) ∧
    (run.1.2 = .ok () ↔ run.1.1.failedStage = none) ∧
    (run.1.2 ≠ .ok () → run.1.1.verdict = some .setupFailed ∧
      ∃ stage ∈ [.install, .select, .act], run.1.1.failedStage = some stage) := by
  intro run
  let course := (rig.run displaySteps pkg scene).1
  have hok : run.1.2 = .ok () ↔ course.failure = none := Course.outcome_ok_iff
  have hverdict : run.1.1.verdict = some course.displayVerdict := rfl
  have hstage : run.1.1.failedStage = none ↔ course.failure = none := Option.map_eq_none_iff
  refine ⟨?_, hok.trans hstage.symm, fun hfailed => ?_⟩
  · rw [hok, hverdict, Option.some.injEq, Course.displayVerdict_eq_captured_iff]
  · have hne : course.failure ≠ none := mt hok.mpr hfailed
    obtain ⟨stage, hsome⟩ := Option.ne_none_iff_exists'.mp (mt hstage.mp hne)
    refine ⟨?_, stage, runDisplay_failedStage hsome, hsome⟩
    rw [hverdict, Course.displayVerdict, if_pos (Option.isSome_iff_ne_none.mpr hne)]

/-- A recorded display trial follows its plan. Something was saved for a phase just when the steps up to it
ended well. -/
theorem recorded_runDisplay (rig : Rig ω) (pkg : String) (scene : Scene ω) :
    let run := rig.runDisplay pkg scene
    ∃ label taken onWatch onHandheld,
      rig.recorded.runDisplay pkg (scene.recording []) = (run.1, run.2.recording
        (taken ++ [⟨.uninstall .wearable pkg, onWatch⟩, ⟨.uninstall .handheld pkg, onHandheld⟩])) ∧
      Follows (rig.displayPlan pkg label) taken run.1.1.failedStage ∧
      ∀ phase, taken[phase.place + 1]? = some ⟨.save (rig.settings.screenshotPath pkg phase), none⟩ ↔
        (rig.takeAll pkg (displaySteps.take (phase.place + 2)) {} scene).1.2 = none := by
  intro run
  have hcheck : .checkScript ∉ displaySteps := by simp [displaySteps, activationSteps]
  have hlabel : displaySteps.Pairwise fun step later => step = .select → later ≠ .findLabel := by
    simp [displaySteps, activationSteps]
  obtain ⟨taken, hfollows, htaken⟩ := recorded_takeAll rig pkg hcheck hlabel {} (scene.recording [])
  obtain ⟨onWatch, onHandheld, hrecorded, -⟩ := recorded_run rig pkg htaken
  obtain rfl : (rig.recorded.takeAll pkg displaySteps {} (scene.recording [])).2.outside.deeds = taken := by
    rw [htaken]
    rfl
  rw [planOf_displaySteps] at hfollows
  refine ⟨_, _, onWatch, onHandheld, ?_, hfollows, fun phase => ?_⟩
  · unfold runDisplay
    rw [hrecorded]
    rfl
  · have hplan (label : String) : ((rig.displayPlan pkg label).map Prod.snd)[phase.place + 1]? =
        some (.save (rig.settings.screenshotPath pkg phase)) := by
      cases phase <;> rfl
    have hplace : phase.place + 2 ≤ displaySteps.length := by cases phase <;> decide
    exact (hfollows.getElem?_iff (hplan _) (by simp)).trans (takeAll_take_iff rig pkg hcheck hlabel scene hplace).symm

section Bench

variable {w : World} (hw : w.WritesScratchOnly) {c : Connector} (hdial : c.SparesFiles w)
  (settings : Settings) (labels : Labels) (session : Session) {pkg : String} {scene : Scene Bench}
  {phase : Phase}
include hw hdial

omit hw hdial in
private theorem takeAll_saves_read {d : Draft} {scene' : Scene Bench}
    (h : (Rig.atBench w c settings labels session).takeAll pkg (displaySteps.take (phase.place + 2)) {} scene =
      ((d, none), scene')) :
    ∃ shot, (Rig.atBench w c settings labels session).shown? pkg phase scene = some shot ∧
      scene'.outside.files.read (settings.screenshotPath pkg phase) = .ok shot.data := by
  obtain ⟨shot, before, hshows, hsaved⟩ := takeAll_saves h
  rw [atBench_save] at hsaved
  exact ⟨shot, hshows, (save_ok hsaved).2.1⟩

private theorem read_after_runDisplay {d : Draft} {scene' : Scene Bench} {path : String} {content : ByteArray} {n : Nat}
    (h : (Rig.atBench w c settings labels session).takeAll pkg (displaySteps.take n) {} scene =
      ((d, none), scene')) (hread : scene'.outside.files.read path = .ok content)
    (hscratch : placeOf path ≠ placeOf w.scratch)
    (hlater : ∀ later, .saveScreenshot later ∈ displaySteps.drop n →
      placeOf path ≠ placeOf (settings.screenshotPath pkg later)) :
    ((Rig.atBench w c settings labels session).runDisplay pkg scene).2.outside.files.read path =
      .ok content := by
  have hrest := takeAll_filesKept hw hdial settings labels session pkg (List.drop_subset n displaySteps) d scene'
  rw [← takeAll_append_of_ok h, List.take_append_drop] at hrest
  have hkept := Kept.read hrest hread <| by
    rintro (hp | ⟨later, hmem, hp⟩)
    · exact hscratch hp
    · exact hlater later hmem hp
  exact Kept.read (cleanUp_scratchOnly hw hdial settings labels session pkg _) hkept hscratch

end Bench

/-- A display trial ends well just when both screenshots were captured. It does what its plan says, in that
order, as long as everything before succeeded, and ends with the removal of the package from both devices. The
report names the screenshot file of a phase just when it was written, and then the file has what the watch
showed, if commands and dialling write to the scratch file only and that is another one; for the first phase this
also needs that the two names lead to different places. -/
theorem display_trial_report (w : World) (c : Connector) (settings : Settings) (labels : Labels)
    (session : Session) (pkg : String) (scene : Scene Bench) :
    let rig := Rig.atBench w c settings labels session
    let run := rig.runDisplay pkg scene
    let report := run.1.1
    (run.1.2 = .ok () ↔ report.verdict = some .captured) ∧
    (run.1.2 = .ok () ↔ report.failedStage = none) ∧
    (run.1.2 ≠ .ok () → report.verdict = some .setupFailed ∧
      ∃ stage ∈ [.install, .select, .act], report.failedStage = some stage) ∧
    ∃ label taken onWatch onHandheld,
      let plan := rig.displayPlan pkg label
      rig.recorded.runDisplay pkg (scene.recording []) = (run.1, run.2.recording
        (taken ++ [⟨.uninstall .wearable pkg, onWatch⟩, ⟨.uninstall .handheld pkg, onHandheld⟩])) ∧
      taken.map Deed.effect <+: plan.map Prod.snd ∧
      (∀ earlier deed later, taken = earlier ++ deed :: later →
        (∀ d ∈ earlier, d.Passed) ∧ (¬ deed.Passed → later = [])) ∧
      (report.failedStage = none ↔ taken.length = plan.length ∧ ∀ d ∈ taken, d.Passed) ∧
      (∀ stage, report.failedStage = some stage ↔
        ∃ earlier deed, taken = earlier ++ [deed] ∧ ¬ deed.Passed ∧
          plan[earlier.length]? = some (stage, deed.effect)) ∧
      ∀ phase,
        (report.savedAs phase ≠ "" ↔
          taken[phase.place + 1]? = some ⟨.save (settings.screenshotPath pkg phase), none⟩) ∧
        (report.savedAs phase ≠ "" → report.savedAs phase = settings.screenshotPath pkg phase ∧
          ∃ shot, rig.shown? pkg phase scene = some shot ∧
            (w.WritesScratchOnly → c.SparesFiles w →
              placeOf (settings.screenshotPath pkg phase) ≠ placeOf w.scratch →
              phase = .ambient ∨ placeOf (settings.screenshotPath pkg .interactive) ≠
                placeOf (settings.screenshotPath pkg .ambient) →
              run.2.outside.files.read (report.savedAs phase) = .ok shot.data)) := by
  intro rig run report
  obtain ⟨hcaptured, hstage, hfailed⟩ := runDisplay_outcome rig pkg scene
  obtain ⟨label, taken, onWatch, onHandheld, hrecorded, hfollows, hwritten⟩ := recorded_runDisplay rig pkg scene
  refine ⟨hcaptured, hstage, hfailed, label, taken, onWatch, onHandheld, hrecorded, hfollows.isPrefix, ?_,
    hfollows.failed_none_iff, fun stage => hfollows.failed_some_iff, fun phase => ?_⟩
  · intro earlier deed later htaken
    exact ⟨hfollows.passed_before htaken, hfollows.later_eq_nil htaken⟩
  · have hnamed : report.savedAs phase = _ := runDisplay_savedAs rig pkg scene phase
    rcases hfirst : rig.takeAll pkg (displaySteps.take (phase.place + 2)) {} scene with ⟨⟨d, failure⟩, scene'⟩
    have hiff := hwritten phase
    rw [hfirst] at hnamed hiff
    cases failure with
    | some failure =>
      rw [if_neg (by simp)] at hnamed
      rw [hnamed]
      exact ⟨iff_of_false (fun h => h rfl) (mt hiff.mp (by simp)), fun h => absurd rfl h⟩
    | none =>
      rw [if_pos rfl] at hnamed
      obtain ⟨shot, hshows, hread⟩ := takeAll_saves_read settings labels session hfirst
      have hname : settings.screenshotPath pkg phase ≠ "" := ne_empty_of_read hread
      rw [hnamed]
      refine ⟨iff_of_true hname (hiff.mpr rfl), fun _ => ⟨rfl, shot, hshows, ?_⟩⟩
      intro hw hdial hscratch hother
      refine read_after_runDisplay hw hdial settings labels session hfirst hread hscratch fun later hlater => ?_
      -- only the second screenshot is saved after the first
      cases phase with
      | interactive =>
        obtain rfl : later = .ambient := by simpa [displaySteps, activationSteps, Phase.place] using hlater
        exact hother.resolve_left (by decide)
      | ambient => simp [displaySteps, activationSteps, Phase.place] at hlater

end Rig

/-! A watch that shows a picture of one pixel first and then one of six. -/
namespace TwoPictures

def picture (earlier : Nat) : ByteArray :=
  let text := if earlier = 0 then
      "iVBORw0KGgoAAAANSUhEUgAAAAEAAAABCAIAAACQd1PeAAAADElEQVR42mNgYGQCAAAIAAQIHWMKAAAAAElFTkSuQmCC"
    else
      "iVBORw0KGgoAAAANSUhEUgAAAAMAAAACCAIAAAASFvFNAAAAFElEQVR42mNgYGRiZmFlY2BkgLMAAbYALYz+Ta4AAAAASUVORK5CYII="
  ⟨((Text.bytesOfBase64? text).getD []).toArray⟩

def pull : List String := ["adb", "-s", "w", "pull", "/sdcard/tmp.png", "shot.tmp"]

def world : World :=
  { GyroLeak.world with
    run := fun past argv =>
      if argv = pull then { file := some (picture (past.filterMap (Event.answerTo? pull)).length) }
      else GyroLeak.world.run past argv
    scratch := "shot.tmp" }

theorem world_writesScratchOnly : world.WritesScratchOnly := by
  intro past argv content hfile
  by_cases hpull : argv = pull
  · subst hpull
    rfl
  · simp only [world, hpull, if_false, GyroLeak.world] at hfile
    split at hfile
    · cases hfile
    · split at hfile <;> cases hfile

def connector : Connector := ⟨{}, Adb.dialServer world {} 1080, 7⟩

def scene : Scene Bench :=
  let directories := [["shots"], ["shots", "interactive"], ["shots", "ambient"]]
  { left := 20, outside := { session := some GyroLeak.session, files := ⟨directories.map (·, .directory)⟩ } }

def settings : Settings := { wearSerial := "w", handheldSerial := "h", screenshotDir := "shots" }

def rig : Rig Bench := Rig.atBench world connector settings ⟨[("p", "L")]⟩ GyroLeak.session

/-- The rig with two names for screenshots that lead to the same place. -/
def onePlaceRig : Rig Bench :=
  Rig.atBench world connector
    { settings with screenshotPattern := "\x7bdir\x7d/\x7bphase\x7d/../\x7bpkg\x7d.png" }
    ⟨[("p", "L")]⟩ GyroLeak.session

def trial (rig : Rig Bench) : (DisplayReport × Except Fault Unit) × Scene Bench := rig.runDisplay "p" scene

end TwoPictures

open TwoPictures in
theorem Rig.display_trial_report_pictures :
    (trial TwoPictures.rig).1.1.verdict = some .captured ∧
    ∀ phase, ∃ shot, TwoPictures.rig.shown? "p" phase scene = some shot ∧
      (trial TwoPictures.rig).2.outside.files.read ((trial TwoPictures.rig).1.1.savedAs phase) =
        .ok shot.data := by
  have heval : (trial TwoPictures.rig).1.1.verdict = some .captured ∧
      (trial TwoPictures.rig).1.1.savedAs .interactive ≠ "" ∧
      (trial TwoPictures.rig).1.1.savedAs .ambient ≠ "" := by
    decide +kernel
  have hplaces : placeOf (TwoPictures.settings.screenshotPath "p" .interactive) ≠
      placeOf (TwoPictures.settings.screenshotPath "p" .ambient) := by
    decide +kernel
  have hscratch (phase : Phase) :
      placeOf (TwoPictures.settings.screenshotPath "p" phase) ≠ placeOf world.scratch := by
    cases phase <;> decide +kernel
  have hspares := Connector.dialServer_sparesFiles world_writesScratchOnly {} 1080 7
  obtain ⟨-, -, -, _, _, _, _, -, -, -, -, -, hsaved⟩ := display_trial_report world connector
    TwoPictures.settings ⟨[("p", "L")]⟩ GyroLeak.session "p" scene
  refine ⟨heval.1, fun phase => ?_⟩
  have hnamed : (trial TwoPictures.rig).1.1.savedAs phase ≠ "" := by
    cases phase with
    | interactive => exact heval.2.1
    | ambient => exact heval.2.2
  obtain ⟨-, shot, hshot, hread⟩ := (hsaved phase).2 hnamed
  exact ⟨shot, hshot, hread world_writesScratchOnly hspares (hscratch phase) (.inr hplaces)⟩

open TwoPictures in
/-- The second picture is saved over the first. -/
theorem Rig.display_trial_saves_over :
    (trial onePlaceRig).1.1.verdict = some .captured ∧
    (trial onePlaceRig).1.1.interactive ≠ (trial onePlaceRig).1.1.ambient ∧
    ∃ shot, onePlaceRig.shown? "p" .interactive scene = some shot ∧
      (trial onePlaceRig).2.outside.files.read (trial onePlaceRig).1.1.interactive ≠ .ok shot.data := by
  have heval : (trial onePlaceRig).1.1.verdict = some .captured ∧
      (trial onePlaceRig).1.1.interactive ≠ (trial onePlaceRig).1.1.ambient ∧
      (onePlaceRig.shown? "p" .interactive scene).map (·.data.size) = some 69 ∧
      ((trial onePlaceRig).2.outside.files.read (trial onePlaceRig).1.1.interactive).toOption.map (·.size) =
        some 77 := by
    decide +kernel
  obtain ⟨hverdict, hnames, hshown, hread⟩ := heval
  obtain ⟨shot, hshot, hsize⟩ := Option.map_eq_some_iff.mp hshown
  refine ⟨hverdict, hnames, shot, hshot, fun hsame => ?_⟩
  rw [hsame] at hread
  cases hsize.symm.trans (Option.some.inj hread)

end WatchTrial
