import Mathlib.Tactic.IntervalCases
import WatchTrial.Proofs.Recording
/-!
# The order of a leak trial

A leak trial carries out a fixed plan until something fails, and is then said to have failed in the stage of
what failed. So a package is installed after the first reading of the sensors only, and the second reading
is made after the watch face was used and left.
-/
namespace WatchTrial

namespace Follows

variable {plan : List (Stage × Effect)} {deeds earlier later : List Deed} {deed : Deed}
  {failed : Option Stage}

theorem isPrefix (h : Follows plan deeds failed) : deeds.map Deed.effect <+: plan.map Prod.snd := by
  induction h with
  | done => exact List.prefix_rfl
  | failed stage deed rest h => exact ⟨rest.map Prod.snd, rfl⟩
  | passed stage deed h hrest ih => exact (List.prefix_cons_inj deed.effect).mpr ih

theorem passed_before (h : Follows plan deeds failed) (hdeeds : deeds = earlier ++ deed :: later) :
    ∀ d ∈ earlier, d.Passed := by
  induction h generalizing earlier with
  | done => simp at hdeeds
  | failed stage first rest h =>
    cases earlier with
    | nil => simp
    | cons d ds => simp at hdeeds
  | passed stage first h hrest ih =>
    cases earlier with
    | nil => simp
    | cons d ds =>
      obtain ⟨rfl, hds⟩ := List.cons.inj hdeeds
      intro d' hd'
      rcases List.mem_cons.mp hd' with rfl | hd'
      · exact h
      · exact ih hds d' hd'

theorem later_eq_nil (h : Follows plan deeds failed) (hdeeds : deeds = earlier ++ deed :: later)
    (hfail : ¬ deed.Passed) : later = [] := by
  cases later with
  | nil => rfl
  | cons next rest =>
    have hsplit : deeds = (earlier ++ [deed]) ++ next :: rest := by simp [hdeeds]
    exact absurd (h.passed_before hsplit deed (by simp)) hfail

private theorem at_plan (h : Follows plan deeds failed) (hdeeds : deeds = earlier ++ deed :: later) :
    (plan.map Prod.snd)[earlier.length]? = some deed.effect ∧
      earlier.map Deed.effect = (plan.map Prod.snd).take earlier.length := by
  obtain ⟨rest, hrest⟩ := h.isPrefix
  rw [← hrest, hdeeds]
  simp

private theorem done_before (h : Follows plan deeds failed) (hdeeds : deeds = earlier ++ deed :: later)
    {effect : Effect} (heffect : effect ≠ .clearLog)
    (hplan : effect ∈ (plan.map Prod.snd).take earlier.length) : ⟨effect, none⟩ ∈ earlier := by
  rw [← (h.at_plan hdeeds).2] at hplan
  obtain ⟨⟨_, fault⟩, hmem, rfl⟩ := List.mem_map.mp hplan
  obtain rfl : fault = none := (h.passed_before hdeeds _ hmem).resolve_right heffect
  exact hmem

theorem failed_none (h : Follows plan deeds failed) (hnone : failed = none) :
    deeds.length = plan.length ∧ ∀ d ∈ deeds, d.Passed := by
  induction h with
  | done => simp
  | failed => cases hnone
  | passed stage deed h hrest ih =>
    obtain ⟨hlength, hpassed⟩ := ih hnone
    refine ⟨congrArg (· + 1) hlength, fun d hd => ?_⟩
    rcases List.mem_cons.mp hd with rfl | hd
    · exact h
    · exact hpassed d hd

theorem failed_some (h : Follows plan deeds failed) {stage : Stage} (hsome : failed = some stage) :
    ∃ earlier deed, deeds = earlier ++ [deed] ∧ ¬ deed.Passed ∧
      plan[earlier.length]? = some (stage, deed.effect) := by
  induction h with
  | done => cases hsome
  | failed stage' deed rest h =>
    cases hsome
    exact ⟨[], deed, rfl, h, rfl⟩
  | passed stage' first h hrest ih =>
    obtain ⟨earlier, deed, rfl, hfail, hplan⟩ := ih hsome
    exact ⟨first :: earlier, deed, rfl, hfail, by simpa using hplan⟩

/-- The plan is done to its end just when no stage failed. -/
theorem failed_none_iff (h : Follows plan deeds failed) :
    failed = none ↔ deeds.length = plan.length ∧ ∀ d ∈ deeds, d.Passed := by
  refine ⟨h.failed_none, fun ⟨_, hpassed⟩ => ?_⟩
  cases hfailed : failed with
  | none => rfl
  | some stage =>
    obtain ⟨earlier, deed, rfl, hfail, _⟩ := h.failed_some hfailed
    exact absurd (hpassed deed (by simp)) hfail

/-- The stage that failed is the one that the plan gives for the deed that did not pass. -/
theorem failed_some_iff (h : Follows plan deeds failed) {stage : Stage} :
    failed = some stage ↔ ∃ earlier deed, deeds = earlier ++ [deed] ∧ ¬ deed.Passed ∧
      plan[earlier.length]? = some (stage, deed.effect) := by
  refine ⟨h.failed_some, ?_⟩
  rintro ⟨earlier, deed, rfl, hfail, hplan⟩
  cases hfailed : failed with
  | none => exact absurd ((h.failed_none hfailed).2 deed (by simp)) hfail
  | some stage' =>
    obtain ⟨earlier', deed', heq, _, hplan'⟩ := h.failed_some hfailed
    obtain ⟨rfl, _⟩ := List.append_inj' heq rfl
    have hstage := congrArg Prod.fst (Option.some.inj (hplan.symm.trans hplan'))
    exact congrArg some hstage.symm

end Follows

namespace Rig

variable {ω : Type}

def installing (rig : Rig ω) (pkg : String) (target : Target) : Effect :=
  .install target pkg (ApkList.pathOf (rig.settings.packageDir target) pkg)

/-- What a leak trial does when nothing fails, up to cleaning up, with the stages that it is in. -/
def leakPlan (rig : Rig ω) (pkg label : String) : List (Stage × Effect) :=
  let timeouts := rig.settings.timeouts
  [(.idle, .checkScript),
   (.idle, .clearLog),
   (.snapshotBefore, .readSensors),
   (.install, rig.installing pkg .handheld),
   (.install, .sleep timeouts.installSettle),
   (.install, rig.installing pkg .wearable),
   (.install, .sleep timeouts.installSettle),
   (.select, .findLabel pkg),
   (.select, .select label),
   (.select, .wake),
   (.select, .sleep timeouts.activateSettle),
   (.select, .wake),
   (.act, .play rig.settings.gestures),
   (.deselect, .deselect rig.settings.defaultWatchFace),
   (.deselect, .sleep timeouts.deselectSettle),
   (.snapshotAfter, .readSensors)]

variable {rig : Rig ω} {pkg label : String} {i : Nat}

private theorem planOf_leakSteps (rig : Rig ω) (pkg label : String) :
    rig.planOf pkg label leakSteps = rig.leakPlan pkg label := rfl

private theorem leakPlan_install {target : Target} {pkg' path : String}
    (h : ((rig.leakPlan pkg label).map Prod.snd)[i]? = some (.install target pkg' path)) : 3 ≤ i := by
  by_contra hi
  have hlt : i < 3 := Nat.lt_of_not_le hi
  interval_cases i <;> simp [leakPlan] at h

private theorem leakPlan_readSensors
    (h : ((rig.leakPlan pkg label).map Prod.snd)[i]? = some .readSensors) : i = 2 ∨ i = 15 := by
  obtain ⟨hi, -⟩ := List.getElem?_eq_some_iff.mp h
  change i < 16 at hi
  interval_cases i <;> simp [leakPlan, installing] at h ⊢

theorem checkScript_unsupported (h : ∃ gesture ∈ rig.settings.gestures, rig.supports gesture = false) :
    ∃ fault, rig.checkScript = .error fault := by
  obtain ⟨gesture, hmem, hunsupported⟩ := h
  unfold checkScript
  split
  next found _ => exact ⟨_, rfl⟩
  next hnone => simpa [hunsupported] using List.find?_eq_none.mp hnone gesture hmem

/-- A leak trial does what its plan says, in that order, and ends with the removal of the package from both
devices. It goes on as long as everything before succeeded, the clearing of the log apart, and the stage in
which it is said to have failed is that of the deed that failed. -/
theorem leak_trial_in_order (rig : Rig ω) (pkg : String) (scene : Scene ω) :
    let run := rig.runLeak pkg scene
    let recorded := rig.recorded.runLeak pkg (scene.recording [])
    (recorded.1 = run.1 ∧ recorded.2.unrecorded = run.2) ∧
    ∃ label taken onWatch onHandheld,
      let plan := rig.leakPlan pkg label
      let removals : List Deed :=
        [⟨.uninstall .wearable pkg, onWatch⟩, ⟨.uninstall .handheld pkg, onHandheld⟩]
      rig.leakLog pkg scene = taken ++ removals ∧
      taken.map Deed.effect <+: plan.map Prod.snd ∧
      (∀ earlier deed later, taken = earlier ++ deed :: later →
        (∀ d ∈ earlier, d.Passed) ∧ (¬ deed.Passed → later = [])) ∧
      (run.1.1.failedStage = none ↔ taken.length = plan.length ∧ ∀ d ∈ taken, d.Passed) ∧
      (∀ stage, run.1.1.failedStage = some stage ↔
        ∃ earlier deed, taken = earlier ++ [deed] ∧ ¬ deed.Passed ∧
          plan[earlier.length]? = some (stage, deed.effect)) ∧
      -- the first reading is made before anything is installed
      (∀ earlier later target pkg' path fault,
        taken = earlier ++ ⟨.install target pkg' path, fault⟩ :: later → ⟨.readSensors, none⟩ ∈ earlier) ∧
      -- the second reading is made after the watch face was used and left
      (∀ earlier later fault fault', taken = earlier ++ ⟨.readSensors, fault⟩ :: later →
        ⟨.readSensors, fault'⟩ ∈ earlier →
        ∀ effect ∈ [rig.installing pkg .handheld, rig.installing pkg .wearable, .select label,
          .play rig.settings.gestures, .deselect rig.settings.defaultWatchFace], ⟨effect, none⟩ ∈ earlier) ∧
      -- a script that cannot be played is noticed before anything is asked of the outside
      ((∃ gesture ∈ rig.settings.gestures, rig.supports gesture = false) →
        recorded.2.outside.deeds = removals) := by
  intro run recorded
  obtain ⟨hfaithful, label, taken, onWatch, onHandheld, hlog, hfollows, -⟩ := recorded_runLeak rig pkg scene
  rw [planOf_leakSteps] at hfollows
  refine ⟨hfaithful, label, taken, onWatch, onHandheld, hlog, hfollows.isPrefix, ?_,
    hfollows.failed_none_iff, fun stage => hfollows.failed_some_iff, ?_, ?_, ?_⟩
  · intro earlier deed later htaken
    exact ⟨hfollows.passed_before htaken, hfollows.later_eq_nil htaken⟩
  · intro earlier later target pkg' path fault htaken
    have hplace := leakPlan_install (hfollows.at_plan htaken).1
    refine hfollows.done_before htaken (by simp) ?_
    exact (List.take_prefix_take_left hplace).subset (by simp [leakPlan])
  · intro earlier later fault fault' htaken hfirst effect heffect
    have hplace : earlier.length = 15 := by
      obtain ⟨hat, hbefore⟩ := hfollows.at_plan htaken
      refine (leakPlan_readSensors hat).resolve_left fun htwo => ?_
      have hmem : Effect.readSensors ∈ earlier.map Deed.effect := List.mem_map.mpr ⟨_, hfirst, rfl⟩
      simp [hbefore, htwo, leakPlan] at hmem
    refine hfollows.done_before htaken ?_ ?_
    · rintro rfl
      simp [installing] at heffect
    · rw [hplace]
      simp only [List.mem_cons, List.not_mem_nil, or_false] at heffect
      rcases heffect with rfl | rfl | rfl | rfl | rfl <;> simp [leakPlan]
  · intro hscript
    obtain ⟨fault, hfault⟩ := checkScript_unsupported hscript
    unfold leakLog at hlog
    rw [hfault] at hlog
    cases taken with
    | nil => simp at hlog
    | cons first rest =>
      obtain ⟨rfl, hdeeds⟩ := List.cons.inj hlog
      have hfail : ¬ (⟨.checkScript, faultOf (.error fault : Except Fault Unit)⟩ : Deed).Passed := by
        simp [Deed.Passed, faultOf]
      rw [hfollows.later_eq_nil (List.nil_append _).symm hfail] at hdeeds
      exact hdeeds

end Rig

end WatchTrial
