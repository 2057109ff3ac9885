import WatchTrial.Proofs.Plan
/-!
# Verdicts and cleaning up

However a leak trial goes, its report has one verdict that fits the rest of it, and the package is removed
from both devices at the end. Whether that succeeds is said in the words for it and nowhere else.
-/
namespace WatchTrial

namespace Course

theorem leakVerdict_cases (c : Course) :
    c.leakReport.verdict = some .clean ∨ c.leakReport.verdict = some .leak ∨
      c.leakReport.verdict = some .setupFailed := by
  unfold leakReport leakVerdict
  split
  · exact .inr (.inr rfl)
  · split
    · exact .inl rfl
    · exact .inr (.inl rfl)

theorem setupFailed_iff (c : Course) : c.leakReport.verdict = some .setupFailed ↔ c.failure ≠ none := by
  cases h : c.failure with
  | some failure => simp [leakReport, leakVerdict, h]
  | none =>
    simp only [leakReport, leakVerdict, h, Option.isSome_none, Bool.false_eq_true, if_false]
    split <;> simp

private theorem outcome_error_iff (c : Course) : (∃ fault, c.outcome = .error fault) ↔ c.failure ≠ none := by
  cases h : c.failure <;> simp [outcome, h]

private theorem failedStage_ne_none_iff (c : Course) : c.leakReport.failedStage ≠ none ↔ c.failure ≠ none := by
  cases h : c.failure <;> simp [leakReport, failedStage, h]

private theorem leaks_ne_nil_iff (c : Course) : c.leakReport.leaks ≠ [] ↔ c.leakReport.verdict = some .leak := by
  cases h : c.failure with
  | some failure => simp [leakReport, leakVerdict, h]
  | none =>
    simp only [leakReport, leakVerdict, h]
    split <;> simp_all [Snapshot.size]

end Course

namespace Rig

variable {ω : Type} (rig : Rig ω) (pkg : String)

/-- No step removes a package. -/
theorem take_uninstall (remove : Target → String → Act ω Unit) (d : Draft) (step : Step) :
    { rig with uninstall := remove }.take pkg d step = rig.take pkg d step := by
  cases step <;> rfl

private theorem takeAll_uninstall (remove : Target → String → Act ω Unit) (steps : List Step) (d : Draft)
    (scene : Scene ω) :
    { rig with uninstall := remove }.takeAll pkg steps d scene = rig.takeAll pkg steps d scene := by
  induction steps generalizing d scene with
  | nil => rfl
  | cons step rest ih =>
    unfold takeAll
    rw [take_uninstall]
    split
    · exact ih ..
    · rfl

private theorem leakPlan_ne_uninstall {label : String} {target : Target} {pkg' : String} :
    .uninstall target pkg' ∉ (rig.leakPlan pkg label).map Prod.snd := by
  simp [leakPlan, installing]

/-- However a leak trial goes, its verdict, its error and its failed stage agree, leaks are listed with the
verdict `leak` only, and it ends with the removal of the package from both devices. How that went shows in
`cleanupError` and nowhere else. -/
theorem leak_trial_consistent (scene : Scene ω) :
    let run := rig.runLeak pkg scene
    let report := run.1.1
    let recorded := rig.recorded.runLeak pkg (scene.recording [])
    (report.verdict = some .clean ∨ report.verdict = some .leak ∨ report.verdict = some .setupFailed) ∧
    ((∃ fault, run.1.2 = .error fault) ↔ report.verdict = some .setupFailed) ∧
    (report.failedStage ≠ none ↔ report.verdict = some .setupFailed) ∧
    (report.leaks ≠ [] ↔ report.verdict = some .leak) ∧
    (recorded.1 = run.1 ∧ recorded.2.unrecorded = run.2) ∧
    (∃ taken onWatch onHandheld,
      rig.leakLog pkg scene =
        taken ++ [⟨.uninstall .wearable pkg, onWatch⟩, ⟨.uninstall .handheld pkg, onHandheld⟩] ∧
      (∀ deed ∈ taken, ∀ target pkg', deed.effect ≠ .uninstall target pkg') ∧
      (report.cleanupError ≠ "" ↔ onWatch ≠ none ∨ onHandheld ≠ none)) ∧
    ∀ remove : Target → String → Act ω Unit,
      let other := { rig with uninstall := remove }.runLeak pkg scene
      { other.1.1 with cleanupError := report.cleanupError } = report ∧ other.1.2 = run.1.2 := by
  intro run report recorded
  let course := (rig.run leakSteps pkg scene).1
  obtain ⟨hfaithful, label, taken, onWatch, onHandheld, hlog, hfollows, hwords⟩ :=
    recorded_runLeak rig pkg scene
  refine ⟨course.leakVerdict_cases, ?_, ?_, course.leaks_ne_nil_iff, hfaithful, ?_, ?_⟩
  · exact course.outcome_error_iff.trans course.setupFailed_iff.symm
  · exact course.failedStage_ne_none_iff.trans course.setupFailed_iff.symm
  · refine ⟨taken, onWatch, onHandheld, hlog, ?_, ?_⟩
    · intro deed hdeed target pkg' heffect
      have hmem := hfollows.isPrefix.subset (List.mem_map.mpr ⟨deed, hdeed, heffect⟩)
      exact leakPlan_ne_uninstall rig pkg hmem
    · rw [← not_and_or]
      exact not_congr hwords
  · intro remove other
    have htaken := takeAll_uninstall rig pkg remove leakSteps {} scene
    constructor <;> simp only [other, report, run, runLeak, Rig.run, htaken] <;> rfl

end Rig

end WatchTrial
