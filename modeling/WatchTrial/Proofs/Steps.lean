import WatchTrial.Proofs.Outside
import WatchTrial.Trial.Run
/-!
# Taking steps

Steps are taken one after the other until one fails. A list of steps that ended well can be cut anywhere,
and only few steps change a given part of the draft: two read the sensors, one finds the label, and one for
each phase saves a screenshot.
-/
namespace WatchTrial

theorem Course.outcome_ok_iff {c : Course} : c.outcome = .ok () ↔ c.failure = none := by
  unfold outcome
  cases c.failure <;> simp

def Draft.savedAs (d : Draft) : Phase → String
  | .interactive => d.interactive
  | .ambient => d.ambient

namespace Rig

variable {ω : Type} {rig : Rig ω} {pkg : String}

theorem takeAll_cons_ok {step : Step} {rest : List Step} {d d'' : Draft} {scene scene'' : Scene ω}
    (h : rig.takeAll pkg (step :: rest) d scene = ((d'', none), scene'')) :
    ∃ d' scene', rig.take pkg d step scene = (.ok d', scene') ∧
      rig.takeAll pkg rest d' scene' = ((d'', none), scene'') := by
  unfold takeAll at h
  split at h
  next d' scene' htake => exact ⟨d', scene', htake, h⟩
  next => simp at h

theorem takeAll_append_ok {xs ys : List Step} {d d'' : Draft} {scene scene'' : Scene ω}
    (h : rig.takeAll pkg (xs ++ ys) d scene = ((d'', none), scene'')) :
    ∃ d' scene', rig.takeAll pkg xs d scene = ((d', none), scene') ∧
      rig.takeAll pkg ys d' scene' = ((d'', none), scene'') := by
  induction xs generalizing d scene with
  | nil => exact ⟨d, scene, rfl, h⟩
  | cons step rest ih =>
    obtain ⟨d₁, scene₁, htake, hrest⟩ := takeAll_cons_ok h
    obtain ⟨d', scene', hxs, hys⟩ := ih hrest
    refine ⟨d', scene', ?_, hys⟩
    rw [takeAll, htake]
    exact hxs

theorem takeAll_append_of_ok {xs : List Step} {d d' : Draft} {scene scene' : Scene ω}
    (h : rig.takeAll pkg xs d scene = ((d', none), scene')) (ys : List Step) :
    rig.takeAll pkg (xs ++ ys) d scene = rig.takeAll pkg ys d' scene' := by
  induction xs generalizing d scene with
  | nil =>
    cases h
    rfl
  | cons step rest ih =>
    obtain ⟨d₁, scene₁, htake, hrest⟩ := takeAll_cons_ok h
    rw [List.cons_append, takeAll, htake]
    exact ih hrest

theorem takeAll_append_of_failed {xs : List Step} {d : Draft} {scene : Scene ω}
    (h : (rig.takeAll pkg xs d scene).1.2 ≠ none) (ys : List Step) :
    rig.takeAll pkg (xs ++ ys) d scene = rig.takeAll pkg xs d scene := by
  induction xs generalizing d scene with
  | nil => exact absurd rfl h
  | cons step rest ih =>
    rw [List.cons_append, takeAll, takeAll]
    rw [takeAll] at h
    rcases htake : rig.take pkg d step scene with ⟨fault | d', scene'⟩ <;> rw [htake] at h
    exact ih h

/-- The step that failed is the first that did, and its fault is put into words. -/
theorem takeAll_failed {steps : List Step} {step : Step} {fault : Fault} {d : Draft} {scene : Scene ω}
    (h : (rig.takeAll pkg steps d scene).1.2 = some (step, fault)) :
    ∃ earlier later d' scene' cause scene'', steps = earlier ++ step :: later ∧
      rig.takeAll pkg earlier d scene = ((d', none), scene') ∧
      rig.take pkg d' step scene' = (.error cause, scene'') ∧ fault = failureOf pkg step cause := by
  induction steps generalizing d scene with
  | nil => cases h
  | cons first rest ih =>
    unfold takeAll at h
    rcases hrun : rig.take pkg d first scene with ⟨cause | d₁, scene₁⟩ <;> rw [hrun] at h
    · cases h
      exact ⟨[], rest, d, scene, cause, scene₁, rfl, rfl, hrun, rfl⟩
    · obtain ⟨earlier, later, d', scene', cause, scene'', rfl, hearlier, hfailed⟩ := ih h
      refine ⟨first :: earlier, later, d', scene', cause, scene'', rfl, ?_, hfailed⟩
      rw [takeAll, hrun]
      exact hearlier

theorem take_save (rig : Rig ω) (pkg : String) (save : String → ByteArray → Act ω Unit) (d : Draft) {step : Step}
    (h : ∀ phase, step ≠ .saveScreenshot phase) : { rig with save }.take pkg d step = rig.take pkg d step := by
  cases step with
  | saveScreenshot phase => exact absurd rfl (h phase)
  | _ => rfl

theorem cleanUp_save (rig : Rig ω) (pkg : String) (save : String → ByteArray → Act ω Unit) (o : ω) :
    { rig with save }.cleanUp pkg o = rig.cleanUp pkg o := by
  simp only [cleanUp, uninstallAll]

theorem take_keeps {d d' : Draft} {step : Step} {scene scene' : Scene ω}
    (h : rig.take pkg d step scene = (.ok d', scene')) (hbefore : step ≠ .readSensorsBefore)
    (hafter : step ≠ .readSensorsAfter) : d'.before = d.before ∧ d'.after = d.after := by
  cases step with
  | readSensorsBefore => exact absurd rfl hbefore
  | readSensorsAfter => exact absurd rfl hafter
  | saveScreenshot phase =>
    obtain ⟨_, _, rfl⟩ := Act.bind_pure_ok h
    cases phase <;> exact ⟨rfl, rfl⟩
  | _ =>
    obtain ⟨_, _, rfl⟩ := Act.bind_pure_ok h
    exact ⟨rfl, rfl⟩

theorem take_label {d d' : Draft} {step : Step} {scene scene' : Scene ω}
    (h : rig.take pkg d step scene = (.ok d', scene')) (hlabel : step ≠ .findLabel) : d'.label = d.label := by
  cases step with
  | findLabel => exact absurd rfl hlabel
  | saveScreenshot phase =>
    obtain ⟨_, _, rfl⟩ := Act.bind_pure_ok h
    cases phase <;> rfl
  | _ =>
    obtain ⟨_, _, rfl⟩ := Act.bind_pure_ok h
    rfl

theorem takeAll_label {steps : List Step} (hlabel : .findLabel ∉ steps) (d : Draft) (scene : Scene ω) :
    (rig.takeAll pkg steps d scene).1.1.label = d.label := by
  induction steps generalizing d scene with
  | nil => rfl
  | cons step rest ih =>
    unfold takeAll
    split
    next d' scene' htake =>
      rw [ih (mt (List.mem_cons_of_mem step) hlabel), take_label htake]
      exact fun h => hlabel (h ▸ List.mem_cons_self)
    next => rfl

private theorem take_savedAs {d d' : Draft} {step : Step} {phase : Phase} {scene scene' : Scene ω}
    (h : rig.take pkg d step scene = (.ok d', scene')) (hstep : step ≠ .saveScreenshot phase) :
    d'.savedAs phase = d.savedAs phase := by
  cases step with
  | saveScreenshot phase' =>
    obtain ⟨_, _, rfl⟩ := Act.bind_pure_ok h
    cases phase <;> cases phase' <;> first | rfl | exact absurd rfl hstep
  | _ =>
    obtain ⟨_, _, rfl⟩ := Act.bind_pure_ok h
    cases phase <;> rfl

theorem take_saveScreenshot_ok {d d' : Draft} {phase : Phase} {scene scene' : Scene ω}
    (h : rig.take pkg d (.saveScreenshot phase) scene = (.ok d', scene')) :
    rig.save (rig.settings.screenshotPath pkg phase) d.shot scene.outside = (.ok (), scene'.outside) ∧
      d'.savedAs phase = rig.settings.screenshotPath pkg phase := by
  obtain ⟨x, hsaved, rfl⟩ := Act.bind_pure_ok h
  refine ⟨Act.task_run hsaved, ?_⟩
  cases phase <;> rfl

theorem take_saveScreenshot_error {d : Draft} {phase : Phase} {scene scene' : Scene ω} {fault : Fault}
    (h : rig.take pkg d (.saveScreenshot phase) scene = (.error fault, scene')) :
    rig.save (rig.settings.screenshotPath pkg phase) d.shot scene.outside = (.error fault, scene'.outside) :=
  Act.task_run (Act.bind_pure_error h)

theorem takeAll_savedAs {steps : List Step} {phase : Phase} (hsteps : .saveScreenshot phase ∉ steps) (d : Draft)
    (scene : Scene ω) : (rig.takeAll pkg steps d scene).1.1.savedAs phase = d.savedAs phase := by
  induction steps generalizing d scene with
  | nil => rfl
  | cons step rest ih =>
    unfold takeAll
    split
    next d' scene' htake =>
      rw [ih (mt (List.mem_cons_of_mem step) hsteps), take_savedAs htake]
      exact fun h => hsteps (h ▸ List.mem_cons_self)
    next => rfl

end Rig

end WatchTrial
