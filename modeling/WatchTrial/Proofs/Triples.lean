import WatchTrial.Proofs.Outside
/-!
# Before and after an act

What is known after an act, given what was known before it, with one condition for when it ends well and
another for when it fails. The rules follow the ways in which acts and tasks are put together.
-/
namespace WatchTrial

variable {ω α β : Type}

/-- From an outside with `P`, the act ends well with `Q` or fails with `E`. -/
def Act.Triple (P : ω → Prop) (a : Act ω α) (Q : α → ω → Prop) (E : ω → Prop) : Prop :=
  ∀ o, P o →
    match a o with
    | (.ok x, o') => Q x o'
    | (.error _, o') => E o'

namespace Act.Triple

variable {P E : ω → Prop} {Q : α → ω → Prop}

theorem of_ok {a : Act ω α} (h : Triple P a Q E) {o o' : ω} {x : α} (ho : P o)
    (hrun : a o = (.ok x, o')) : Q x o' := by
  have hend := h o ho
  rw [hrun] at hend
  exact hend

theorem of_error {a : Act ω α} (h : Triple P a Q E) {o o' : ω} {fault : Fault} (ho : P o)
    (hrun : a o = (.error fault, o')) : E o' := by
  have hend := h o ho
  rw [hrun] at hend
  exact hend

theorem pure {x : α} (h : ∀ o, P o → Q x o) : Triple P (Pure.pure x) Q E := h

theorem throw {fault : Fault} (h : ∀ o, P o → E o) :
    Triple P (MonadExcept.throw fault : Act ω α) Q E := h

theorem bind {a : Act ω α} {f : α → Act ω β} {S : β → ω → Prop} (ha : Triple P a Q E)
    (hf : ∀ x, Triple (Q x) (f x) S E) : Triple P (a >>= f) S E := by
  intro o ho
  rcases hrun : a o with ⟨fault | x, o'⟩
  · rw [Act.bind_error hrun]
    exact ha.of_error ho hrun
  · rw [Act.bind_ok hrun]
    exact hf x o' (ha.of_ok ho hrun)

theorem consequence {a : Act ω α} {P' E' : ω → Prop} {Q' : α → ω → Prop} (h : Triple P a Q E)
    (hP : ∀ o, P' o → P o) (hQ : ∀ x o, Q x o → Q' x o) (hE : ∀ o, E o → E' o) : Triple P' a Q' E' := by
  intro o ho
  rcases hrun : a o with ⟨fault | x, o'⟩
  · exact hE o' (h.of_error (hP o ho) hrun)
  · exact hQ x o' (h.of_ok (hP o ho) hrun)

/-- What is known whatever the outside may be used from the start. -/
theorem given {p : Prop} {a : Act ω α} (h : p → Triple P a Q E) : Triple (fun o => p ∧ P o) a Q E :=
  fun o ho => h ho.1 o ho.2

/-- An act within a relation keeps what the relation keeps. -/
theorem of_within {R : ω → ω → Prop} {a : Act ω α} (ha : a.Within R)
    (h : ∀ o o', R o o' → P o → P o') : Triple P a (fun _ => P) P := by
  intro o ho
  rcases hrun : a o with ⟨fault | x, o'⟩
  · exact h o o' (ha.of_run hrun) ho
  · exact h o o' (ha.of_run hrun) ho

/-- The second try starts from where the first one failed. -/
theorem retryOnce {a : Act ω α} (h : Triple P a Q P) (doing : String) :
    Triple P (WatchTrial.retryOnce doing a) Q P := by
  intro o ho
  unfold WatchTrial.retryOnce
  rcases hrun : a o with ⟨fault | x, o'⟩
  · have ho' := h.of_error ho hrun
    simp only
    rcases hrun' : a o' with ⟨fault' | x, o''⟩
    · exact h.of_error ho' hrun'
    · exact h.of_ok ho' hrun'
  · exact h.of_ok ho hrun

theorem task {a : Act ω α} (h : Triple P a Q E) :
    Triple (fun scene : Scene ω => P scene.outside) a.task (fun x scene => Q x scene.outside)
      (fun scene => E scene.outside) := by
  intro scene hscene
  unfold Act.task
  rcases hrun : a scene.outside with ⟨fault | x, o'⟩
  · exact h.of_error hscene hrun
  · exact h.of_ok hscene hrun

/-- The outcome of a task, as a value, tells which of the two conditions holds. -/
theorem taskOutcome {P E F : Scene ω → Prop} {Q : α → Scene ω → Prop} {t : Task ω α}
    (h : Triple P t Q E) :
    Triple P t.outcome
      (fun outcome scene =>
        match outcome with
        | .ok x => Q x scene
        | .error _ => E scene) F := by
  intro scene hscene
  unfold Task.outcome
  rcases hrun : t scene with ⟨fault | x, scene'⟩
  · exact h.of_error hscene hrun
  · exact h.of_ok hscene hrun

theorem mapFault {P E : Scene ω → Prop} {Q : α → Scene ω → Prop} {t : Task ω α} (h : Triple P t Q E)
    (g : Fault → Fault) : Triple P (t.mapFault g) Q E := by
  intro scene hscene
  unfold Task.mapFault
  rcases hrun : t scene with ⟨fault | x, scene'⟩
  · exact h.of_error hscene hrun
  · exact h.of_ok hscene hrun

variable [Sleeper ω]

/-- What every try and every pause keeps is still so when the repeating is given up. -/
theorem pollFrom {step : Bool → Act ω (Option α)} (hslept : ∀ d o, P o → P (Sleeper.slept d o))
    (hstep : ∀ cancelled, Triple P (step cancelled) (fun found o => found.elim (P o) (Q · o)) P)
    (duration : Int64) (left : Nat) (cancelled : Bool) (o : ω) (ho : P o) :
    match pollFrom duration step left cancelled o with
    | (.ok x, scene) => Q x scene.outside
    | (.error _, scene) => P scene.outside := by
  fun_induction WatchTrial.pollFrom duration step left cancelled o with
  | case1 left cancelled o fault o' hrun => exact (hstep _).of_error ho hrun
  | case2 left cancelled o x o' hrun => exact (hstep _).of_ok ho hrun
  | case3 cancelled o o' hrun slept left hgo ih => exact ih (hslept duration o' ((hstep _).of_ok ho hrun))
  | case4 cancelled o o' hrun slept left hstop => exact hslept duration o' ((hstep _).of_ok ho hrun)

theorem poll {step : Bool → Act ω (Option α)} (hslept : ∀ d o, P o → P (Sleeper.slept d o))
    (hstep : ∀ cancelled, Triple P (step cancelled) (fun found o => found.elim (P o) (Q · o)) P)
    (duration : Int64) :
    Triple (fun scene : Scene ω => P scene.outside) (poll duration step)
      (fun x scene => Q x scene.outside) (fun scene => P scene.outside) := by
  intro scene hscene
  have hend := pollFrom hslept hstep duration scene.left scene.cancelled scene.outside hscene
  unfold WatchTrial.poll
  rcases hrun : WatchTrial.pollFrom duration step scene.left scene.cancelled scene.outside with
    ⟨fault | x, scene'⟩ <;> rw [hrun] at hend <;> exact hend

end Act.Triple

/-- However it ends, the act keeps what was so before it. -/
def Act.Keeps (P : ω → Prop) (a : Act ω α) : Prop := a.Triple P (fun _ => P) P

namespace Act.Keeps

variable {P : ω → Prop}

theorem of_state {a : Act ω α} (h : ∀ o, P o → P (a o).2) : a.Keeps P := by
  intro o ho
  have hend := h o ho
  rcases hrun : a o with ⟨fault | x, o'⟩ <;> rw [hrun] at hend <;> exact hend

theorem state {a : Act ω α} (h : a.Keeps P) {o : ω} (ho : P o) : P (a o).2 := by
  rcases hrun : a o with ⟨fault | x, o'⟩
  · exact Triple.of_error h ho hrun
  · exact Triple.of_ok h ho hrun

theorem bind {a : Act ω α} {f : α → Act ω β} (ha : a.Keeps P) (hf : ∀ x, (f x).Keeps P) : (a >>= f).Keeps P :=
  Triple.bind ha hf

theorem task {a : Act ω α} (h : a.Keeps P) : Act.Keeps (fun scene : Scene ω => P scene.outside) a.task :=
  Triple.task h

variable [Sleeper ω]

theorem pause (hslept : ∀ d o, P o → P (Sleeper.slept d o)) (duration : Int64) :
    Act.Keeps (fun scene : Scene ω => P scene.outside) (WatchTrial.pause duration) :=
  Triple.of_within (Act.Within.pause (R := fun o o' => P o → P o') hslept duration) fun _ _ h => h

theorem poll (hslept : ∀ d o, P o → P (Sleeper.slept d o)) {step : Bool → Act ω (Option α)}
    (hstep : ∀ cancelled, (step cancelled).Keeps P) (duration : Int64) :
    Act.Keeps (fun scene : Scene ω => P scene.outside) (WatchTrial.poll duration step) := by
  refine Triple.poll hslept (fun cancelled => ?_) duration
  refine Triple.consequence (hstep cancelled) (fun _ h => h) (fun found _ h => ?_) fun _ h => h
  cases found <;> exact h

end Act.Keeps

theorem Act.Compositional.keeps {P : ω → Prop} : Act.Compositional fun α (a : Act ω α) => a.Keeps P where
  pure _ := .pure fun _ h => h
  refuse _ := .throw fun _ h => h
  bind := .bind
  get _ h := h
  retryOnce doing _ h := Triple.retryOnce h doing

end WatchTrial
