import Mathlib.Order.Defs.Unbundled
import WatchTrial.Effect
/-!
# What acts do to the outside

An act stays within a relation when the outside before and after it are always related, whatever the
outcome. For a preorder this is kept by every way of putting acts and tasks together, so what a long task
does to the outside follows from what its single acts do.
-/
namespace WatchTrial

variable {ω α β : Type}

namespace Act

theorem eq_ok_of_toOption {r : Except Fault α} {x : α} (h : r.toOption = some x) : r = .ok x := by
  cases r with
  | error fault => cases h
  | ok y => exact congrArg Except.ok (Option.some.inj h)

theorem bind_apply (a : Act ω α) (f : α → Act ω β) (o : ω) :
    (a >>= f) o =
      match a o with
      | (.ok x, o) => f x o
      | (.error fault, o) => (.error fault, o) := by
  have hbind : (a >>= f) o = ExceptT.bindCont f (a o).1 (a o).2 := rfl
  rw [hbind]
  rcases a o with ⟨fault | x, o'⟩ <;> rfl

theorem bind_ok {a : Act ω α} {x : α} {o o' : ω} (h : a o = (.ok x, o')) (f : α → Act ω β) :
    (a >>= f) o = f x o' := by
  rw [bind_apply, h]

theorem bind_error {a : Act ω α} {fault : Fault} {o o' : ω} (h : a o = (.error fault, o'))
    (f : α → Act ω β) : (a >>= f) o = (.error fault, o') := by
  rw [bind_apply, h]

theorem bind_state {a : Act ω α} {f : α → Act ω β} (hf : ∀ x o, (f x o).2 = o) (o : ω) :
    ((a >>= f) o).2 = (a o).2 := by
  rw [bind_apply]
  rcases a o with ⟨fault | x, o'⟩
  · rfl
  · exact hf x o'

theorem bind_pure_state (a : Act ω α) (g : α → β) (o : ω) :
    ((a >>= fun x => pure (g x)) o).2 = (a o).2 := bind_state (fun _ _ => rfl) o

theorem of_bind_ok {a : Act ω α} {f : α → Act ω β} {o o'' : ω} {y : β} (h : (a >>= f) o = (.ok y, o'')) :
    ∃ x o', a o = (.ok x, o') ∧ f x o' = (.ok y, o'') := by
  rw [bind_apply] at h
  rcases hrun : a o with ⟨fault | x, o'⟩ <;> rw [hrun] at h
  · cases h
  · exact ⟨x, o', rfl, h⟩

theorem bind_pure_ok {a : Act ω α} {g : α → β} {o o' : ω} {y : β}
    (h : (a >>= fun x => pure (g x)) o = (.ok y, o')) : ∃ x, a o = (.ok x, o') ∧ y = g x := by
  obtain ⟨x, _, hrun, hpure⟩ := of_bind_ok h
  cases hpure
  exact ⟨x, hrun, rfl⟩

theorem bind_pure_error {a : Act ω α} {g : α → β} {o o' : ω} {fault : Fault}
    (h : (a >>= fun x => pure (g x)) o = (.error fault, o')) : a o = (.error fault, o') := by
  rw [bind_apply] at h
  rcases hrun : a o with ⟨fault' | x, o''⟩ <;> rw [hrun] at h <;> cases h
  rfl

theorem task_run {a : Act ω α} {outcome : Except Fault α} {scene scene' : Scene ω}
    (h : a.task scene = (outcome, scene')) : a scene.outside = (outcome, scene'.outside) := by
  cases h
  rfl

theorem task_of_run {a : Act ω α} {outcome : Except Fault α} {scene : Scene ω} {o : ω}
    (h : a scene.outside = (outcome, o)) : a.task scene = (outcome, { scene with outside := o }) := by
  rw [Act.task, h]

theorem task_bind (a : Act ω α) (f : α → Act ω β) : (a >>= f).task = a.task >>= fun x => (f x).task := by
  funext scene
  rcases hrun : a scene.outside with ⟨fault | x, o⟩
  · rw [bind_error (task_of_run hrun), Act.task, bind_error hrun]
  · rw [bind_ok (task_of_run hrun), Act.task, bind_ok hrun]
    rfl

@[simp] theorem pure_apply (x : α) (o : ω) : (pure x : Act ω α) o = (.ok x, o) := rfl

@[simp] theorem throw_apply (fault : Fault) (o : ω) : (throw fault : Act ω α) o = (.error fault, o) := rfl

@[simp] theorem get_apply (o : ω) : (get : Act ω ω) o = (.ok o, o) := rfl

@[simp] theorem lift_apply (e : Except Fault α) (o : ω) : (liftM e : Act ω α) o = (e, o) := rfl

/-- Whatever its outcome, the act takes the outside to a related one. -/
def Within (R : ω → ω → Prop) (a : Act ω α) : Prop := ∀ o, R o (a o).2

end Act

theorem pause_outside [Sleeper ω] (duration : Int64) (scene : Scene ω) :
    (pause duration scene).2.outside = Sleeper.slept duration scene.outside := by
  unfold pause
  simp only
  split <;> rfl

theorem pause_left_lt [Sleeper ω] {duration : Int64} {scene scene' : Scene ω} {x : Unit}
    (h : pause duration scene = (.ok x, scene')) : scene'.left < scene.left := by
  unfold pause at h
  simp only at h
  split at h
  next left hleft _ =>
    cases h
    rw [hleft]
    exact Nat.lt_succ_self left
  next => cases h

theorem poll_const [Sleeper ω] (duration : Int64) (step : Act ω (Option α)) :
    poll duration (fun _ => step) = step.task >>= fun found =>
      found.elim (pause duration >>= fun _ => poll duration fun _ => step) pure := by
  funext scene
  rcases hrun : step scene.outside with ⟨fault | found, o⟩
  · rw [Act.bind_error (Act.task_of_run hrun), poll, pollFrom, hrun]
  · rw [Act.bind_ok (Act.task_of_run hrun), poll, pollFrom, hrun]
    cases found with
    | some x => rfl
    | none =>
      rw [Option.elim_none]
      obtain ⟨left, cancelled, outside⟩ := scene
      cases left with
      | zero => simp [Act.bind_apply, pause]
      | succ left =>
        cases hcancels : cancelled || Sleeper.cancels (Sleeper.slept duration o) with
        | true => simp [Act.bind_apply, pause, hcancels]
        | false => simp [Act.bind_apply, pause, hcancels, poll]

/-- A property of acts that a chain has when its parts have it, and every refusal in plain words. -/
structure Act.Chained (P : (α : Type) → Act ω α → Prop) : Prop where
  pure : ∀ {α : Type} (x : α), P α (Pure.pure x)
  refuse : ∀ {α : Type} (text : String), P α (throw (.plain text))
  bind : ∀ {α β : Type} {a : Act ω α} {f : α → Act ω β}, P α a → (∀ x, P β (f x)) → P β (a >>= f)

/-- A chained property that looking at the outside has, and a second try when the first has it. -/
structure Act.Compositional (P : (α : Type) → Act ω α → Prop) : Prop extends Act.Chained P where
  get : P ω MonadState.get
  retryOnce : ∀ {α : Type} (doing : String) {a : Act ω α}, P α a → P α (WatchTrial.retryOnce doing a)

/-- A relation of outsides, as a relation of scenes. -/
def Scene.Via (R : ω → ω → Prop) (before after : Scene ω) : Prop := R before.outside after.outside

variable {R : ω → ω → Prop}

instance [IsPreorder ω R] : IsPreorder (Scene ω) (Scene.Via R) where
  refl scene := refl_of R scene.outside
  trans _ _ _ h h' := trans_of R h h'

namespace Act.Within

theorem of_run {a : Act ω α} (ha : a.Within R) {o o' : ω} {outcome : Except Fault α}
    (h : a o = (outcome, o')) : R o o' := by
  have hrel := ha o
  rw [h] at hrel
  exact hrel

theorem task {a : Act ω α} (ha : a.Within R) : Act.Within (Scene.Via R) a.task :=
  fun scene => ha scene.outside

theorem taskOutcome {t : Task ω α} (ht : Act.Within (Scene.Via R) t) :
    Act.Within (Scene.Via R) t.outcome := ht

theorem mapFault {t : Task ω α} (ht : Act.Within (Scene.Via R) t) (g : Fault → Fault) :
    Act.Within (Scene.Via R) (t.mapFault g) := ht

theorem of {f : ω → α × ω} (h : ∀ o, R o (f o).2) : (Act.of f).Within R := h

section Preorder

variable [IsPreorder ω R]

theorem pure (x : α) : (Pure.pure x : Act ω α).Within R := fun o => refl_of R o

theorem throw (fault : Fault) : (MonadExcept.throw fault : Act ω α).Within R := fun o => refl_of R o

theorem get : (MonadState.get : Act ω ω).Within R := fun o => refl_of R o

theorem lift (e : Except Fault α) : (liftM e : Act ω α).Within R := fun o => refl_of R o

theorem bind {a : Act ω α} {f : α → Act ω β} (ha : a.Within R) (hf : ∀ x, (f x).Within R) :
    (a >>= f).Within R := by
  intro o
  rcases hrun : a o with ⟨fault | x, o'⟩
  · rw [Act.bind_error hrun]
    exact ha.of_run hrun
  · rw [Act.bind_ok hrun]
    exact trans_of R (ha.of_run hrun) (hf x o')

theorem retryOnce {attempt : Act ω α} (doing : String) (h : attempt.Within R) :
    (retryOnce doing attempt).Within R := by
  intro o
  unfold WatchTrial.retryOnce
  split
  next x o' hrun => exact h.of_run hrun
  next fault o' hrun =>
    split
    next x o'' hrun' => exact trans_of R (h.of_run hrun) (h.of_run hrun')
    next fault' o'' hrun' => exact trans_of R (h.of_run hrun) (h.of_run hrun')

/-- A second try that was needed started from what the first left. -/
theorem retryOnce_ok {attempt : Act ω α} (h : attempt.Within R) {doing : String} {o o' : ω} {x : α}
    (hrun : WatchTrial.retryOnce doing attempt o = (.ok x, o')) : ∃ o₁, R o o₁ ∧ attempt o₁ = (.ok x, o') := by
  unfold WatchTrial.retryOnce at hrun
  rcases hfirst : attempt o with ⟨fault | y, o₁⟩ <;> rw [hfirst] at hrun
  · refine ⟨o₁, h.of_run hfirst, ?_⟩
    rcases hsecond : attempt o₁ with ⟨fault' | y, o₂⟩ <;> simp only [hsecond] at hrun
    · cases hrun
    · exact hrun
  · exact ⟨o, refl_of R o, hfirst.trans hrun⟩

end Preorder

section Pauses

variable [Sleeper ω]

theorem pause (hslept : ∀ d o, R o (Sleeper.slept d o)) (duration : Int64) :
    Act.Within (Scene.Via R) (pause duration : Task ω Unit) := by
  intro scene
  unfold WatchTrial.pause
  simp only
  split <;> exact hslept duration scene.outside

variable [IsPreorder ω R]

theorem pollFrom (hslept : ∀ d o, R o (Sleeper.slept d o)) {duration : Int64}
    {step : Bool → Act ω (Option α)} (hstep : ∀ cancelled, (step cancelled).Within R) (left : Nat)
    (cancelled : Bool) (o : ω) : R o (pollFrom duration step left cancelled o).2.outside := by
  fun_induction WatchTrial.pollFrom duration step left cancelled o with
  | case1 left cancelled o fault o' hrun => exact (hstep _).of_run hrun
  | case2 left cancelled o x o' hrun => exact (hstep _).of_run hrun
  | case3 cancelled o o' hrun slept left hgo ih =>
    exact trans_of R (trans_of R ((hstep _).of_run hrun) (hslept duration o')) ih
  | case4 cancelled o o' hrun slept left hstop =>
    exact trans_of R ((hstep _).of_run hrun) (hslept duration o')

theorem poll (hslept : ∀ d o, R o (Sleeper.slept d o)) {step : Bool → Act ω (Option α)}
    (hstep : ∀ cancelled, (step cancelled).Within R) (duration : Int64) :
    Act.Within (Scene.Via R) (poll duration step) :=
  fun scene => pollFrom hslept hstep scene.left scene.cancelled scene.outside

end Pauses

end Act.Within

theorem Act.Chained.within [IsPreorder ω R] : Act.Chained fun α (a : Act ω α) => a.Within R where
  pure := .pure
  refuse _ := .throw _
  bind := .bind

theorem Act.Compositional.within [IsPreorder ω R] : Act.Compositional fun α (a : Act ω α) => a.Within R where
  toChained := .within
  get := .get
  retryOnce doing _ h := .retryOnce doing h

end WatchTrial
