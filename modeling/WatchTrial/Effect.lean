import WatchTrial.Fault
/-!
# Acts and tasks

An act is an exchange with what lies outside; it takes no time. A task also pauses. A pause ends the task
when the run has been cancelled, by the outside at any moment before, or when its patience is used up, which
is then the moment of cancellation; what it then says is for the outside to choose. Two pauses are always
apart by acts only, so every task that repeats itself with a pause in between comes to an end by its patience.
-/
namespace WatchTrial

/-- An exchange with an outside `ω`, which either gives a value or fails. -/
abbrev Act (ω α : Type) := ExceptT Fault (StateM ω) α

/-- The outside of a task, with how long the task may still go on. -/
structure Scene (ω : Type) where
  /-- How many further pauses end well. -/
  left : Nat
  cancelled : Bool := false
  outside : ω
deriving Repr, DecidableEq, Inhabited

/-- Acts and pauses, which either give a value or fail. -/
abbrev Task (ω α : Type) := ExceptT Fault (StateM (Scene ω)) α

/-- An outside that can be told of a pause, and that can cancel the run. -/
class Sleeper (ω : Type) where
  slept : Int64 → ω → ω
  /-- Whether the outside has cancelled the run by now. -/
  cancels : ω → Bool := fun _ => false
  /-- What a pause says that has just failed. -/
  fault : ω → Fault := fun _ => .canceled

variable {ω α : Type}

/-- Whether the run has been cancelled by now, whether or not a pause has noticed it. -/
def Scene.interrupted [Sleeper ω] (scene : Scene ω) : Bool :=
  scene.cancelled || Sleeper.cancels scene.outside

def Act.of (f : ω → α × ω) : Act ω α :=
  fun o => ((.ok (f o).1), (f o).2)

/-- The outcome of an act as a value. -/
def Act.outcome (a : Act ω α) : Act ω (Except Fault α) :=
  fun o => (.ok (a o).1, (a o).2)

/-- An act as a task without a pause. -/
def Act.task (a : Act ω α) : Task ω α :=
  fun scene => ((a scene.outside).1, { scene with outside := (a scene.outside).2 })

/-- The outcome of a task as a value. -/
def Task.outcome (t : Task ω α) : Task ω (Except Fault α) :=
  fun scene => (.ok (t scene).1, (t scene).2)

/-- A task whose fault is put into words of its caller. -/
def Task.mapFault (g : Fault → Fault) (t : Task ω α) : Task ω α :=
  fun scene => ((t scene).1.mapError g, (t scene).2)

def pause [Sleeper ω] (duration : Int64) : Task ω Unit :=
  fun scene =>
    let outside := Sleeper.slept duration scene.outside
    match scene.left, scene.cancelled || Sleeper.cancels outside with
    | left + 1, false => (.ok (), { left, outside })
    | left, _ => (.error (Sleeper.fault outside), { left, cancelled := true, outside })

/-- Repeats a step until it gives a value, with a pause after each that gave none. The step is told
whether the run has been cancelled. -/
def pollFrom [Sleeper ω] (duration : Int64) (step : Bool → Act ω (Option α)) :
    (left : Nat) → (cancelled : Bool) → ω → Except Fault α × Scene ω
  | left, cancelled, o =>
    match step (cancelled || Sleeper.cancels o) o with
    | (.error fault, o) => (.error fault, ⟨left, cancelled, o⟩)
    | (.ok (some a), o) => (.ok a, ⟨left, cancelled, o⟩)
    | (.ok none, o) =>
      let o := Sleeper.slept duration o
      match left, cancelled || Sleeper.cancels o with
      | left + 1, false => pollFrom duration step left false o
      | left, _ => (.error (Sleeper.fault o), ⟨left, true, o⟩)

/-- Repeats a step until it gives a value, with a pause after each that gave none. -/
def poll [Sleeper ω] (duration : Int64) (step : Bool → Act ω (Option α)) : Task ω α :=
  fun scene => pollFrom duration step scene.left scene.cancelled scene.outside

/-- Tries an act and, if it fails, exactly once more. A second failure counts as a failed command. -/
def retryOnce (doing : String) (attempt : Act ω α) : Act ω α :=
  fun o =>
    match attempt o with
    | (.ok a, o) => (.ok a, o)
    | (.error _, o) =>
      match attempt o with
      | (.ok a, o) => (.ok a, o)
      | (.error fault, o) =>
        (.error (if fault.carries .commandFailed then fault else .commandFailed doing fault), o)

end WatchTrial
