import Std.Data.TreeMap
import Std.Data.TreeSet
import WatchTrial.Effect
import WatchTrial.Gesture.Standard
import WatchTrial.Text.Order
/-!
# Playing gestures

A player sends the moves of a gesture to a watch, one after the other, until one fails. Which names it
can play is written in a registry. This has a table of how each name is played and a table of the names
that cannot be; a name of the second has a handler in the first, which refuses it.
-/
namespace WatchTrial

/-- A watch that takes inputs. -/
structure Watch (ω : Type) where
  size : DisplaySize
  send : Input → Task ω Unit

/-- A watch, and how long the pauses of gestures are. -/
structure Player (ω : Type) where
  watch : Watch ω
  timeouts : Timeouts

variable {ω : Type}

namespace Player

def make [Sleeper ω] (p : Player ω) : Move → Task ω Unit
  | .input i => p.watch.send i
  | .pause d => pause d
  | .refuse why => throw why

/-- Makes moves until one fails. -/
def makeAll [Sleeper ω] (p : Player ω) : List Move → Task ω Unit
  | [] => pure ()
  | m :: rest => do
    p.make m
    p.makeAll rest

/-- Moves on in equal steps, with a pause after each. -/
def glide [Sleeper ω] (p : Player ω) (gap : Point) (duration : Int64) : (steps : Nat) → Point → Task ω Unit
  | 0, _ => pure ()
  | steps + 1, place => do
    let place : Point := ⟨place.x + gap.x, place.y + gap.y⟩
    p.make (.input (.touch .move place.x place.y))
    p.make (.pause duration)
    p.glide gap duration steps place

def swipe [Sleeper ω] (p : Player ω) (s : Swipe) : Task ω Unit :=
  match s.problem? with
  | some problem => throw (.plain problem.message)
  | none => do
    p.make (.input (.touch .down s.start.x s.start.y))
    p.glide s.gap (s.duration / s.steps) s.steps.toInt.toNat s.start
    p.make (.input (.touch .up s.stop.x s.stop.y))

def play [Sleeper ω] (p : Player ω) : Motion → Task ω Unit
  | .move m => p.make m
  | .swipe s => p.swipe s

/-- Plays the pieces of a gesture until one fails. -/
def playAll [Sleeper ω] (p : Player ω) : List Motion → Task ω Unit
  | [] => pure ()
  | piece :: rest => do
    p.play piece
    p.playAll rest

def perform [Sleeper ω] (p : Player ω) (g : Gesture) : Task ω Unit :=
  p.playAll (g.motions p.timeouts p.watch.size)

theorem makeAll_append [Sleeper ω] (p : Player ω) (xs ys : List Move) :
    p.makeAll (xs ++ ys) = p.makeAll xs >>= fun _ => p.makeAll ys := by
  induction xs with
  | nil => simp [makeAll]
  | cons m rest ih => simp [makeAll, ih]

theorem glide_eq_makeAll [Sleeper ω] (p : Player ω) (gap : Point) (duration : Int64) (steps : Nat)
    (place : Point) : p.glide gap duration steps place = p.makeAll (Swipe.glide gap duration steps place) := by
  induction steps generalizing place with
  | zero => rfl
  | succ steps ih => simp [glide, Swipe.glide, makeAll, ih]

theorem swipe_eq_makeAll [Sleeper ω] (p : Player ω) (s : Swipe) : p.swipe s = p.makeAll s.moves := by
  unfold swipe Swipe.moves
  cases s.problem? with
  | some problem => simp [makeAll, make]
  | none => simp [makeAll, makeAll_append, glide_eq_makeAll]

theorem perform_eq_makeAll [Sleeper ω] (p : Player ω) (g : Gesture) :
    p.perform g = p.makeAll (g.moves p.timeouts p.watch.size) := by
  unfold perform Gesture.moves
  induction g.motions p.timeouts p.watch.size with
  | nil => rfl
  | cons piece rest ih =>
    cases piece <;> simp [playAll, play, Motion.moves, makeAll_append, makeAll, swipe_eq_makeAll, ih]

end Player

structure Registry (ω : Type) where
  handlers : Std.TreeMap String (Player ω → Task ω Unit)
  unplayable : Std.TreeSet String

namespace Registry

def empty : Registry ω := ⟨{}, {}⟩

/-- Adds a gesture that can be played, in place of one with that name. -/
def register (r : Registry ω) (name : String) (play : Player ω → Task ω Unit) : Registry ω :=
  ⟨r.handlers.insert name play, r.unplayable.erase name⟩

/-- The handler of a gesture that is known and cannot be played. -/
def refuse (name : String) : Player ω → Task ω Unit := fun _ => throw (.unsupportedEvent name)

def registerUnplayable (r : Registry ω) (name : String) : Registry ω :=
  ⟨r.handlers.insert name (refuse name), r.unplayable.insert name⟩

def lookup (r : Registry ω) (name : String) : Option (Player ω → Task ω Unit) :=
  r.handlers[name]?

/-- Whether a name has a handler that can be played. -/
def supports (r : Registry ω) (name : String) : Bool :=
  r.handlers.contains name && ! r.unplayable.contains name

/-- All names, in ascending order. -/
def names (r : Registry ω) : List String :=
  Text.ascending r.handlers.keys

/-- The names that can be played, in ascending order. -/
def supportedNames (r : Registry ω) : List String :=
  r.names.filter r.supports

/-- The first name of a script that cannot be played. -/
def firstUnsupported? (r : Registry ω) (script : List String) : Option String :=
  script.find? (! r.supports ·)

def validate (r : Registry ω) (script : List String) : Except Fault Unit :=
  match r.firstUnsupported? script with
  | some name => .error (.unsupportedEvent name)
  | none => .ok ()

def standard [Sleeper ω] : Registry ω :=
  Gesture.unplayable.foldl registerUnplayable
    (Gesture.all.foldl (fun r g => r.register g.name (Player.perform · g)) empty)

def execute (r : Registry ω) (p : Player ω) (name : String) : Task ω Unit :=
  match r.lookup name with
  | some play => play p
  | none => throw (.unsupportedEvent name)

/-- Plays the gestures of names until one fails. -/
def executeAll (r : Registry ω) (p : Player ω) : List String → Task ω Unit
  | [] => pure ()
  | name :: rest => do
    r.execute p name
    r.executeAll p rest

/-- Plays a script, unless it names a gesture that cannot be played. -/
def run (r : Registry ω) (p : Player ω) (script : List String) : Task ω Unit :=
  match r.validate script with
  | .error fault => throw fault
  | .ok _ => r.executeAll p script

variable {r : Registry ω} {name : String}

theorem validate_ok_iff {script : List String} :
    r.validate script = .ok () ↔ ∀ name ∈ script, r.supports name = true := by
  have hfind : r.firstUnsupported? script = none ↔ ∀ name ∈ script, r.supports name = true := by
    simp [firstUnsupported?]
  rw [← hfind]
  unfold validate
  split
  next name hfirst => simp [hfirst]
  next hnone => simp [hnone]

theorem run_of_supported {script : List String} (h : ∀ name ∈ script, r.supports name = true) (p : Player ω) :
    r.run p script = r.executeAll p script := by
  unfold run
  rw [validate_ok_iff.mpr h]

theorem supports_of_run_ok {p : Player ω} {script : List String} {scene scene' : Scene ω} {x : Unit}
    (h : r.run p script scene = (.ok x, scene')) : ∀ name ∈ script, r.supports name = true := by
  rw [← validate_ok_iff]
  unfold run at h
  cases hvalid : r.validate script with
  | error fault =>
    rw [hvalid] at h
    cases h
  | ok => rfl

theorem validate_first {before after : List String} (hbefore : ∀ earlier ∈ before, r.supports earlier = true)
    (hname : r.supports name = false) :
    r.validate (before ++ name :: after) = .error (.unsupportedEvent name) := by
  have hfirst : r.firstUnsupported? (before ++ name :: after) = some name := by
    refine List.find?_eq_some_iff_append.mpr ⟨by simp [hname], before, after, rfl, ?_⟩
    intro earlier hearlier
    simp [hbefore earlier hearlier]
  unfold validate
  rw [hfirst]

theorem run_first {before after : List String} (hbefore : ∀ earlier ∈ before, r.supports earlier = true)
    (hname : r.supports name = false) (p : Player ω) :
    r.run p (before ++ name :: after) = throw (.unsupportedEvent name) := by
  unfold run
  rw [validate_first hbefore hname]

end Registry

end WatchTrial
