import WatchTrial.Proofs.SwipePath
/-!
# What playing a script leaves

A script of standard gestures is one list of moves. Playing it makes their calls in turn, inputs to the watch and
pauses, and ends at the first that fails. Whichever call this is, the run has left the start of the journal that
it leaves when nothing fails, and ends with the fault of the call.
-/
namespace WatchTrial

variable {ω ω' α : Type}

namespace Move

/-- The notes that moves leave as long as no call fails: those before the first refusal. -/
def journal : List Move → List Note
  | [] => []
  | input i :: rest => .input i :: journal rest
  | pause d :: rest => .slept d :: journal rest
  | refuse _ :: _ => []

/-- How moves end when no call fails. -/
def outcome : List Move → Except Fault Unit
  | [] => .ok ()
  | input _ :: rest => outcome rest
  | pause _ :: rest => outcome rest
  | refuse why :: _ => .error why

def isPause : Move → Bool
  | pause _ => true
  | _ => false

end Move

def Note.IsCall : Note → Prop
  | input _ => True
  | slept _ => True
  | played _ => False

private theorem Move.isCall_of_mem_journal {moves : List Move} {note : Note} (h : note ∈ journal moves) :
    note.IsCall := by
  induction moves with
  | nil => simp [journal] at h
  | cons m rest ih =>
    cases m with
    | input i =>
      rcases List.mem_cons.mp h with rfl | h
      · trivial
      · exact ih h
    | pause d =>
      rcases List.mem_cons.mp h with rfl | h
      · trivial
      · exact ih h
    | refuse why => simp [journal] at h

theorem Move.outcome_append_ok_iff {xs ys : List Move} :
    outcome (xs ++ ys) = .ok () ↔ outcome xs = .ok () ∧ outcome ys = .ok () := by
  induction xs with
  | nil => simp [outcome]
  | cons m rest ih => cases m <;> simp [outcome, ih]

theorem Move.journal_append {xs ys : List Move} (h : outcome xs = .ok ()) :
    journal (xs ++ ys) = journal xs ++ journal ys := by
  induction xs with
  | nil => rfl
  | cons m rest ih =>
    cases m with
    | input i => simpa [journal] using ih h
    | pause d => simpa [journal] using ih h
    | refuse why => cases h

namespace Swipe

variable {s : Swipe}

private theorem outcome_glide (gap : Point) (d : Int64) (steps : Nat) (place : Point) :
    Move.outcome (glide gap d steps place) = .ok () := by
  induction steps generalizing place with
  | zero => rfl
  | succ steps ih => exact ih _

theorem outcome_moves_ok_iff : Move.outcome s.moves = .ok () ↔ s.problem? = none := by
  unfold moves
  cases s.problem? with
  | some problem => simp [Move.outcome]
  | none => simp [Move.outcome, Move.outcome_append_ok_iff, outcome_glide]

private theorem journal_glide (s : Swipe) (steps i : Nat) :
    Move.journal (glide s.gap (s.duration / s.steps) steps (s.place i)) =
      (List.range' (i + 1) steps).flatMap fun i =>
        [.input (.touch .move (s.place i).x (s.place i).y), .slept (s.duration / s.steps)] := by
  induction steps generalizing i with
  | zero => rfl
  | succ steps ih =>
    rw [List.range'_succ, List.flatMap_cons, ← ih (i + 1)]
    rfl

theorem journal_moves (h : s.problem? = none) : Move.journal s.moves = s.course := by
  unfold moves course
  rw [h]
  simp only [Move.journal, Move.journal_append (outcome_glide ..)]
  rw [← s.journal_glide s.steps.toInt.toNat 0]
  rfl

end Swipe

/-- What a task adds to the notes, whatever its outcome. -/
def Task.added (notes : ω → List Note) (t : Task ω α) (scene : Scene ω) : List Note :=
  (notes (t scene).2.outside).drop (notes scene.outside).length

private theorem Task.added_eq {notes : ω → List Note} {t : Task ω α} {scene : Scene ω} {left : List Note}
    (h : notes (t scene).2.outside = notes scene.outside ++ left) : t.added notes scene = left := by
  rw [added, h, List.drop_left]

namespace Player

variable [Sleeper ω] (p : Player ω)

/-- Makes the call that a note is of. A name that was left is of none. -/
def call : Note → Task ω Unit
  | .input i => p.watch.send i
  | .slept d => pause d
  | .played _ => pure ()

def callAll : List Note → Task ω Unit
  | [] => pure ()
  | note :: rest => do
    p.call note
    callAll rest

/-- When the calls of a journal are made in turn, the one at a position fails, and none before it does. -/
def FailsAt (journal : List Note) (n : Nat) (scene : Scene ω) (why : Fault) (last : Scene ω) : Prop :=
  ∃ call reached, journal[n]? = some call ∧ p.callAll (journal.take n) scene = (.ok (), reached) ∧
    p.call call reached = (.error why, last)

variable {p} {note : Note} {rest journal : List Note} {n : Nat} {scene next last : Scene ω} {why fault : Fault}

private theorem failsAt_zero : p.FailsAt (note :: rest) 0 scene why last ↔ p.call note scene = (.error why, last) := by
  constructor
  · rintro ⟨call, reached, hcall, hreached, hfail⟩
    cases hcall
    cases hreached
    exact hfail
  · intro h
    exact ⟨note, scene, rfl, rfl, h⟩

private theorem failsAt_succ (h : p.call note scene = (.ok (), next)) :
    p.FailsAt (note :: rest) (n + 1) scene why last ↔ p.FailsAt rest n next why last := by
  have hbefore : p.callAll ((note :: rest).take (n + 1)) scene = p.callAll (rest.take n) next := Act.bind_ok h _
  simp only [FailsAt, hbefore, List.getElem?_cons_succ]

private theorem not_failsAt_succ (h : p.call note scene = (.error fault, next)) :
    ¬ p.FailsAt (note :: rest) (n + 1) scene why last := by
  rintro ⟨call, reached, -, hbefore, -⟩
  have hstop : p.callAll ((note :: rest).take (n + 1)) scene = (.error fault, next) := Act.bind_error h _
  rw [hstop] at hbefore
  cases hbefore

private theorem callAll_error_iff :
    p.callAll journal scene = (.error why, last) ↔ ∃ n, p.FailsAt journal n scene why last := by
  induction journal generalizing scene with
  | nil =>
    constructor
    · intro h
      cases h
    · rintro ⟨n, call, reached, hcall, -⟩
      simp at hcall
  | cons note rest ih =>
    rcases hfirst : p.call note scene with ⟨fault | _, next⟩
    · have hstop : p.callAll (note :: rest) scene = (.error fault, next) := Act.bind_error hfirst _
      rw [hstop, ← hfirst]
      constructor
      · intro h
        exact ⟨0, failsAt_zero.mpr h⟩
      · rintro ⟨n, hn⟩
        cases n with
        | zero => exact failsAt_zero.mp hn
        | succ n => exact absurd hn (not_failsAt_succ hfirst)
    · have hgo : p.callAll (note :: rest) scene = p.callAll rest next := Act.bind_ok hfirst _
      rw [hgo, ih]
      constructor
      · rintro ⟨n, hn⟩
        exact ⟨n + 1, (failsAt_succ hfirst).mpr hn⟩
      · rintro ⟨n, hn⟩
        cases n with
        | zero =>
          rw [failsAt_zero, hfirst] at hn
          cases hn
        | succ n => exact ⟨n, (failsAt_succ hfirst).mp hn⟩

private theorem makeAll_eq_callAll (p : Player ω) (moves : List Move) :
    p.makeAll moves = p.callAll (Move.journal moves) >>= fun _ => liftM (Move.outcome moves) := by
  induction moves with
  | nil => rfl
  | cons m rest ih =>
    cases m with
    | input i => simp only [makeAll, make, Move.journal, Move.outcome, callAll, call, ih, bind_assoc]
    | pause d => simp only [makeAll, make, Move.journal, Move.outcome, callAll, call, ih, bind_assoc]
    | refuse why => rfl

end Player

namespace Watch.Noted

variable [Sleeper ω] {notes : ω → List Note} {p : Player ω} (hnoted : p.watch.Noted notes)
include hnoted

theorem call {note : Note} (h : note.IsCall) (scene : Scene ω) :
    notes (p.call note scene).2.outside = notes scene.outside ++ [note] := by
  cases note with
  | input i => exact hnoted.send i scene
  | slept d =>
    rw [← hnoted.slept, ← pause_outside]
    rfl
  | played name => exact h.elim

private theorem callAll {journal : List Note} (h : ∀ note ∈ journal, note.IsCall) :
    Task.Leaves notes journal (p.callAll journal) := by
  induction journal with
  | nil => exact .pure
  | cons note rest ih =>
    obtain ⟨hnote, hrest⟩ := List.forall_mem_cons.mp h
    have hcall : Task.Leaves notes [note] (p.call note) := by
      intro scene scene' hrun
      rw [← hnoted.call hnote scene, hrun]
    exact .bind hcall (ih hrest)

private theorem failsAt {journal : List Note} (h : ∀ note ∈ journal, note.IsCall) {n : Nat} {scene last : Scene ω}
    {why : Fault} (hfails : p.FailsAt journal n scene why last) :
    notes last.outside = notes scene.outside ++ journal.take (n + 1) := by
  obtain ⟨call, reached, hcall, hbefore, hfail⟩ := hfails
  have hreached := hnoted.callAll (fun note hnote => h note (List.mem_of_mem_take hnote)) scene reached hbefore
  have hlast := hnoted.call (h call (List.mem_of_getElem? hcall)) reached
  rw [hfail] at hlast
  rw [hlast, hreached, List.append_assoc, List.take_add_one, hcall]
  rfl

end Watch.Noted

private theorem Watch.Undisturbed.callAll [Sleeper ω] {Calm : ω → Prop} {p : Player ω}
    (hwatch : p.watch.Undisturbed Calm) (why : Fault) (moves : List Move) :
    Task.PlaysUnless Calm why (moves.countP Move.isPause) False (p.callAll (Move.journal moves)) := by
  induction moves with
  | nil => exact .pure
  | cons m rest ih =>
    cases m with
    | input i =>
      refine .weaken (.bind (hwatch.input i) ih) ?_ (by simp)
      simp [Move.isPause]
    | pause d =>
      refine .weaken (.bind (hwatch.pause d) ih) ?_ (by simp)
      simp [List.countP_cons, Move.isPause, Nat.add_comm]
    | refuse why => exact .weaken .pure (Nat.zero_le _) Iff.rfl

private theorem Swipe.countP_moves_le (s : Swipe) : s.moves.countP Move.isPause ≤ s.steps.toInt.toNat := by
  have hglide (gap : Point) (d : Int64) (steps : Nat) (place : Point) :
      (glide gap d steps place).countP Move.isPause = steps := by
    induction steps generalizing place with
    | zero => rfl
    | succ steps ih => simp [glide, List.countP_cons, Move.isPause, ih]
  unfold moves
  split
  · simp [Move.isPause]
  · simp [Move.isPause, hglide]

namespace Gesture

variable (t : Timeouts) (size : DisplaySize)

private theorem countP_moves_le (g : Gesture) :
    (g.moves t size).countP Move.isPause ≤ t.swipeSteps.toInt.toNat + 1 := by
  have hswipe (start stop : Point) := Swipe.countP_moves_le ⟨start, stop, t.swipeDuration, t.swipeSteps⟩
  cases g <;> simp only [moves, motions, Gesture.swipe, rest, touch, side, Motion.moves, List.flatMap_cons,
    List.flatMap_nil, List.append_nil, List.countP_append, List.countP_cons, List.countP_nil, Move.isPause]
  case swipeRight | swipeLeft => exact Nat.le_succ_of_le (hswipe _ _)
  case swipeUp | swipeDown => exact Nat.add_le_add_right (hswipe _ _) 1
  all_goals simp

private theorem countP_flatMap_moves_le (gestures : List Gesture) :
    (gestures.flatMap (moves t size)).countP Move.isPause ≤ gestures.length * (t.swipeSteps.toInt.toNat + 1) := by
  induction gestures with
  | nil => simp
  | cons g rest ih =>
    have hfirst := countP_moves_le t size g
    rw [List.flatMap_cons, List.countP_append, List.length_cons, Nat.succ_mul]
    omega

end Gesture

namespace Registry

variable [Sleeper ω]

theorem standard_supports (g : Gesture) : (standard : Registry ω).supports g.name = true :=
  supports_iff.mpr ⟨_, standard_known? g⟩

private theorem exists_gestures {script : List String}
    (h : ∀ name ∈ script, (standard : Registry ω).supports name = true) :
    ∃ gestures : List Gesture, script = gestures.map Gesture.name := by
  induction script with
  | nil => exact ⟨[], rfl⟩
  | cons name rest ih =>
    obtain ⟨hname, hrest⟩ := List.forall_mem_cons.mp h
    obtain ⟨g, rfl, -⟩ := standard_execute hname
    obtain ⟨gestures, rfl⟩ := ih hrest
    exact ⟨g :: gestures, rfl⟩

/-- A script of standard gestures is played move by move. -/
theorem run_gestures (p : Player ω) (gestures : List Gesture) :
    (standard : Registry ω).run p (gestures.map Gesture.name) =
      p.makeAll (gestures.flatMap (Gesture.moves p.timeouts p.watch.size)) := by
  have hsupported : ∀ name ∈ gestures.map Gesture.name, (standard : Registry ω).supports name = true := by
    intro name hname
    obtain ⟨g, -, rfl⟩ := List.mem_map.mp hname
    exact standard_supports g
  rw [run_of_supported hsupported]
  clear hsupported
  induction gestures with
  | nil => rfl
  | cons g rest ih =>
    rw [List.map_cons, executeAll, execute_of_known (standard_known? g), p.perform_eq_makeAll, ih,
      List.flatMap_cons, p.makeAll_append]

end Registry

section Run

variable [Sleeper ω] {p : Player ω} {notes : ω → List Note} (hnoted : p.watch.Noted notes)
include hnoted

/-- When a call fails, the moves end with its fault and have left the journal up to it. -/
theorem Player.makeAll_failsAt {moves : List Move} {n : Nat} {scene last : Scene ω} {why : Fault}
    (h : p.FailsAt (Move.journal moves) n scene why last) :
    p.makeAll moves scene = (.error why, last) ∧
      notes last.outside = notes scene.outside ++ (Move.journal moves).take (n + 1) := by
  constructor
  · rw [makeAll_eq_callAll]
    exact Act.bind_error (callAll_error_iff.mpr ⟨n, h⟩) _
  · exact hnoted.failsAt (fun _ => Move.isCall_of_mem_journal) h

private theorem Player.makeAll_unfailing {moves : List Move} {scene : Scene ω}
    (h : ∀ n why last, ¬ p.FailsAt (Move.journal moves) n scene why last) :
    (p.makeAll moves scene).1 = Move.outcome moves ∧
      notes (p.makeAll moves scene).2.outside = notes scene.outside ++ Move.journal moves := by
  rcases hcalls : p.callAll (Move.journal moves) scene with ⟨fault | _, last⟩
  · obtain ⟨n, hn⟩ := callAll_error_iff.mp hcalls
    exact absurd hn (h n fault last)
  · have hrun : p.makeAll moves scene = (Move.outcome moves, last) := by
      rw [makeAll_eq_callAll, Act.bind_ok hcalls]
      rfl
    rw [hrun]
    exact ⟨rfl, hnoted.callAll (fun _ => Move.isCall_of_mem_journal) scene last hcalls⟩

private theorem Player.makeAll_ok {moves : List Move} {scene scene' : Scene ω}
    (h : p.makeAll moves scene = (.ok (), scene')) :
    Move.outcome moves = .ok () ∧ notes scene'.outside = notes scene.outside ++ Move.journal moves := by
  have hnone : ∀ n why last, ¬ p.FailsAt (Move.journal moves) n scene why last := by
    intro n why last hfails
    rw [(makeAll_failsAt hnoted hfails).1] at h
    cases h
  obtain ⟨houtcome, hleft⟩ := makeAll_unfailing hnoted hnone
  rw [h] at houtcome hleft
  exact ⟨houtcome.symm, hleft⟩

end Run

private theorem Player.undisturbed_unfailing [Sleeper ω] {p : Player ω} {Calm : ω → Prop}
    (hwatch : p.watch.Undisturbed Calm) {moves : List Move} {scene : Scene ω}
    (hscene : scene.Steady Calm (moves.countP Move.isPause)) (n : Nat) (why : Fault) (last : Scene ω) :
    ¬ p.FailsAt (Move.journal moves) n scene why last := by
  intro hfails
  obtain ⟨-, hplayed⟩ := hwatch.callAll why moves scene 0 hscene
  obtain ⟨scene', hrun, -⟩ := hplayed id
  rw [callAll_error_iff.mpr ⟨n, hfails⟩] at hrun
  cases hrun

/-- A script that was played to its end left the whole journal of its moves, and none of them was a refusal. -/
theorem Registry.added_of_run_ok [Sleeper ω] {p : Player ω} {notes : ω → List Note} (hnoted : p.watch.Noted notes)
    {script : List String} {scene scene' : Scene ω}
    (h : (standard : Registry ω).run p script scene = (.ok (), scene')) :
    ∃ gestures : List Gesture,
      Move.outcome (gestures.flatMap (Gesture.moves p.timeouts p.watch.size)) = .ok () ∧
      ((standard : Registry ω).run p script).added notes scene =
        Move.journal (gestures.flatMap (Gesture.moves p.timeouts p.watch.size)) := by
  obtain ⟨gestures, rfl⟩ := exists_gestures (supports_of_run_ok h)
  rw [run_gestures] at h ⊢
  obtain ⟨houtcome, hleft⟩ := Player.makeAll_ok hnoted h
  refine ⟨gestures, houtcome, Task.added_eq ?_⟩
  rw [h, hleft]

/-- A gesture that nothing disturbs leaves the whole journal of its moves. -/
theorem Registry.added_execute [Sleeper ω] {p : Player ω} {notes : ω → List Note} {Calm : ω → Prop}
    (hnoted : p.watch.Noted notes) (hwatch : p.watch.Undisturbed Calm) {scene : Scene ω}
    (hscene : scene.Steady Calm (p.timeouts.swipeSteps.toInt.toNat + 1)) (g : Gesture) :
    ((standard : Registry ω).execute p g.name).added notes scene =
      Move.journal (g.moves p.timeouts p.watch.size) := by
  rw [execute_of_known (standard_known? g), p.perform_eq_makeAll]
  apply Task.added_eq
  refine (Player.makeAll_unfailing hnoted (Player.undisturbed_unfailing hwatch (hscene.of_le ?_))).2
  exact Gesture.countP_moves_le p.timeouts p.watch.size g

/-- A script of standard gestures is played twice, on any watch, and on one that never fails with a clock that never
fails. If a call of the first run fails, be it the first or any later input or pause, and none before it, this run ends
with the fault of the call and has left what the other run leaves up to the call. If no call fails both runs end alike.
A script with another name in it is refused because of the first such name, and nothing is done. -/
theorem Registry.run_until_failure [Sleeper ω] [Sleeper ω'] {p : Player ω} {steady : Player ω'}
    {notes : ω → List Note} {notes' : ω' → List Note} {Calm : ω' → Prop} (hnoted : p.watch.Noted notes)
    (hnoted' : steady.watch.Noted notes') (hsteady : steady.watch.Undisturbed Calm)
    (hsize : steady.watch.size = p.watch.size) (htimeouts : steady.timeouts = p.timeouts) (script : List String)
    (scene : Scene ω) :
    ((∀ name ∈ script, (standard : Registry ω).supports name = true) →
      ∀ scene' : Scene ω', scene'.Steady Calm (script.length * (p.timeouts.swipeSteps.toInt.toNat + 1)) →
        let run := (standard : Registry ω).run p script
        let run' := (standard : Registry ω').run steady script
        let journal := run'.added notes' scene'
        (∀ n why last, p.FailsAt journal n scene why last →
          run scene = (.error why, last) ∧ run.added notes scene = journal.take (n + 1)) ∧
        ((∀ n why last, ¬ p.FailsAt journal n scene why last) →
          (run scene).1 = (run' scene').1 ∧ run.added notes scene = journal)) ∧
    (∀ before name after, script = before ++ name :: after →
      (∀ earlier ∈ before, (standard : Registry ω).supports earlier = true) →
      (standard : Registry ω).supports name = false →
      (standard : Registry ω).run p script scene = (.error (.unsupportedEvent name), scene)) := by
  constructor
  · intro hscript scene' hscene' run run' journal
    obtain ⟨gestures, rfl⟩ := exists_gestures hscript
    let moves := gestures.flatMap (Gesture.moves p.timeouts p.watch.size)
    have hrun : run = p.makeAll moves := run_gestures p gestures
    have hrun' : run' = steady.makeAll moves := by
      simp only [moves, ← hsize, ← htimeouts]
      exact run_gestures steady gestures
    -- on the other watch no call fails, so its run leaves the whole journal of the moves
    have hpauses : moves.countP Move.isPause ≤ (gestures.map Gesture.name).length *
        (p.timeouts.swipeSteps.toInt.toNat + 1) := by
      rw [List.length_map]
      exact Gesture.countP_flatMap_moves_le p.timeouts p.watch.size gestures
    obtain ⟨houtcome', hleft'⟩ := Player.makeAll_unfailing hnoted'
      (Player.undisturbed_unfailing hsteady (hscene'.of_le hpauses))
    have hjournal : journal = Move.journal moves := by
      apply Task.added_eq
      rw [hrun', hleft']
    rw [hjournal, hrun, hrun', houtcome']
    constructor
    · intro n why last hfails
      obtain ⟨hend, hleft⟩ := Player.makeAll_failsAt hnoted hfails
      refine ⟨hend, Task.added_eq ?_⟩
      rw [hend, hleft]
    · intro hnone
      obtain ⟨houtcome, hleft⟩ := Player.makeAll_unfailing hnoted hnone
      exact ⟨houtcome, Task.added_eq hleft⟩
  · rintro before name after rfl hbefore hname
    rw [run_first hbefore hname]
    rfl

/-! A tap and a swipe of two steps, which a broken link or an impatient clock ends early. -/
namespace BrokenOff

def player : Player Practice := ⟨Practice.watch ⟨320, 290⟩, { swipeSteps := 2, swipeDuration := 10 }⟩

def script : List String := ["tap_screen_center", "swipe_left"]

def run : Task Practice Unit := Registry.standard.run player script

def journal : List Note :=
  [.input (.touch .downAndUp 160 145), .input (.touch .down 270 145), .input (.touch .move 160 145), .slept 5,
    .input (.touch .move 50 145), .slept 5, .input (.touch .up 50 145)]

end BrokenOff

theorem Registry.run_until_failure_broken_off :
    (∃ last, BrokenOff.run { left := 6, outside := { failAt := some 3 } } =
        (.error (.commandFailed "call 3" (.plain "link closed")), last) ∧
      BrokenOff.run.added Practice.notes { left := 6, outside := { failAt := some 3 } } =
        BrokenOff.journal.take 3) ∧
    (∃ last, BrokenOff.run { left := 1, outside := {} } = (.error .canceled, last) ∧
      BrokenOff.run.added Practice.notes { left := 1, outside := {} } = BrokenOff.journal.take 6) := by
  have hnoted : BrokenOff.player.watch.Noted Practice.notes := Practice.noted ⟨320, 290⟩
  have hwatch : BrokenOff.player.watch.Undisturbed fun p => p.failAt = none := Practice.undisturbed ⟨320, 290⟩
  have hscript : ∀ name ∈ BrokenOff.script, (standard : Registry Practice).supports name = true := by
    decide +kernel
  have hsteady : ({ left := 6, outside := {} } : Scene Practice).Steady (fun p => p.failAt = none) 6 :=
    ⟨rfl, Nat.le_refl 6, rfl⟩
  have hruns (scene : Scene Practice) :=
    (run_until_failure hnoted hnoted hwatch rfl rfl BrokenOff.script scene).1 hscript _ hsteady
  have hinput := (hruns { left := 6, outside := { failAt := some 3 } }).1 2 _ _ ⟨_, _, rfl, rfl, rfl⟩
  have hpause := (hruns { left := 1, outside := {} }).1 5 _ _ ⟨_, _, rfl, rfl, rfl⟩
  exact ⟨⟨_, hinput⟩, ⟨_, hpause⟩⟩

end WatchTrial
