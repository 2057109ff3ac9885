import WatchTrial.Proofs.PlayedScript
/-!
# What is taken hold of is let go

The touch and each key can be held. Every standard gesture finds nothing held and leaves nothing held, and in between
takes hold and lets go in turn, so a script of any length does too.
-/
namespace WatchTrial

variable {ω : Type}

/-- What an input does to something that can be held. -/
inductive Stroke where
  | down
  | along
  | up
  | tap

namespace Stroke

def needsHold : Stroke → Bool
  | down => false
  | along => true
  | up => true
  | tap => false

def after (held : Bool) : Stroke → Bool
  | down => true
  | along => held
  | up => false
  | tap => held

/-- Every stroke finds it held or free as it needs it, and in the end it is free. -/
def Bracketed : (held : Bool) → List Stroke → Prop
  | held, [] => held = false
  | held, s :: rest => held = s.needsHold ∧ Bracketed (s.after held) rest

theorem Bracketed.append {held : Bool} {xs ys : List Stroke} (hxs : Bracketed held xs) (hys : Bracketed false ys) :
    Bracketed held (xs ++ ys) := by
  induction xs generalizing held with
  | nil =>
    cases hxs
    exact hys
  | cons s rest ih => exact ⟨hxs.1, ih hxs.2⟩

private theorem bracketed_along (n : Nat) : Bracketed true (List.replicate n along ++ [up]) := by
  induction n with
  | zero => exact ⟨rfl, rfl⟩
  | succ n ih =>
    rw [List.replicate_succ]
    exact ⟨rfl, ih⟩

end Stroke

def TouchAction.stroke? : TouchAction → Option Stroke
  | down => some .down
  | up => some .up
  | move => some .along
  | downAndUp => some .tap
  | other _ => none

def KeyAction.stroke? : KeyAction → Option Stroke
  | down => some .down
  | up => some .up
  | downAndUp => some .tap
  | other _ => none

namespace Note

/-- What the note tells of the touch. -/
def touchStroke? : Note → Option Stroke
  | input (.touch action _ _) => action.stroke?
  | _ => none

def keyStroke? (key : String) : Note → Option Stroke
  | input (.press action pressed) => if pressed = key then action.stroke? else none
  | _ => none

/-- Neither the touch nor a key is held before or after, and each is taken hold of and let go in turn. -/
structure LetsGo (journal : List Note) : Prop where
  touch : Stroke.Bracketed false (journal.filterMap touchStroke?)
  key : ∀ key, Stroke.Bracketed false (journal.filterMap (keyStroke? key))

namespace LetsGo

variable {xs ys : List Note}

theorem nil : LetsGo [] := ⟨rfl, fun _ => rfl⟩

theorem append (hxs : LetsGo xs) (hys : LetsGo ys) : LetsGo (xs ++ ys) := by
  constructor
  · rw [List.filterMap_append]
    exact hxs.touch.append hys.touch
  · intro key
    rw [List.filterMap_append]
    exact (hxs.key key).append (hys.key key)

private theorem of_key (pressed : String) (htouch : Stroke.Bracketed false (xs.filterMap touchStroke?))
    (hpressed : Stroke.Bracketed false (xs.filterMap (keyStroke? pressed)))
    (hothers : ∀ key, pressed ≠ key → xs.filterMap (keyStroke? key) = []) : LetsGo xs := by
  refine ⟨htouch, fun key => ?_⟩
  by_cases hkey : pressed = key
  · rw [← hkey]
    exact hpressed
  · rw [hothers key hkey]
    rfl

end LetsGo

end Note

private theorem Swipe.course_letsGo (s : Swipe) : Note.LetsGo s.course := by
  have htouch (i : Nat) : [Note.input (.touch .move (s.place i).x (s.place i).y),
      .slept (s.duration / s.steps)].filterMap Note.touchStroke? = [.along] := rfl
  have hkey (key : String) (i : Nat) : [Note.input (.touch .move (s.place i).x (s.place i).y),
      .slept (s.duration / s.steps)].filterMap (Note.keyStroke? key) = [] := rfl
  constructor
  · simp only [course, List.filterMap_cons, List.filterMap_append, List.filterMap_flatMap, htouch,
      ← List.map_eq_flatMap, List.map_const', List.filterMap_nil, Note.touchStroke?]
    exact ⟨rfl, Stroke.bracketed_along _⟩
  · intro key
    simp only [course, List.filterMap_cons, List.filterMap_append, List.filterMap_flatMap, hkey,
      List.flatMap_eq_nil_iff.mpr fun _ _ => rfl, List.filterMap_nil, Note.keyStroke?]
    rfl

namespace Gesture

variable {t : Timeouts} {size : DisplaySize}

private theorem journal_letsGo {g : Gesture} (h : Move.outcome (g.moves t size) = .ok ()) :
    Note.LetsGo (Move.journal (g.moves t size)) := by
  have hswipe {s : Swipe} {rest : List Move} (hs : Move.outcome (s.moves ++ rest) = .ok ())
      (hrest : Note.LetsGo (Move.journal rest)) : Note.LetsGo (Move.journal (s.moves ++ rest)) := by
    obtain ⟨hs, -⟩ := Move.outcome_append_ok_iff.mp hs
    rw [Move.journal_append hs, Swipe.journal_moves (Swipe.outcome_moves_ok_iff.mp hs)]
    exact s.course_letsGo.append hrest
  have hrest (d : Int64) : Note.LetsGo [.slept d] := ⟨rfl, fun _ => rfl⟩
  cases g with
  | standby => exact hrest t.long
  | swipeRight => exact hswipe h .nil
  | swipeLeft => exact hswipe h .nil
  | swipeUp => exact hswipe h (hrest t.short)
  | swipeDown => exact hswipe h (hrest t.short)
  | pressSideButton =>
    refine .of_key sideButton rfl ⟨rfl, rfl⟩ fun key hkey => ?_
    simp [moves, motions, side, rest, Motion.moves, Move.journal, List.filterMap_cons, Note.keyStroke?, hkey]
  | holdSideButton =>
    refine .of_key sideButton rfl ⟨rfl, rfl, rfl⟩ fun key hkey => ?_
    simp [moves, motions, side, rest, Motion.moves, Move.journal, List.filterMap_cons, Note.keyStroke?, hkey]
  | tapCenter => exact ⟨⟨rfl, rfl⟩, fun _ => rfl⟩
  | holdCenter => exact ⟨⟨rfl, rfl, rfl⟩, fun _ => rfl⟩
  | wake => exact ⟨rfl, fun _ => rfl⟩

private theorem journal_flatMap_letsGo {gestures : List Gesture}
    (h : Move.outcome (gestures.flatMap (moves t size)) = .ok ()) :
    Note.LetsGo (Move.journal (gestures.flatMap (moves t size))) := by
  induction gestures with
  | nil => exact .nil
  | cons g rest ih =>
    rw [List.flatMap_cons] at h ⊢
    obtain ⟨hg, hrest⟩ := Move.outcome_append_ok_iff.mp h
    rw [Move.journal_append hg]
    exact (journal_letsGo hg).append (ih hrest)

end Gesture

/-- A script that was played to its end has taken hold of the touch and of each key and let them go in turn: they go
down only when free and up only when held, the touch moves only while it is held, neither is tapped while it is held,
and in the end nothing is held. -/
theorem Registry.run_bracketed [Sleeper ω] {p : Player ω} {notes : ω → List Note} (hnoted : p.watch.Noted notes)
    {script : List String} {scene scene' : Scene ω}
    (h : (standard : Registry ω).run p script scene = (.ok (), scene')) :
    Note.LetsGo (((standard : Registry ω).run p script).added notes scene) := by
  obtain ⟨gestures, houtcome, hadded⟩ := added_of_run_ok hnoted h
  rw [hadded]
  exact Gesture.journal_flatMap_letsGo houtcome

/-! Everything that can be held is held for a while, the touch on a way of two steps. -/
namespace HoldingScript

def player : Player Practice := ⟨Practice.watch ⟨320, 290⟩, { swipeSteps := 2, swipeDuration := 10 }⟩

def run : Task Practice Unit :=
  Registry.standard.run player
    ["press_and_hold_side_button", "swipe_up", "press_side_button", "tap_and_hold_screen_center"]

end HoldingScript

theorem Registry.run_bracketed_holding :
    (∃ scene', HoldingScript.run { left := 6, outside := {} } = (.ok (), scene')) ∧
      Note.LetsGo (HoldingScript.run.added Practice.notes { left := 6, outside := {} }) ∧
      (HoldingScript.run.added Practice.notes { left := 6, outside := {} }).filterMap Note.touchStroke? =
        [.down, .along, .along, .up, .down, .up] := by
  have hrun : HoldingScript.run { left := 6, outside := {} } =
      (.ok (), (HoldingScript.run { left := 6, outside := {} }).2) := rfl
  have hnoted : HoldingScript.player.watch.Noted Practice.notes := Practice.noted ⟨320, 290⟩
  exact ⟨⟨_, hrun⟩, run_bracketed hnoted hrun, rfl⟩

end WatchTrial
