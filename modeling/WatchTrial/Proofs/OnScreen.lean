import WatchTrial.Proofs.PlayedScript
/-!
# Gestures on small displays

The standard gestures keep fixed distances to the edges of the display and to its middle. A swipe stays between its
ends, so only these count: on a display that is too narrow or too low some of them are off it, on every other all
touches are on it.
-/
namespace WatchTrial

variable {ω : Type}

/-- The place is on the display. -/
def DisplaySize.Shows (size : DisplaySize) (place : Point) : Prop :=
  (0 ≤ place.x ∧ place.x < size.width) ∧ (0 ≤ place.y ∧ place.y < size.height)

def Note.touched? : Note → Option Point
  | input (.touch _ x y) => some ⟨x, y⟩
  | _ => none

def DisplaySize.ShowsAll (size : DisplaySize) (journal : List Note) : Prop :=
  ∀ place ∈ journal.filterMap Note.touched?, size.Shows place

private theorem Fits64.sub_of_nonneg {a b : Int64} (ha : 0 ≤ a) (hb : 0 ≤ b) : Fits64 (a.toInt - b.toInt) := by
  have ha : 0 ≤ a.toInt := Int64.le_iff_toInt_le.mp ha
  have hb : 0 ≤ b.toInt := Int64.le_iff_toInt_le.mp hb
  have hamax := a.toInt_lt
  have hbmax := b.toInt_lt
  rw [Fits64, Int64.toInt_minValue, Int64.toInt_maxValue]
  omega

namespace Swipe

variable {s : Swipe} {size : DisplaySize}

private theorem place_between {axis : Point → Int64} (haxis : axis ∈ [Point.x, Point.y]) (hsteps : 1 ≤ s.steps)
    {bound : Int64} (hstart : 0 ≤ axis s.start ∧ axis s.start < bound)
    (hstop : 0 ≤ axis s.stop ∧ axis s.stop < bound) {i : Nat} (hi : i ≤ s.steps.toInt) :
    0 ≤ axis (s.place i) ∧ axis (s.place i) < bound := by
  have hfits := Fits64.sub_of_nonneg hstop.1 hstart.1
  have hstraight := straight haxis hsteps hfits
  rcases Int64.le_total (axis s.start) (axis s.stop) with h | h
  · obtain ⟨hlow, -, hhigh⟩ := hstraight.rising h i i le_rfl hi
    exact ⟨Int64.le_trans hstart.1 hlow, Int64.lt_of_le_of_lt hhigh hstop.2⟩
  · obtain ⟨hlow, -, hhigh⟩ := hstraight.falling h i i le_rfl hi
    exact ⟨Int64.le_trans hstop.1 hlow, Int64.lt_of_le_of_lt hhigh hstart.2⟩

private theorem touched_course (s : Swipe) :
    s.course.filterMap Note.touched? =
      s.start :: ((List.range' 1 s.steps.toInt.toNat).map s.place ++ [s.stop]) := by
  have hmove (i : Nat) : [Note.input (.touch .move (s.place i).x (s.place i).y),
      .slept (s.duration / s.steps)].filterMap Note.touched? = [s.place i] := rfl
  simp only [course, List.filterMap_cons, List.filterMap_append, List.filterMap_flatMap, hmove,
    ← List.map_eq_flatMap, List.filterMap_nil, Note.touched?]

private theorem showsAll_course_iff (hsteps : 1 ≤ s.steps) :
    size.ShowsAll s.course ↔ size.Shows s.start ∧ size.Shows s.stop := by
  rw [DisplaySize.ShowsAll, touched_course]
  constructor
  · intro h
    exact ⟨h s.start (by simp), h s.stop (by simp)⟩
  · rintro ⟨hstart, hstop⟩ place hplace
    simp only [List.mem_cons, List.mem_append, List.mem_map, List.mem_range'_1, List.not_mem_nil, or_false] at hplace
    rcases hplace with rfl | ⟨i, ⟨-, hi⟩, rfl⟩ | rfl
    · exact hstart
    · have hpos : 0 < s.steps.toInt := Int64.le_iff_toInt_le.mp hsteps
      have hi : (i : Int) ≤ s.steps.toInt := by omega
      exact ⟨place_between (by simp) hsteps hstart.1 hstop.1 hi, place_between (by simp) hsteps hstart.2 hstop.2 hi⟩
    · exact hstop

end Swipe

section Places

variable {n : Int64} (h : 0 < n)
include h

private theorem toInt_half : (n / 2).toInt = n.toInt / 2 := by
  rw [toInt_div_of_pos n (by decide)]
  exact Int.tdiv_eq_ediv_of_nonneg (Int64.le_iff_toInt_le.mp (Int64.le_of_lt h))

private theorem toInt_half_add : (n / 2 + 50).toInt = n.toInt / 2 + 50 := by
  have hpos : 0 < n.toInt := Int64.lt_iff_toInt_lt.mp h
  have hmax := n.toInt_lt
  have hfits : Fits64 (n.toInt / 2 + 50) := by
    rw [Fits64, Int64.toInt_minValue, Int64.toInt_maxValue]
    omega
  rw [Int64.toInt_add, toInt_half h]
  exact hfits.bmod

private theorem toInt_sub_margin {margin : Int64} (hmargin : 0 ≤ margin) :
    (n - margin).toInt = n.toInt - margin.toInt := by
  rw [Int64.toInt_sub, (Fits64.sub_of_nonneg (Int64.le_of_lt h) hmargin).bmod]

end Places

/-- The places that decide whether a piece of a gesture is on the display. -/
def Motion.ends : Motion → List Point
  | move (.input (.touch _ x y)) => [⟨x, y⟩]
  | move _ => []
  | swipe s => [s.start, s.stop]

section Pieces

variable {size : DisplaySize}

private theorem DisplaySize.showsAll_append_iff {xs ys : List Note} :
    size.ShowsAll (xs ++ ys) ↔ size.ShowsAll xs ∧ size.ShowsAll ys := by
  simp only [ShowsAll, List.filterMap_append, List.forall_mem_append]

private theorem Motion.showsAll_iff {piece : Motion} (h : Move.outcome piece.moves = .ok ()) :
    size.ShowsAll (Move.journal piece.moves) ↔ ∀ place ∈ piece.ends, size.Shows place := by
  cases piece with
  | move m =>
    cases m with
    | input i => cases i <;> rfl
    | pause d => rfl
    | refuse why => cases h
  | swipe s =>
    have hplayable := Swipe.outcome_moves_ok_iff.mp h
    have hsteps := (Swipe.problem?_eq_none_iff.mp hplayable).1
    simp only [moves, ends, Swipe.journal_moves hplayable, Swipe.showsAll_course_iff hsteps, List.forall_mem_cons,
      List.not_mem_nil, false_imp_iff, implies_true, and_true]

private theorem showsAll_pieces_iff {pieces : List Motion} (h : ∀ piece ∈ pieces, Move.outcome piece.moves = .ok ()) :
    size.ShowsAll (Move.journal (pieces.flatMap Motion.moves)) ↔
      ∀ piece ∈ pieces, ∀ place ∈ piece.ends, size.Shows place := by
  induction pieces with
  | nil => simp [Move.journal, DisplaySize.ShowsAll]
  | cons piece rest ih =>
    obtain ⟨hpiece, hrest⟩ := List.forall_mem_cons.mp h
    rw [List.flatMap_cons, Move.journal_append hpiece, DisplaySize.showsAll_append_iff, Motion.showsAll_iff hpiece,
      ih hrest, List.forall_mem_cons]

end Pieces

namespace Gesture

variable {t : Timeouts} {size : DisplaySize}

private theorem outcome_piece (hsteps : 1 ≤ t.swipeSteps) (hduration : 0 ≤ t.swipeDuration) {g : Gesture}
    {piece : Motion} (h : piece ∈ g.motions t size) : Move.outcome piece.moves = .ok () := by
  have hswipe (start stop : Point) : Move.outcome (Gesture.swipe t start stop).moves = .ok () :=
    Swipe.outcome_moves_ok_iff.mpr (Swipe.problem?_eq_none_iff.mpr ⟨hsteps, hduration⟩)
  cases g <;> simp only [motions, List.mem_cons, List.not_mem_nil, or_false] at h
  case swipeRight | swipeLeft => rw [h, hswipe]
  case swipeUp | swipeDown =>
    rcases h with rfl | rfl
    · exact hswipe _ _
    · rfl
  case standby | tapCenter | wake =>
    rw [h]
    rfl
  case pressSideButton => rcases h with rfl | rfl <;> rfl
  case holdSideButton | holdCenter => rcases h with rfl | rfl | rfl <;> rfl

private theorem ends_shown_iff (hwidth : 0 < size.width) (hheight : 0 < size.height) :
    (∀ g : Gesture, ∀ piece ∈ g.motions t size, ∀ place ∈ piece.ends, size.Shows place) ↔
      51 ≤ size.width ∧ 101 ≤ size.height := by
  have hpos : 0 < size.width.toInt := Int64.lt_iff_toInt_lt.mp hwidth
  have hpos' : 0 < size.height.toInt := Int64.lt_iff_toInt_lt.mp hheight
  have hshows (x y : Int64) : size.Shows ⟨x, y⟩ ↔
      (0 ≤ x.toInt ∧ x.toInt < size.width.toInt) ∧ 0 ≤ y.toInt ∧ y.toInt < size.height.toInt := by
    simp only [DisplaySize.Shows, Int64.le_iff_toInt_le, Int64.lt_iff_toInt_lt, Int64.toInt_zero]
  have hfifty : (50 : Int64).toInt = 50 := rfl
  constructor
  · intro h
    -- the start of a swipe to the right, and the end of a swipe down
    have hright := h .swipeRight _ List.mem_cons_self ⟨50, size.height / 2⟩ List.mem_cons_self
    have hdown := h .swipeDown _ List.mem_cons_self ⟨size.width / 2, size.height / 2 + 50⟩
      (List.mem_cons_of_mem _ List.mem_cons_self)
    rw [hshows, hfifty] at hright
    rw [hshows, toInt_half_add hheight] at hdown
    exact ⟨Int64.le_iff_toInt_le.mpr hright.1.2, Int64.le_iff_toInt_le.mpr (show 101 ≤ size.height.toInt by omega)⟩
  · rintro ⟨hw, hh⟩ g
    have hw : 51 ≤ size.width.toInt := Int64.le_iff_toInt_le.mp hw
    have hh : 101 ≤ size.height.toInt := Int64.le_iff_toInt_le.mp hh
    have hw25 : (size.width - 25).toInt = size.width.toInt - 25 := toInt_sub_margin hwidth (by decide)
    have hw50 : (size.width - 50).toInt = size.width.toInt - 50 := toInt_sub_margin hwidth (by decide)
    have hh10 : (size.height - 10).toInt = size.height.toInt - 10 := toInt_sub_margin hheight (by decide)
    cases g <;> simp only [motions, Gesture.swipe, rest, touch, side, Motion.ends, List.forall_mem_cons,
      List.not_mem_nil, false_imp_iff, implies_true, and_true, true_and, hshows, hfifty, hw25, hw50, hh10,
      toInt_half hwidth, toInt_half hheight, toInt_half_add hheight, Int64.toInt_zero] <;> omega

private theorem showsAll_moves_iff (hsteps : 1 ≤ t.swipeSteps) (hduration : 0 ≤ t.swipeDuration) (g : Gesture) :
    size.ShowsAll (Move.journal (g.moves t size)) ↔
      ∀ piece ∈ g.motions t size, ∀ place ∈ piece.ends, size.Shows place :=
  showsAll_pieces_iff fun _ => outcome_piece hsteps hduration

end Gesture

/-- With a watch and a clock that do not fail, all touches of all standard gestures are on the display exactly when this
is 51 pixels wide and 101 high, or more. -/
theorem Registry.touches_on_display_iff [Sleeper ω] {p : Player ω} {notes : ω → List Note} {Calm : ω → Prop}
    (hnoted : p.watch.Noted notes) (hwatch : p.watch.Undisturbed Calm) (hwidth : 0 < p.watch.size.width)
    (hheight : 0 < p.watch.size.height) (hsteps : 1 ≤ p.timeouts.swipeSteps)
    (hduration : 0 ≤ p.timeouts.swipeDuration) {scene : Scene ω}
    (hscene : scene.Steady Calm (p.timeouts.swipeSteps.toInt.toNat + 1)) :
    (∀ name, (standard : Registry ω).supports name = true →
      p.watch.size.ShowsAll (((standard : Registry ω).execute p name).added notes scene)) ↔
      51 ≤ p.watch.size.width ∧ 101 ≤ p.watch.size.height := by
  have hgesture (g : Gesture) :
      p.watch.size.ShowsAll (((standard : Registry ω).execute p g.name).added notes scene) ↔
        ∀ piece ∈ g.motions p.timeouts p.watch.size, ∀ place ∈ piece.ends, p.watch.size.Shows place := by
    rw [added_execute hnoted hwatch hscene g, Gesture.showsAll_moves_iff hsteps hduration]
  rw [← Gesture.ends_shown_iff (t := p.timeouts) hwidth hheight]
  constructor
  · intro h g
    exact (hgesture g).mp (h g.name (standard_supports g))
  · intro h name hname
    obtain ⟨g, rfl, -⟩ := standard_execute hname
    exact (hgesture g).mpr (h g)

/-! The smallest display on which all touches are, and one that is a pixel lower. -/
namespace SmallDisplay

def player (height : Int64) : Player Practice :=
  ⟨Practice.watch ⟨51, height⟩, { swipeSteps := 2, swipeDuration := 10 }⟩

end SmallDisplay

theorem Registry.touches_on_display_iff_smallest :
    (∀ name, (standard : Registry Practice).supports name = true →
      (⟨51, 101⟩ : DisplaySize).ShowsAll (((standard : Registry Practice).execute (SmallDisplay.player 101) name).added
        Practice.notes { left := 3, outside := {} })) ∧
    ¬ (∀ name, (standard : Registry Practice).supports name = true →
      (⟨51, 100⟩ : DisplaySize).ShowsAll (((standard : Registry Practice).execute (SmallDisplay.player 100) name).added
        Practice.notes { left := 3, outside := {} })) := by
  have hnoted (height : Int64) : (SmallDisplay.player height).watch.Noted Practice.notes :=
    Practice.noted ⟨51, height⟩
  have hwatch (height : Int64) : (SmallDisplay.player height).watch.Undisturbed fun p => p.failAt = none :=
    Practice.undisturbed ⟨51, height⟩
  have hscene : ({ left := 3, outside := {} } : Scene Practice).Steady (fun p => p.failAt = none) 3 :=
    ⟨rfl, Nat.le_refl 3, rfl⟩
  constructor
  · exact (touches_on_display_iff (hnoted 101) (hwatch 101) (by decide) (by decide) (by decide) (by decide)
      hscene).mpr (by decide)
  · intro h
    have hsize := (touches_on_display_iff (hnoted 100) (hwatch 100) (by decide) (by decide) (by decide) (by decide)
      hscene).mp h
    exact absurd hsize.2 (by decide)

end WatchTrial
