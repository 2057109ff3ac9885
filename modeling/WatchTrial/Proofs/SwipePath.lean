import WatchTrial.Proofs.Decimals
import WatchTrial.Proofs.Undisturbed
/-!
# The path of a swipe

A swipe moves in equal whole steps. A step is the way from start to end, divided by the number of steps and cut
toward zero, so the moves go toward the end on each axis, stay on this side of it, and come closer to it than the
number of steps. As long as the whole way is a number of 64 bits, no number on the way leaves this range.
-/
namespace WatchTrial

variable {ω : Type}

theorem Fits64.bmod {n : Int} (h : Fits64 n) : n.bmod (2 ^ 64) = n := by
  obtain ⟨hmin, hmax⟩ := h
  rw [Int64.toInt_minValue] at hmin
  rw [Int64.toInt_maxValue] at hmax
  refine Int.bmod_eq_of_le ?_ ?_ <;> omega

private theorem Fits64.of_between {a b n : Int} (ha : Fits64 a) (hb : Fits64 b) (h : a ≤ n ∧ n ≤ b ∨ b ≤ n ∧ n ≤ a) :
    Fits64 n := by
  obtain ⟨hamin, hamax⟩ := ha
  obtain ⟨hbmin, hbmax⟩ := hb
  unfold Fits64
  omega

theorem toInt_div_of_pos (a : Int64) {b : Int64} (hb : 1 ≤ b) : (a / b).toInt = a.toInt.tdiv b.toInt := by
  refine Int64.toInt_div_of_ne_right a b ?_
  rintro rfl
  exact absurd hb (by decide)

section WholeSteps

variable {steps : Int} (hsteps : 0 < steps)
include hsteps

private theorem tdiv_steps {way : Int} (h : 0 ≤ way) :
    0 ≤ way.tdiv steps ∧ steps * way.tdiv steps ≤ way ∧ way < steps * way.tdiv steps + steps := by
  have hway := Int.mul_tdiv_add_tmod way steps
  have hrest := Int.tmod_nonneg steps h
  have hrest' := Int.tmod_lt_of_pos way hsteps
  refine ⟨Int.tdiv_nonneg h hsteps.le, ?_, ?_⟩ <;> omega

private theorem steps_rise {start stop : Int} (h : start ≤ stop) {i j : Nat} (hij : i ≤ j) (hj : j ≤ steps) :
    start ≤ start + i * (stop - start).tdiv steps ∧
      start + i * (stop - start).tdiv steps ≤ start + j * (stop - start).tdiv steps ∧
      start + j * (stop - start).tdiv steps ≤ stop := by
  obtain ⟨hgap, hend, -⟩ := tdiv_steps hsteps (Int.sub_nonneg_of_le h)
  have hzero : 0 ≤ i * (stop - start).tdiv steps := Int.mul_nonneg (Int.natCast_nonneg i) hgap
  have hmono := Int.mul_le_mul_of_nonneg_right (Int.ofNat_le.mpr hij) hgap
  have hlast := Int.mul_le_mul_of_nonneg_right hj hgap
  omega

private theorem steps_fall {start stop : Int} (h : stop ≤ start) {i j : Nat} (hij : i ≤ j) (hj : j ≤ steps) :
    stop ≤ start + j * (stop - start).tdiv steps ∧
      start + j * (stop - start).tdiv steps ≤ start + i * (stop - start).tdiv steps ∧
      start + i * (stop - start).tdiv steps ≤ start := by
  have hgap : (-stop - -start).tdiv steps = -(stop - start).tdiv steps := by
    rw [← Int.neg_tdiv]
    congr 1
    omega
  have hrise := steps_rise hsteps (Int.neg_le_neg h) hij hj
  rw [hgap, Int.mul_neg, Int.mul_neg] at hrise
  omega

private theorem steps_fit {start stop : Int} (hstart : Fits64 start) (hstop : Fits64 stop) {i : Nat} (hi : i ≤ steps) :
    Fits64 (start + i * (stop - start).tdiv steps) := by
  refine hstart.of_between hstop ?_
  rcases Int.le_total start stop with h | h
  · exact .inl ⟨(steps_rise hsteps h le_rfl hi).1, (steps_rise hsteps h le_rfl hi).2.2⟩
  · exact .inr ⟨(steps_fall hsteps h le_rfl hi).1, (steps_fall hsteps h le_rfl hi).2.2⟩

end WholeSteps

def Note.sleptTime : Note → Int
  | .slept duration => duration.toInt
  | _ => 0

def sleptTotal (notes : List Note) : Int := (notes.map Note.sleptTime).sum

private theorem sleptTotal_append (xs ys : List Note) : sleptTotal (xs ++ ys) = sleptTotal xs + sleptTotal ys := by
  rw [sleptTotal, List.map_append, List.sum_append]
  rfl

namespace Swipe

variable {s : Swipe} {axis : Point → Int64}

def place (s : Swipe) : Nat → Point
  | 0 => s.start
  | i + 1 => ⟨(s.place i).x + s.gap.x, (s.place i).y + s.gap.y⟩

/-- What is left on a watch that notes everything: the touch goes down, then moves and rests as often as there are
steps, and goes up at the end. -/
def course (s : Swipe) : List Note :=
  .input (.touch .down s.start.x s.start.y) ::
    ((List.range' 1 s.steps.toInt.toNat).flatMap (fun i =>
      [.input (.touch .move (s.place i).x (s.place i).y), .slept (s.duration / s.steps)]) ++
    [.input (.touch .up s.stop.x s.stop.y)])

/-- Along an axis the numbers of a swipe do not leave the range of 64 bits, and its moves go toward the end. -/
structure Straight (s : Swipe) (axis : Point → Int64) : Prop where
  way : (axis s.stop - axis s.start).toInt = (axis s.stop).toInt - (axis s.start).toInt
  gap : (axis s.gap).toInt = ((axis s.stop).toInt - (axis s.start).toInt).tdiv s.steps.toInt
  place : ∀ i : Nat, i ≤ s.steps.toInt →
    (axis (s.place i)).toInt = (axis s.start).toInt + i * (axis s.gap).toInt
  /-- From a lower start the moves never go back, and never past the end. -/
  rising : axis s.start ≤ axis s.stop → ∀ i j : Nat, i ≤ j → j ≤ s.steps.toInt →
    axis s.start ≤ axis (s.place i) ∧ axis (s.place i) ≤ axis (s.place j) ∧ axis (s.place j) ≤ axis s.stop
  /-- From a higher start it is the other way round. -/
  falling : axis s.stop ≤ axis s.start → ∀ i j : Nat, i ≤ j → j ≤ s.steps.toInt →
    axis s.stop ≤ axis (s.place j) ∧ axis (s.place j) ≤ axis (s.place i) ∧ axis (s.place i) ≤ axis s.start
  /-- The last move is short of the end by less than the number of steps. -/
  short : |(axis s.stop).toInt - (axis (s.place s.steps.toInt.toNat)).toInt| < s.steps.toInt

theorem problem?_eq_none_iff : s.problem? = none ↔ 1 ≤ s.steps ∧ 0 ≤ s.duration := by
  rw [← Int64.not_lt, ← Int64.not_lt]
  unfold problem?
  split
  next h => simp [h]
  next h =>
    split
    next h' => simp [h']
    next h' => simp [h, h']

private theorem axis_gap (haxis : axis ∈ [Point.x, Point.y]) :
    axis s.gap = (axis s.stop - axis s.start) / s.steps := by
  obtain rfl | rfl : axis = Point.x ∨ axis = Point.y := by simpa using haxis
  · rfl
  · rfl

private theorem axis_place_succ (haxis : axis ∈ [Point.x, Point.y]) (i : Nat) :
    axis (s.place (i + 1)) = axis (s.place i) + axis s.gap := by
  obtain rfl | rfl : axis = Point.x ∨ axis = Point.y := by simpa using haxis
  · rfl
  · rfl

section Axis

variable (haxis : axis ∈ [Point.x, Point.y]) (hsteps : 1 ≤ s.steps)
  (hfits : Fits64 ((axis s.stop).toInt - (axis s.start).toInt))
include hfits

private theorem toInt_way : (axis s.stop - axis s.start).toInt = (axis s.stop).toInt - (axis s.start).toInt := by
  rw [Int64.toInt_sub, hfits.bmod]

include haxis hsteps

private theorem toInt_gap :
    (axis s.gap).toInt = ((axis s.stop).toInt - (axis s.start).toInt).tdiv s.steps.toInt := by
  rw [axis_gap haxis, toInt_div_of_pos _ hsteps, toInt_way hfits]

private theorem toInt_place {i : Nat} (hi : i ≤ s.steps.toInt) :
    (axis (s.place i)).toInt = (axis s.start).toInt + i * (axis s.gap).toInt := by
  have hpos : 0 < s.steps.toInt := Int64.le_iff_toInt_le.mp hsteps
  induction i with
  | zero => simp [place]
  | succ i ih =>
    have hnext : (axis s.start).toInt + i * (axis s.gap).toInt + (axis s.gap).toInt =
        (axis s.start).toInt + (i + 1 : Nat) * (axis s.gap).toInt := by
      rw [Int.natCast_add, Int.add_mul, Int.add_assoc]
      simp
    -- the next place lies between the two ends, so it is in range
    have hfit := steps_fit hpos (.toInt (axis s.start)) (.toInt (axis s.stop)) hi
    rw [← toInt_gap haxis hsteps hfits] at hfit
    rw [axis_place_succ haxis, Int64.toInt_add, ih (by omega), hnext, hfit.bmod]

private theorem toInt_left : (axis s.stop).toInt - (axis (s.place s.steps.toInt.toNat)).toInt =
    ((axis s.stop).toInt - (axis s.start).toInt).tmod s.steps.toInt := by
  have hpos : 0 < s.steps.toInt := Int64.le_iff_toInt_le.mp hsteps
  have hlast : ((s.steps.toInt.toNat : Nat) : Int) = s.steps.toInt := Int.toNat_of_nonneg hpos.le
  have hdivided := Int.mul_tdiv_add_tmod ((axis s.stop).toInt - (axis s.start).toInt) s.steps.toInt
  rw [toInt_place haxis hsteps hfits hlast.le, hlast, toInt_gap haxis hsteps hfits]
  omega

theorem straight : s.Straight axis := by
  have hpos : 0 < s.steps.toInt := Int64.le_iff_toInt_le.mp hsteps
  have hgap := toInt_gap haxis hsteps hfits
  have hplace (i : Nat) (hi : i ≤ s.steps.toInt) := toInt_place haxis hsteps hfits hi
  refine ⟨toInt_way hfits, hgap, hplace, fun h i j hij hj => ?_, fun h i j hij hj => ?_, ?_⟩
  · have hrise := steps_rise hpos (Int64.le_iff_toInt_le.mp h) hij hj
    rw [← hgap, ← hplace i (by omega), ← hplace j hj] at hrise
    simpa only [Int64.le_iff_toInt_le] using hrise
  · have hfall := steps_fall hpos (Int64.le_iff_toInt_le.mp h) hij hj
    rw [← hgap, ← hplace i (by omega), ← hplace j hj] at hfall
    simpa only [Int64.le_iff_toInt_le] using hfall
  · rw [toInt_left haxis hsteps hfits, abs_lt]
    exact ⟨Int.lt_tmod_of_pos _ hpos, Int.tmod_lt_of_pos _ hpos⟩

end Axis

private theorem sleptTotal_moves (places : Nat → Point) (d : Int64) (first steps : Nat) :
    sleptTotal ((List.range' first steps).flatMap fun i =>
      [.input (.touch .move (places i).x (places i).y), .slept d]) = steps * d.toInt := by
  induction steps generalizing first with
  | zero => simp [sleptTotal]
  | succ steps ih =>
    rw [List.range'_succ, List.flatMap_cons, sleptTotal_append, ih]
    simp [sleptTotal, Note.sleptTime, Int.add_mul, Int.add_comm]

private theorem sleptTotal_course (hsteps : 1 ≤ s.steps) :
    sleptTotal s.course = s.steps.toInt * (s.duration / s.steps).toInt := by
  have hpos : 0 < s.steps.toInt := Int64.le_iff_toInt_le.mp hsteps
  have hcount : ((s.steps.toInt.toNat : Nat) : Int) = s.steps.toInt := Int.toNat_of_nonneg hpos.le
  rw [course, ← List.singleton_append, sleptTotal_append, sleptTotal_append, sleptTotal_moves, hcount]
  simp [sleptTotal, Note.sleptTime]

end Swipe

/-- When the task ends well it has left these notes. -/
def Task.Leaves (notes : ω → List Note) (left : List Note) (t : Task ω Unit) : Prop :=
  ∀ scene scene', t scene = (.ok (), scene') → notes scene'.outside = notes scene.outside ++ left

namespace Task.Leaves

variable {notes : ω → List Note} {left left' : List Note} {t t' : Task ω Unit}

theorem pure : Leaves notes [] (Pure.pure ()) := by
  intro scene scene' hrun
  cases hrun
  rw [List.append_nil]

theorem bind (ht : t.Leaves notes left) (ht' : t'.Leaves notes left') :
    (t >>= fun _ => t').Leaves notes (left ++ left') := by
  intro scene scene'' hrun
  obtain ⟨_, scene', hfirst, hsecond⟩ := Act.of_bind_ok hrun
  rw [ht' scene' scene'' hsecond, ht scene scene' hfirst, List.append_assoc]

end Task.Leaves

/-- The outside notes every input that the watch is sent, whether it takes it or not, and every pause. -/
structure Watch.Noted [Sleeper ω] (watch : Watch ω) (notes : ω → List Note) : Prop where
  send : ∀ i scene, notes (watch.send i scene).2.outside = notes scene.outside ++ [.input i]
  slept : ∀ d o, notes (Sleeper.slept d o) = notes o ++ [.slept d]

namespace Watch.Noted

variable [Sleeper ω] {notes : ω → List Note} {p : Player ω} (hnoted : p.watch.Noted notes)
include hnoted

theorem input (i : Input) : Task.Leaves notes [.input i] (p.make (.input i)) := by
  intro scene scene' hrun
  rw [← hnoted.send]
  exact congrArg (fun run => notes run.2.outside) hrun.symm

theorem pause (d : Int64) : Task.Leaves notes [.slept d] (p.make (.pause d)) := by
  intro scene scene' hrun
  rw [← hnoted.slept, ← pause_outside]
  exact congrArg (fun run => notes run.2.outside) hrun.symm

theorem glide (s : Swipe) (steps i : Nat) :
    Task.Leaves notes ((List.range' (i + 1) steps).flatMap fun i =>
        [.input (.touch .move (s.place i).x (s.place i).y), .slept (s.duration / s.steps)])
      (p.glide s.gap (s.duration / s.steps) steps (s.place i)) := by
  induction steps generalizing i with
  | zero => exact .pure
  | succ steps ih =>
    rw [List.range'_succ, List.flatMap_cons]
    have hmove := Task.Leaves.bind (hnoted.input (.touch .move (s.place (i + 1)).x (s.place (i + 1)).y))
      (.bind (hnoted.pause (s.duration / s.steps)) (ih (i + 1)))
    exact hmove

theorem swipe {s : Swipe} (h : s.problem? = none) : Task.Leaves notes s.course (p.swipe s) := by
  unfold Player.swipe
  rw [h]
  exact .bind (hnoted.input _) (.bind (hnoted.glide s _ 0) (hnoted.input _))

end Watch.Noted

/-- A swipe that can be played, on a watch and with a clock that do not fail, goes down at its start, moves and rests as
often as it has steps, and goes up at its end. If the way from start to end is a number of 64 bits on each axis, the
moves are in equal steps that go straight toward the end, and the rests together take the duration, less than one
nanosecond for each step apart. A swipe that cannot be played leaves everything as it was. -/
theorem Player.swipe_path [Sleeper ω] (p : Player ω) (s : Swipe) :
    (∀ Calm notes, p.watch.Undisturbed Calm → p.watch.Noted notes → s.problem? = none →
      (∀ axis ∈ [Point.x, Point.y], Fits64 ((axis s.stop).toInt - (axis s.start).toInt)) →
      (∀ scene, scene.Steady Calm s.steps.toInt.toNat →
        ∃ scene', p.swipe s scene = (.ok (), scene') ∧
          notes scene'.outside = notes scene.outside ++ s.course) ∧
      (∀ axis ∈ [Point.x, Point.y], s.Straight axis) ∧
      (s.duration / s.steps).toInt = s.duration.toInt.tdiv s.steps.toInt ∧
      sleptTotal s.course ≤ s.duration.toInt ∧ s.duration.toInt < sleptTotal s.course + s.steps.toInt) ∧
    (∀ problem, s.problem? = some problem →
      ∀ scene, p.swipe s scene = (.error (.plain problem.message), scene)) := by
  refine ⟨fun Calm notes hwatch hnoted hproblem hfits => ?_, fun problem hproblem scene => ?_⟩
  · obtain ⟨hsteps, hduration⟩ := Swipe.problem?_eq_none_iff.mp hproblem
    have hrest := toInt_div_of_pos s.duration hsteps
    obtain ⟨-, hrests⟩ := tdiv_steps (Int64.le_iff_toInt_le.mp hsteps) (Int64.le_iff_toInt_le.mp hduration)
    rw [← hrest, ← Swipe.sleptTotal_course hsteps] at hrests
    refine ⟨fun scene hscene => ?_, fun axis haxis => Swipe.straight haxis hsteps (hfits axis haxis), hrest, hrests⟩
    obtain ⟨-, hplayed⟩ := hwatch.swipe s hsteps scene 0 hscene
    obtain ⟨scene', hrun, -⟩ := hplayed (Int64.not_lt.mpr hduration)
    exact ⟨scene', hrun, hnoted.swipe hproblem scene scene' hrun⟩
  · unfold swipe
    rw [hproblem]
    rfl

theorem Practice.noted (size : DisplaySize) : (watch size).Noted Practice.notes where
  send i scene := by
    change (take i scene.outside).2.notes = _
    unfold take
    simp only
    split <;> rfl
  slept _ _ := rfl

/-! A swipe down and to the left, whose steps do not divide the way. -/
namespace SlantedSwipe

def swipe : Swipe := ⟨⟨270, 145⟩, ⟨50, 200⟩, 100, 3⟩

def player : Player Practice := ⟨Practice.watch ⟨320, 290⟩, {}⟩

end SlantedSwipe

theorem Player.swipe_path_slanted :
    SlantedSwipe.swipe.problem? = none ∧
    (∃ scene', SlantedSwipe.player.swipe SlantedSwipe.swipe { left := 3, outside := {} } = (.ok (), scene') ∧
      scene'.outside.notes = SlantedSwipe.swipe.course) ∧
    (∀ axis ∈ [Point.x, Point.y], SlantedSwipe.swipe.Straight axis) ∧
    SlantedSwipe.swipe.course =
      [.input (.touch .down 270 145), .input (.touch .move 197 163), .slept 33, .input (.touch .move 124 181),
        .slept 33, .input (.touch .move 51 199), .slept 33, .input (.touch .up 50 200)] := by
  have hproblem : SlantedSwipe.swipe.problem? = none := by decide
  have hfits : ∀ axis ∈ [Point.x, Point.y],
      Fits64 ((axis SlantedSwipe.swipe.stop).toInt - (axis SlantedSwipe.swipe.start).toInt) := by
    simp only [List.forall_mem_cons]
    exact ⟨by decide, by decide, by simp⟩
  obtain ⟨hrun, hstraight, -⟩ := (Player.swipe_path SlantedSwipe.player SlantedSwipe.swipe).1 _ _
    (Practice.undisturbed ⟨320, 290⟩) (Practice.noted ⟨320, 290⟩) hproblem hfits
  exact ⟨hproblem, hrun _ ⟨rfl, by decide, rfl⟩, hstraight, by decide +kernel⟩

end WatchTrial
