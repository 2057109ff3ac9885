import WatchTrial.Proofs.Frame.Companion
import WatchTrial.Proofs.Recording
/-!
# A log of automation

A handheld can keep a log, in which every use of an automator is entered with the bench before and after it.
Keeping the log changes nothing else: what is done with a handheld that logs is, without the log, what is done
with the handheld itself.
-/
namespace WatchTrial

section Seen

variable {ω ω' α β : Type} {view : ω' → ω}

/-- Seen through a view of the outside, the one act does what the other one does. -/
def Act.SeenAs (view : ω' → ω) (a' : Act ω' α) (a : Act ω α) : Prop :=
  ∀ o, a (view o) = ((a' o).1, view (a' o).2)

def Scene.seen (view : ω' → ω) (scene : Scene ω') : Scene ω :=
  ⟨scene.left, scene.cancelled, view scene.outside⟩

/-- A view keeps what pauses do, and whether the run is cancelled. -/
structure Sleeper.SeenAs (view : ω' → ω) [Sleeper ω'] [Sleeper ω] : Prop where
  slept : ∀ duration o, view (slept duration o) = slept duration (view o)
  cancels : ∀ o : ω', cancels (view o) = cancels o
  fault : ∀ o : ω', fault (view o) = fault o

namespace Act.SeenAs

theorem of_run {a' : Act ω' α} {a : Act ω α} (h : SeenAs view a' a) {o o' : ω'} {outcome : Except Fault α}
    (hrun : a' o = (outcome, o')) : a (view o) = (outcome, view o') := by
  rw [h o, hrun]

theorem pure (x : α) : SeenAs view (Pure.pure x) (Pure.pure x : Act ω α) := fun _ => rfl

theorem bind {a' : Act ω' α} {a : Act ω α} {f' : α → Act ω' β} {f : α → Act ω β} (ha : SeenAs view a' a)
    (hf : ∀ x, SeenAs view (f' x) (f x)) : SeenAs view (a' >>= f') (a >>= f) := by
  intro o
  rcases hrun : a' o with ⟨fault | x, o'⟩
  · rw [Act.bind_error hrun, Act.bind_error (ha.of_run hrun)]
  · rw [Act.bind_ok hrun, Act.bind_ok (ha.of_run hrun)]
    exact hf x o'

theorem retryOnce {a' : Act ω' α} {a : Act ω α} (ha : SeenAs view a' a) (doing : String) :
    SeenAs view (WatchTrial.retryOnce doing a') (WatchTrial.retryOnce doing a) := by
  intro o
  unfold WatchTrial.retryOnce
  rcases hrun : a' o with ⟨fault | x, o'⟩
  · rw [ha.of_run hrun]
    rcases hrun' : a' o' with ⟨fault' | x, o''⟩
    · simp only [ha.of_run hrun', hrun']
    · simp only [ha.of_run hrun', hrun']
  · rw [ha.of_run hrun]

theorem task {a' : Act ω' α} {a : Act ω α} (ha : SeenAs view a' a) : SeenAs (Scene.seen view) a'.task a.task := by
  intro scene
  have hrun := ha scene.outside
  unfold Act.task Scene.seen
  rw [hrun]

variable [Sleeper ω'] [Sleeper ω] (hview : Sleeper.SeenAs view)
include hview

theorem pause (duration : Int64) :
    SeenAs (Scene.seen view) (WatchTrial.pause duration) (WatchTrial.pause duration) := by
  intro scene
  unfold WatchTrial.pause Scene.seen
  simp only [← hview.slept, hview.cancels, hview.fault]
  split <;> rfl

theorem pollFrom {step' : Bool → Act ω' (Option α)} {step : Bool → Act ω (Option α)}
    (hstep : ∀ told, SeenAs view (step' told) (step told)) (duration : Int64) (left : Nat) (cancelled : Bool)
    (o : ω') : WatchTrial.pollFrom duration step left cancelled (view o) =
      ((WatchTrial.pollFrom duration step' left cancelled o).1,
        (WatchTrial.pollFrom duration step' left cancelled o).2.seen view) := by
  fun_induction WatchTrial.pollFrom duration step' left cancelled o with
  | case1 left cancelled o fault o' hrun =>
    rw [WatchTrial.pollFrom, hview.cancels, (hstep _).of_run hrun]
    rfl
  | case2 left cancelled o x o' hrun =>
    rw [WatchTrial.pollFrom, hview.cancels, (hstep _).of_run hrun]
    rfl
  | case3 cancelled o o' hrun slept left hgo ih =>
    rw [WatchTrial.pollFrom, hview.cancels, (hstep _).of_run hrun]
    have hgo' : (cancelled || Sleeper.cancels (Sleeper.slept duration o')) = false := hgo
    simp only [← hview.slept, hview.cancels]
    rw [hgo']
    exact ih
  | case4 cancelled o o' hrun slept left hstop =>
    rw [WatchTrial.pollFrom, hview.cancels, (hstep _).of_run hrun]
    simp only [← hview.slept, hview.cancels, hview.fault]
    split
    next hgo => exact (hstop _ rfl hgo).elim
    next => rfl

theorem poll {step' : Bool → Act ω' (Option α)} {step : Bool → Act ω (Option α)}
    (hstep : ∀ told, SeenAs view (step' told) (step told)) (duration : Int64) :
    SeenAs (Scene.seen view) (WatchTrial.poll duration step') (WatchTrial.poll duration step) :=
  fun scene => pollFrom hview hstep duration scene.left scene.cancelled scene.outside

end Act.SeenAs

namespace Handheld

/-- Seen through a view of the outside, the one handheld is the other. -/
structure SeenAs (view : ω' → ω) (h' : Handheld ω' α) (h : Handheld ω α) : Prop where
  pressKey : ∀ device key, Act.SeenAs view (h'.pressKey device key) (h.pressKey device key)
  launch : ∀ device component, Act.SeenAs view (h'.launch device component) (h.launch device component)
  open_ : ∀ device, Act.SeenAs view (h'.open_ device) (h.open_ device)
  isVisible : ∀ a s, Act.SeenAs view (h'.isVisible a s) (h.isVisible a s)
  click : ∀ a s, Act.SeenAs view (h'.click a s) (h.click a s)
  scrollToEnd : ∀ a s, Act.SeenAs view (h'.scrollToEnd a s) (h.scrollToEnd a s)
  scrollTo : ∀ a s s', Act.SeenAs view (h'.scrollTo a s s') (h.scrollTo a s s')
  quit : ∀ a, Act.SeenAs view (h'.quit a) (h.quit a)
  held : ∀ o, h.held (view o) = h'.held o
  hold : ∀ automators o, h.hold automators (view o) = view (h'.hold automators o)
  swipeAway : Act.SeenAs (Scene.seen view) h'.swipeAway h.swipeAway

namespace SeenAs

variable {h' : Handheld ω' α} {h : Handheld ω α} (hh : SeenAs view h' h)
include hh

theorem automator (device : String) : Act.SeenAs view (h'.automator device) (h.automator device) := by
  intro o
  cases hheld : (h'.held o).lookup device with
  | some a => rw [automator_held hheld, automator_held ((hh.held o).symm ▸ hheld)]
  | none =>
    have hheld' : (h.held (view o)).lookup device = none := (hh.held o).symm ▸ hheld
    rcases hopen : h'.open_ device o with ⟨fault | a, o'⟩
    · rw [automator_refused hheld hopen, automator_refused hheld' ((hh.open_ device).of_run hopen)]
    · rw [automator_opened hheld hopen, automator_opened hheld' ((hh.open_ device).of_run hopen), hh.held,
        hh.hold]

theorem orDrop (device : String) {a' : Act ω' β} {a : Act ω β} (ha : Act.SeenAs view a' a) :
    Act.SeenAs view (h'.orDrop device a') (h.orDrop device a) := by
  intro o
  unfold Handheld.orDrop
  rcases hrun : a' o with ⟨fault | x, o'⟩
  · rw [ha.of_run hrun]
    simp only [drop, hh.held, hh.hold]
    split <;> rfl
  · rw [ha.of_run hrun]

theorem automate (device doing : String) {f' : α → Act ω' β} {f : α → Act ω β}
    (hf : ∀ a, Act.SeenAs view (f' a) (f a)) :
    Act.SeenAs view (h'.automate device doing f') (h.automate device doing f) :=
  .retryOnce (.bind (hh.automator device) fun a => hh.orDrop device (hf a)) doing

theorem lookForList (device : String) : Act.SeenAs view (h'.lookForList device) (h.lookForList device) := by
  refine .bind (hh.automate device _ fun a => hh.isVisible a _) fun visible => ?_
  cases visible with
  | true => exact .pure _
  | false =>
    refine .bind (.retryOnce (hh.launch device _) _) fun _ => ?_
    exact .bind (hh.automate device _ fun a => hh.click a _) fun _ => .pure _

theorem pick (device label : String) : Act.SeenAs view (h'.pick device label) (h.pick device label) := by
  refine .bind (hh.automate device _ fun a => hh.scrollToEnd a _) fun _ => ?_
  refine .bind (hh.automate device _ fun a => hh.scrollTo a _ _) fun _ => ?_
  exact hh.automate device _ fun a => hh.click a _

theorem quitAll (automators : List (String × α)) (o : ω') :
    h.quitAll automators (view o) = ((h'.quitAll automators o).1, view (h'.quitAll automators o).2) := by
  induction automators generalizing o with
  | nil => rfl
  | cons entry rest ih =>
    unfold Handheld.quitAll
    rcases hrun : h'.quit entry.2 o with ⟨fault | x, o'⟩
    · simp only [(hh.quit entry.2).of_run hrun, ih o']
    · simp only [(hh.quit entry.2).of_run hrun, ih o']

theorem close : Act.SeenAs view h'.close h.close := by
  intro o
  unfold Handheld.close
  rw [hh.held, hh.quitAll]
  simp only [hh.hold]

variable [Sleeper ω'] [Sleeper ω] (hview : Sleeper.SeenAs view)
include hview

theorem select (timeouts : Timeouts) (device label : String) :
    Act.SeenAs (Scene.seen view) (h'.select timeouts device label) (h.select timeouts device label) := by
  refine .bind (.task (.retryOnce (hh.pressKey device _) _)) fun _ => ?_
  refine .bind (.poll hview (fun _ => hh.lookForList device) _) fun _ => ?_
  exact .task (hh.pick device _)

theorem deselect (timeouts : Timeouts) (device label : String) :
    Act.SeenAs (Scene.seen view) (h'.deselect timeouts device label) (h.deselect timeouts device label) := by
  refine .bind (.pause hview _) fun _ => ?_
  refine .bind hh.swipeAway fun _ => ?_
  refine .bind (.pause hview _) fun _ => ?_
  exact hh.select hview timeouts device _

end SeenAs

end Handheld

end Seen

inductive Automator.Use where
  /-- A session is opened. -/
  | opening
  | working
  /-- The session is ended. -/
  | quitting
deriving DecidableEq

/-- One use of an automator: for which handheld, what for, the bench before and after it, and the fault that
it ended in, if it failed. -/
structure Automator.Usage where
  device : String
  use : Use
  before : Bench
  fault : Option Fault
  after : Bench

/-- A bench with the uses of automators so far. -/
structure Logbook where
  usages : List Automator.Usage
  bench : Bench

instance : Sleeper Logbook where
  slept duration r := { r with bench := Sleeper.slept duration r.bench }
  cancels r := Sleeper.cancels r.bench
  fault r := Sleeper.fault r.bench

variable {α : Type}

def Act.logged (device : String) (use : Automator.Use) (a : Act Bench α) : Act Logbook α := fun r =>
  let done := a r.bench
  (done.1, ⟨r.usages ++ [⟨device, use, r.bench, faultOf done.1, done.2⟩], done.2⟩)

def Act.unlogged (a : Act Bench α) : Act Logbook α := fun r =>
  let done := a r.bench
  (done.1, { r with bench := done.2 })

def Task.unlogged (t : Task Bench α) : Task Logbook α := fun scene =>
  let done := t (scene.seen Logbook.bench)
  (done.1, ⟨done.2.left, done.2.cancelled, { scene.outside with bench := done.2.outside }⟩)

def Handheld.logged (h : Handheld Bench Automator) : Handheld Logbook Automator where
  pressKey device key := (h.pressKey device key).unlogged
  launch device component := (h.launch device component).unlogged
  open_ device := (h.open_ device).logged device .opening
  isVisible a s := (h.isVisible a s).logged a.handheld .working
  click a s := (h.click a s).logged a.handheld .working
  scrollToEnd a container := (h.scrollToEnd a container).logged a.handheld .working
  scrollTo a container target := (h.scrollTo a container target).logged a.handheld .working
  quit a := (h.quit a).logged a.handheld .quitting
  held r := h.held r.bench
  hold automators r := { r with bench := h.hold automators r.bench }
  swipeAway := h.swipeAway.unlogged

theorem Logbook.sleeper_seenAs : Sleeper.SeenAs Logbook.bench := ⟨fun _ _ => rfl, fun _ => rfl, fun _ => rfl⟩

/-- Without its log, a handheld that logs is the handheld. -/
theorem Handheld.logged_seenAs (h : Handheld Bench Automator) : SeenAs Logbook.bench h.logged h where
  pressKey _ _ _ := rfl
  launch _ _ _ := rfl
  open_ _ _ := rfl
  isVisible _ _ _ := rfl
  click _ _ _ := rfl
  scrollToEnd _ _ _ := rfl
  scrollTo _ _ _ _ := rfl
  quit _ _ := rfl
  held _ := rfl
  hold _ _ := rfl
  swipeAway _ := rfl

end WatchTrial
