import WatchTrial.Companion.Bench
import WatchTrial.Proofs.Frame.Device
/-!
# What picking a watch face does

Picking a watch face has every property that its parts have and that compositions inherit. At the bench an
automator only sends requests. In particular picking stays within every relation that its keys, launches,
requests and pauses stay within.
-/
namespace WatchTrial

namespace Automator

section Chained

variable {P : (α : Type) → Act Bench α → Prop} (hP : Act.Chained P) {w : World} {a : Automator}
include hP

private theorem query_of {α : Type} {server path : String} {body : Json} {read : String → Option α}
    (hask : P _ (ask w server "POST" path (some body))) : P α (query w server path body read) := by
  refine hP.bind hask fun text => ?_
  split
  · exact hP.pure _
  · exact hP.refuse _

theorem start_of (hask : P _ (ask w a.server "POST" "/session" (some (capabilities a.handheld)))) :
    P _ (a.start w) := by
  refine hP.bind (query_of hP hask) fun session => ?_
  split
  · exact hP.refuse _
  · exact hP.pure _

-- an automator asks under the path of its session only
variable (hask : ∀ method suffix body, P _ (ask w a.server method (a.path suffix) body))
include hask

private theorem first_of (expression : String) : P _ (a.first w expression) := by
  refine hP.bind (query_of hP (hask ..)) fun found => ?_
  split
  · exact hP.pure _
  · exact hP.refuse _

theorem isVisible_of (s : Selector) : P _ (a.isVisible w s) :=
  hP.bind (query_of hP (hask ..)) fun _ => hP.pure _

theorem click_of (s : Selector) : P _ (a.click w s) :=
  hP.bind (first_of hP hask _) fun _ => hP.bind (hask ..) fun _ => hP.pure _

private theorem scrollDown_of (element : String) (left : Nat) : P _ (a.scrollDown w element left) := by
  induction left with
  | zero => exact hP.pure _
  | succ left ih =>
    refine hP.bind (query_of hP (hask ..)) fun more => ?_
    split
    · exact ih
    · exact hP.pure _

theorem scrollToEnd_of (container : Selector) : P _ (a.scrollToEnd w container) :=
  hP.bind (first_of hP hask _) fun element => scrollDown_of hP hask element _

theorem scrollTo_of (container target : Selector) : P _ (a.scrollTo w container target) :=
  hP.bind (first_of hP hask _) fun _ => hP.pure _

theorem quit_of : P _ (a.quit w) := by
  unfold quit
  split
  · exact hP.pure _
  · exact hP.bind (hask ..) fun _ => hP.pure _

end Chained

private theorem ask_within {R : Bench → Bench → Prop} [IsPreorder Bench R] {w : World}
    (h : ∀ r b, R b (b.request w r).2) (server method path : String) (body : Option Json) :
    (ask w server method path body).Within R := by
  unfold ask
  split
  · exact .throw _
  · refine .bind (.of fun b => h _ b) fun response => ?_
    exact .lift _

end Automator

namespace Handheld

variable {ω α : Type}

section Automator

variable {h : Handheld ω α} {device : String} {a : α} {o o' : ω}

theorem automator_held (hheld : (h.held o).lookup device = some a) : h.automator device o = (.ok a, o) := by
  unfold automator
  rw [Act.bind_ok (Act.get_apply o), hheld]
  rfl

theorem automator_opened (hheld : (h.held o).lookup device = none) (hopen : h.open_ device o = (.ok a, o')) :
    h.automator device o = (.ok a, h.hold ((device, a) :: h.held o') o') := by
  unfold automator
  rw [Act.bind_ok (Act.get_apply o), hheld]
  exact Act.bind_ok hopen _

theorem automator_refused {fault : Fault} (hheld : (h.held o).lookup device = none)
    (hopen : h.open_ device o = (.error fault, o')) : h.automator device o = (.error fault, o') := by
  unfold automator
  rw [Act.bind_ok (Act.get_apply o), hheld]
  exact Act.bind_error hopen _

end Automator

/-- Every step of picking has a property, the use of an automator with what surrounds it. -/
structure Tried (P : (β : Type) → Act ω β → Prop) (h : Handheld ω α) : Prop where
  pressKey : ∀ device key, P _ (h.pressKey device key)
  launch : ∀ device component, P _ (h.launch device component)
  look : ∀ device doing s, P _ (h.automate device doing (h.isVisible · s))
  click : ∀ device doing s, P _ (h.automate device doing (h.click · s))
  scrollToEnd : ∀ device doing s, P _ (h.automate device doing (h.scrollToEnd · s))
  scrollTo : ∀ device doing s s', P _ (h.automate device doing (h.scrollTo · s s'))

namespace Tried

variable {P : (β : Type) → Act ω β → Prop} (hP : Act.Compositional P) {h : Handheld ω α} (hh : h.Tried P)
include hP hh

theorem lookForList (device : String) : P _ (h.lookForList device) := by
  refine hP.bind (hh.look device _ _) fun visible => ?_
  split
  · exact hP.pure _
  · refine hP.bind (hP.retryOnce _ (hh.launch device _)) fun _ => ?_
    exact hP.bind (hh.click device _ _) fun _ => hP.pure _

theorem pick (device label : String) : P _ (h.pick device label) := by
  refine hP.bind (hh.scrollToEnd device _ _) fun _ => ?_
  exact hP.bind (hh.scrollTo device _ _ _) fun _ => hh.click device _ _

end Tried

/-- Everything that picking is made of, apart from the swipe on the watch, has a property. -/
structure MadeOf (P : (β : Type) → Act ω β → Prop) (h : Handheld ω α) : Prop where
  pressKey : ∀ device key, P _ (h.pressKey device key)
  launch : ∀ device component, P _ (h.launch device component)
  open_ : ∀ device, P _ (h.open_ device)
  isVisible : ∀ a s, P _ (h.isVisible a s)
  click : ∀ a s, P _ (h.click a s)
  scrollToEnd : ∀ a s, P _ (h.scrollToEnd a s)
  scrollTo : ∀ a s s', P _ (h.scrollTo a s s')
  keep : ∀ device a, P _ (modify fun o => h.hold ((device, a) :: h.held o) o)
  orDrop : ∀ device {β : Type} {a : Act ω β}, P β a → P β (h.orDrop device a)

namespace MadeOf

variable {P : (β : Type) → Act ω β → Prop} (hP : Act.Compositional P) {h : Handheld ω α} (hh : h.MadeOf P)
include hP hh

theorem automator (device : String) : P _ (h.automator device) := by
  refine hP.bind hP.get fun o => ?_
  split
  · exact hP.pure _
  · refine hP.bind (hh.open_ device) fun a => ?_
    exact hP.bind (hh.keep device a) fun _ => hP.pure _

theorem automate {β : Type} (device doing : String) {f : α → Act ω β} (hf : ∀ a, P β (f a)) :
    P β (h.automate device doing f) :=
  hP.retryOnce doing (hP.bind (hh.automator hP device) fun a => hh.orDrop device (hf a))

theorem tried : h.Tried P where
  pressKey := hh.pressKey
  launch := hh.launch
  look device doing s := hh.automate hP device doing fun a => hh.isVisible a s
  click device doing s := hh.automate hP device doing fun a => hh.click a s
  scrollToEnd device doing s := hh.automate hP device doing fun a => hh.scrollToEnd a s
  scrollTo device doing s s' := hh.automate hP device doing fun a => hh.scrollTo a s s'

theorem lookForList (device : String) : P _ (h.lookForList device) := (hh.tried hP).lookForList hP device

theorem pick (device label : String) : P _ (h.pick device label) := (hh.tried hP).pick hP device label

end MadeOf

section Within

variable {R : ω → ω → Prop} [IsPreorder ω R] [Sleeper ω] {h : Handheld ω α}
  (hh : h.MadeOf fun _ a => a.Within R) (hslept : ∀ d o, R o (Sleeper.slept d o))

omit [Sleeper ω] in
private theorem orDrop_within (hhold : ∀ held o, R o (h.hold held o)) (device : String) {β : Type} {a : Act ω β}
    (ha : a.Within R) : (h.orDrop device a).Within R := by
  intro o
  unfold Handheld.orDrop
  split
  next b o' hrun => exact ha.of_run hrun
  next fault o' hrun =>
    simp only
    split
    · exact trans_of R (ha.of_run hrun) (hhold _ o')
    · exact ha.of_run hrun

include hh hslept

theorem select_within (timeouts : Timeouts) (device label : String) :
    Act.Within (Scene.Via R) (h.select timeouts device label) := by
  refine .bind (Act.Within.task (.retryOnce _ (hh.pressKey device _))) fun _ => ?_
  refine .bind (.poll hslept (fun _ => hh.lookForList .within device) _) fun _ => ?_
  exact (hh.pick .within device _).task

theorem deselect_within (hswipe : Act.Within (Scene.Via R) h.swipeAway) (timeouts : Timeouts)
    (device label : String) : Act.Within (Scene.Via R) (h.deselect timeouts device label) := by
  refine .bind (.pause hslept _) fun _ => ?_
  refine .bind hswipe fun _ => ?_
  refine .bind (.pause hslept _) fun _ => ?_
  exact select_within hh hslept timeouts device _

end Within

theorem atBench_within {R : Bench → Bench → Prop} [IsPreorder Bench R] {w : World} (adb : Adb)
    (hkey : ∀ device key b, R b (b.run w (adb.command device ["shell", "input", "keyevent", key])).2)
    (hlaunch : ∀ device component b,
      R b (b.run w (adb.command device ["shell", "am", "start", "-n", component])).2)
    (hrequest : ∀ r b, R b (b.request w r).2) (hhold : ∀ (b : Bench) automators, R b { b with automators })
    (server : String) (swipeAway : Task Bench Unit) :
    (atBench w adb server swipeAway).MadeOf fun _ a => a.Within R :=
  have hask := Automator.ask_within hrequest
  { pressKey := fun device key => Adb.keyEvent_within w adb (hkey device key)
    launch := fun device component => Adb.startActivity_within w adb (hlaunch device component)
    open_ := fun _ => Automator.start_of .within (hask _ _ _ _)
    isVisible := fun _ => Automator.isVisible_of .within fun _ _ _ => hask _ _ _ _
    click := fun _ => Automator.click_of .within fun _ _ _ => hask _ _ _ _
    scrollToEnd := fun _ => Automator.scrollToEnd_of .within fun _ _ _ => hask _ _ _ _
    scrollTo := fun _ => Automator.scrollTo_of .within fun _ _ _ => hask _ _ _ _
    keep := fun _ _ b => hhold b _
    orDrop := orDrop_within fun held b => hhold b held }

end Handheld

end WatchTrial
