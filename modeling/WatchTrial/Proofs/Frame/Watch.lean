import WatchTrial.Proofs.Frame.Device
import WatchTrial.Proofs.RegistryHistory
import WatchTrial.Session
/-!
# What gestures and sessions do to the outside

Playing gestures stays within every relation that the inputs of the watch and the pauses stay within. At the
bench, an input may replace the link of the session.
-/
namespace WatchTrial

section Gestures

variable {ω : Type}

/-- A property of tasks that holds of two, one after the other, when it holds of both. -/
structure Task.Sequential (P : Task ω Unit → Prop) : Prop where
  done : P (pure ())
  seq : ∀ {t t' : Task ω Unit}, P t → P t' → P (t >>= fun _ => t')

variable [Sleeper ω]

private theorem Gesture.refuse_mem_moves {t : Timeouts} {size : DisplaySize} {g : Gesture} {why : Fault}
    (h : .refuse why ∈ g.moves t size) : ∃ text, why = .plain text := by
  have hglide (gap : Point) (duration : Int64) (steps : Nat) (place : Point) :
      .refuse why ∉ Swipe.glide gap duration steps place := by
    induction steps generalizing place with
    | zero => simp [Swipe.glide]
    | succ steps ih => simp [Swipe.glide, ih]
  have hswipe (s : Swipe) (hs : .refuse why ∈ s.moves) : ∃ text, why = .plain text := by
    unfold Swipe.moves at hs
    split at hs
    · exact ⟨_, Move.refuse.inj (List.mem_singleton.mp hs)⟩
    · simp [hglide] at hs
  obtain ⟨piece, hpiece, hmove⟩ := List.mem_flatMap.mp h
  cases piece with
  | swipe s => exact hswipe s hmove
  | move m =>
    obtain rfl := List.mem_singleton.mp hmove
    cases g <;> simp [motions, Gesture.swipe, touch, rest, side] at hpiece

section Sequential

-- what holds of inputs, pauses and refusals holds of all that is played
variable {P : Task ω Unit → Prop} (hP : Task.Sequential P) {p : Player ω}
  (hsend : ∀ i, P (p.watch.send i)) (hpause : ∀ d, P (pause d)) (hrefuse : ∀ text, P (throw (.plain text)))
include hP

private theorem Player.makeAll_of {moves : List Move} (h : ∀ m ∈ moves, P (p.make m)) : P (p.makeAll moves) := by
  induction moves with
  | nil => exact hP.done
  | cons m rest ih =>
    exact hP.seq (h m List.mem_cons_self) (ih fun m hm => h m (List.mem_cons_of_mem _ hm))

include hsend hpause hrefuse

theorem Player.perform_of (g : Gesture) : P (p.perform g) := by
  rw [p.perform_eq_makeAll]
  refine makeAll_of hP fun m hm => ?_
  cases m with
  | input i => exact hsend i
  | pause d => exact hpause d
  | refuse why =>
    obtain ⟨text, rfl⟩ := Gesture.refuse_mem_moves hm
    exact hrefuse text

theorem Registry.run_of {script : List String}
    (hunsupported : ∀ name ∈ script, (standard : Registry ω).supports name = false →
      P (throw (.unsupportedEvent name))) : P ((standard : Registry ω).run p script) := by
  have hall (names : List String) (hnames : ∀ name ∈ names, (standard : Registry ω).supports name = true) :
      P ((standard : Registry ω).executeAll p names) := by
    induction names with
    | nil => exact hP.done
    | cons name rest ih =>
      obtain ⟨hname, hrest⟩ := List.forall_mem_cons.mp hnames
      obtain ⟨g, -, hexecute⟩ := standard_execute hname
      have hplayed : P ((standard : Registry ω).execute p name) := by
        rw [hexecute]
        exact Player.perform_of hP hsend hpause hrefuse g
      exact hP.seq hplayed (ih hrest)
  unfold run
  split
  next fault hinvalid =>
    unfold validate at hinvalid
    split at hinvalid
    next name hfirst =>
      cases hinvalid
      have hname := List.find?_some hfirst
      exact hunsupported name (List.mem_of_find?_eq_some hfirst) (by simpa using hname)
    next => cases hinvalid
  next hvalid => exact hall script (validate_ok_iff.mp hvalid)

end Sequential

section Within

variable {R : ω → ω → Prop} [IsPreorder ω R] {p : Player ω}
  (hslept : ∀ d o, R o (Sleeper.slept d o)) (hsend : ∀ i, Act.Within (Scene.Via R) (p.watch.send i))

omit [Sleeper ω] in
theorem Act.Within.sequential : Task.Sequential fun t : Task ω Unit => Act.Within (Scene.Via R) t :=
  ⟨.pure _, fun h h' => .bind h fun _ => h'⟩

include hslept hsend

theorem Player.perform_within (g : Gesture) : Act.Within (Scene.Via R) (p.perform g) :=
  perform_of Act.Within.sequential hsend (Act.Within.pause hslept) (fun _ => .throw _) g

theorem Registry.run_within (script : List String) :
    Act.Within (Scene.Via R) ((standard : Registry ω).run p script) :=
  run_of Act.Within.sequential hsend (Act.Within.pause hslept) (fun _ => .throw _) fun _ _ _ => .throw _

end Within

end Gestures

namespace Connector

variable {R : Bench → Bench → Prop} {w : World} {c : Connector}

theorem orClose_within {α : Type} [IsPreorder Bench R] {link : Nat} {a : Act Bench α} (ha : a.Within R)
    (hclose : ∀ b, R b (b.close link)) : (orClose link a).Within R := by
  intro b
  unfold orClose
  split
  next x b' hrun => exact ha.of_run hrun
  next fault b' hrun => exact trans_of R (ha.of_run hrun) (hclose b')

theorem reach_within [IsPreorder Bench R] {device : String}
    (hconnect : ∀ b, R b (b.run w (c.adb.command "" ["connect", device])).2) :
    (c.reach w device).Within R := by
  unfold reach
  split
  · exact .bind (Adb.connect_within w _ hconnect) fun _ => .lift _
  · exact .pure _

/-- Everything that sessions are made of stays within a relation. -/
structure Within (w : World) (R : Bench → Bench → Prop) (c : Connector) : Prop where
  connect : ∀ address b, R b (b.run w (c.adb.command "" ["connect", address])).2
  displaySize : ∀ device b, R b (b.run w (c.adb.command device ["shell", "wm", "size"])).2
  dial : ∀ device, (c.dial device).Within R
  attach : ∀ link b, R b (Link.leave link [] b)
  exchange : ∀ link text b, R b (Link.exchange w link text b).2
  close : ∀ link b, R b (b.close link)
  slept : ∀ d b, R b (Sleeper.slept d b)
  use : ∀ (s : Session) (b : Bench), R b { b with session := some s }

namespace Within

variable [IsPreorder Bench R] (hc : c.Within w R)
include hc

theorem probe (device : String) (link : Nat) : (c.probe w device link).Within R := by
  refine orClose_within ?_ (hc.close link)
  refine .bind (.of fun b => hc.attach link b) fun _ => ?_
  refine .bind (Link.send_within w (hc.exchange link _)) fun _ => ?_
  exact .bind (Adb.displaySize_within w _ (hc.displaySize device)) fun _ => .pure _

theorem attempt (device : String) (cancelled : Bool) : (c.attempt w device cancelled).Within R := by
  unfold Connector.attempt
  split
  · exact .throw _
  · refine .bind (reach_within (hc.connect device)) fun _ => ?_
    exact .bind (hc.dial device) fun link => hc.probe device link

private theorem toSession (device : String) : Act.Within (Scene.Via R) (c.connect w device) := by
  refine .mapFault (.poll hc.slept (fun cancelled b => ?_) _) _
  exact hc.attempt device cancelled b

theorem reestablish (s : Session) (link : Nat) :
    Act.Within (Scene.Via R) (Session.reestablish w c s link) := by
  refine .bind (Act.Within.task (Link.close_within (hc.close link))) fun _ => ?_
  refine .bind (hc.toSession s.device) fun fresh => ?_
  exact .bind (Act.Within.task (.of fun b => hc.use _ b)) fun _ => .pure _

theorem call {α : Type} {f : Nat → Act Bench α} (hf : ∀ link, (f link).Within R) :
    Act.Within (Scene.Via R) (Session.call w c f) := by
  have hcurrent : Act.Within (Scene.Via R) Session.current := by
    refine .bind .get fun scene => ?_
    split
    · split
      · exact .pure _
      · exact .throw _
    · exact .throw _
  refine .bind hcurrent fun (s, link) => ?_
  refine .bind (Act.Within.task (hf link)).taskOutcome fun outcome => ?_
  split
  · exact .pure _
  · split
    · exact .throw _
    · exact .bind (hc.reestablish s link) fun link => (hf link).task

theorem send (i : Input) : Act.Within (Scene.Via R) (Session.send w c i) :=
  hc.call fun link => Link.sendInput_within w (hc.exchange link) i

end Within

end Connector

end WatchTrial
