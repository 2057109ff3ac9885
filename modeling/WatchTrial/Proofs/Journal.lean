import WatchTrial.Proofs.Frame.Trial
/-!
# The journal of a bench

The past of a bench only grows. Which events a task adds follows from which events its parts add. How links
are dialled is left to the connector; what is relied on is that a dial leaves one event of its own, after
events that only prepare it.
-/
namespace WatchTrial

/-- The answer that an event gives to a command. -/
def Event.answerTo? (argv : List String) : Event → Option Answer
  | .ran words answer => if words = argv then some answer else none
  | _ => none

/-- The past grew by events of a kind, and nothing was forgotten. -/
def Bench.Grew (P : Event → Prop) (before after : Bench) : Prop :=
  ∃ events, after.past = before.past ++ events ∧ ∀ e ∈ events, P e

namespace Bench.Grew

variable {P : Event → Prop} {b b' b'' : Bench}

instance (P : Event → Prop) : IsPreorder Bench (Grew P) where
  refl _ := ⟨[], by simp⟩
  trans a b c := by
    rintro ⟨es, hes, hP⟩ ⟨fs, hfs, hQ⟩
    refine ⟨es ++ fs, by rw [hfs, hes, List.append_assoc], fun e he => ?_⟩
    rcases List.mem_append.mp he with he | he
    · exact hP e he
    · exact hQ e he

theorem note (b : Bench) {e : Event} (h : P e) : Grew P b (b.note e) :=
  ⟨[e], rfl, by simpa using h⟩

theorem of_past_eq (h : b'.past = b.past) : Grew P b b' := ⟨[], by simp [h]⟩

theorem run (w : World) {argv : List String} (h : ∀ answer, P (.ran argv answer)) (b : Bench) :
    Grew P b (b.run w argv).2 := ⟨[.ran argv (w.run b.past argv)], rfl, by simpa using h _⟩

end Bench.Grew

/-- Commands that do not choose a device themselves say which device and which words were meant. -/
theorem Adb.command_inj {adb : Adb} {device device' : String} {args args' : List String}
    (h : args.head? ≠ some "-s") (h' : args'.head? ≠ some "-s")
    (heq : adb.command device args = adb.command device' args') : device = device' ∧ args = args' := by
  unfold command at heq
  have htail := (List.cons.inj heq).2
  split at htail
  next hdevice =>
    split at htail
    next hdevice' => exact ⟨hdevice.trans hdevice'.symm, htail⟩
    next => exact absurd (by rw [htail]; rfl) h
  next =>
    split at htail
    next => exact absurd (by rw [← htail]; rfl) h'
    next =>
      have hrest := (List.cons.inj htail).2
      exact List.cons.inj hrest

/-- An event that prepares a dial: a program that is started, or a port that is forwarded. -/
def Event.Prepares (adb : Adb) (device : String) : Event → Prop
  | .started _ _ => True
  | .ran argv _ => ∃ ports, argv = adb.command device ("forward" :: ports)
  | _ => False

/-- The act leaves the session alone, and either adds the event of one dial, whose number it gives when the
link was not refused, or fails before that event. -/
def Act.OpensOneLink (adb : Adb) (device : String) (a : Act Bench Nat) : Prop :=
  ∀ b, ∃ events, (∀ e ∈ events, e.Prepares adb device) ∧
    (a b).2.session = b.session ∧
    match a b with
    | (.ok link, after) =>
      link = Bench.dialCount b.past ∧ after.past = b.past ++ events ++ [.dialled device none]
    | (.error _, after) => after.past = b.past ++ events ∨
      ∃ why, after.past = b.past ++ events ++ [.dialled device (some why)]

/-- What is relied on about the way in which a connector dials. -/
def Connector.DialsOneLink (c : Connector) : Prop :=
  ∀ device, (c.dial device).OpensOneLink c.adb device

theorem Bench.dial_opensOneLink (w : World) (doing : String) (adb : Adb) (device : String) :
    (Bench.dial w doing device).OpensOneLink adb device := by
  intro b
  refine ⟨[], by simp, ?_⟩
  simp only [Bench.dial]
  cases h : w.dial b.past device with
  | none => exact ⟨rfl, rfl, by simp [Bench.note]⟩
  | some why => exact ⟨rfl, .inr ⟨why, by simp [Bench.note]⟩⟩

/-- An act that leaves one preparing event may stand before a dial. -/
theorem Act.OpensOneLink.prepared {adb : Adb} {device : String} {p : Act Bench Unit} {a : Act Bench Nat}
    (hp : ∀ b, ∃ e : Event, e.Prepares adb device ∧ (p b).2.past = b.past ++ [e] ∧
      (p b).2.session = b.session)
    (ha : a.OpensOneLink adb device) : (p >>= fun _ => a).OpensOneLink adb device := by
  intro b
  obtain ⟨e, he, hpast, hsession⟩ := hp b
  rcases hrun : p b with ⟨fault | _, b'⟩ <;> rw [hrun] at hpast hsession
  · rw [Act.bind_error hrun]
    exact ⟨[e], by simpa using he, hsession, .inl hpast⟩
  · rw [Act.bind_ok hrun]
    obtain ⟨events, hevents, hsession', hdial⟩ := ha b'
    refine ⟨e :: events, ?_, hsession'.trans hsession, ?_⟩
    · intro e' he'
      rcases List.mem_cons.mp he' with rfl | he'
      · exact he
      · exact hevents e' he'
    · have hcount : Bench.dialCount b'.past = Bench.dialCount b.past := by
        rw [hpast]
        cases e <;> simp_all [Bench.dialCount, Event.Prepares]
      rw [hcount, hpast] at hdial
      simpa using hdial

/-- Dialling the input server is a dial after two preparing acts. -/
theorem Adb.dialServer_opensOneLink (w : World) (port : Int64) (adb : Adb) (device : String) :
    (adb.dialServer w port device).OpensOneLink adb device := by
  refine .prepared (fun b => ?_) (.prepared (fun b => ?_) (Bench.dial_opensOneLink w _ adb device))
  · let argv := adb.command device ["shell", "monkey", "--port", Text.showInt64 port]
    have hstart : (adb.startServer w port device b).2 = b.note (.started argv (w.start b.past argv)) := by
      simp only [startServer, Act.bind_apply, Act.of, Bench.start]
      cases w.start b.past argv <;> rfl
    rw [hstart]
    exact ⟨.started argv (w.start b.past argv), trivial, rfl, rfl⟩
  · let ports := ["tcp:" ++ Text.showInt64 port, "tcp:" ++ Text.showInt64 port]
    let argv := adb.command device ("forward" :: ports)
    have hforward : (adb.forward w device port port b).2 = (b.run w argv).2 := by
      unfold forward
      rw [Act.bind_pure_state, output_bench, runChecked, check_bench]
    rw [hforward]
    exact ⟨.ran argv (w.run b.past argv), ⟨ports, rfl⟩, rfl, rfl⟩

/-- The commands of a trial other than those that read the sensors, without the device that they are for. -/
inductive Adb.Routine : List String → Prop
  | connect (address : String) : Routine ["connect", address]
  | displaySize : Routine ["shell", "wm", "size"]
  | forward (ports : List String) : Routine ("forward" :: ports)
  | clearLog : Routine ["logcat", "-c"]
  | packages : Routine ["shell", "pm", "list", "packages"]
  | install (path : String) : Routine ["install", path]
  | uninstall (pkg : String) : Routine ["uninstall", pkg]
  | key (key : String) : Routine ["shell", "input", "keyevent", key]
  | launch (component : String) : Routine ["shell", "am", "start", "-n", component]
  | capture : Routine ["shell", "screencap", "-p", remoteScreenshot]
  | pull (scratch : String) : Routine ["pull", remoteScreenshot, scratch]

theorem Adb.Routine.head_ne {args : List String} (h : Routine args) : args.head? ≠ some "-s" := by
  cases h <;> simp

theorem Adb.Routine.ne_sensorDump {args : List String} (h : Routine args) : args ≠ sensorDump := by
  cases h <;> simp [sensorDump]

/-- What a dial adds is of a kind that has what prepares it and the dial itself. -/
theorem Connector.DialsOneLink.dial_grew {c : Connector} (hdial : c.DialsOneLink) {device : String}
    {P : Event → Prop} (hprepares : ∀ e : Event, e.Prepares c.adb device → P e)
    (hdialled : ∀ refusal, P (.dialled device refusal)) : (c.dial device).Within (Bench.Grew P) := by
  intro b
  obtain ⟨events, hevents, -, houtcome⟩ := hdial device b
  have hprepared : ∀ e ∈ events, P e := fun e he => hprepares e (hevents e he)
  have hfull (refusal : Option String) : ∀ e ∈ events ++ [.dialled device refusal], P e := by
    intro e he
    rcases List.mem_append.mp he with he | he
    · exact hprepared e he
    · obtain rfl := List.mem_singleton.mp he
      exact hdialled refusal
  rcases hrun : c.dial device b with ⟨fault | link, b'⟩ <;> rw [hrun] at houtcome
  · rcases houtcome with hpast | ⟨why, hpast⟩
    · exact ⟨events, hpast, hprepared⟩
    · exact ⟨events ++ [.dialled device (some why)], by rw [hpast, List.append_assoc], hfull _⟩
  · exact ⟨events ++ [.dialled device none], by rw [houtcome.2, List.append_assoc], hfull _⟩

/-- A connector runs routine commands only, and sends no requests. -/
theorem Connector.DialsOneLink.connector_grew {c : Connector} (hdial : c.DialsOneLink) (w : World)
    {P : Event → Prop}
    (hran : ∀ device args answer, Adb.Routine args → P (.ran (c.adb.command device args) answer))
    (hother : ∀ e, (∀ argv answer, e ≠ .ran argv answer) →
      (∀ request response, e ≠ .requested request response) → P e) : c.Within w (Bench.Grew P) where
  connect address := .run w fun answer => hran "" _ answer (.connect address)
  displaySize device := .run w fun answer => hran device _ answer .displaySize
  dial device := by
    refine hdial.dial_grew (fun e he => ?_) fun refusal => hother _ (by simp) (by simp)
    cases e with
    | ran argv answer =>
      obtain ⟨ports, rfl⟩ := he
      exact hran device _ answer (.forward ports)
    | requested request response => exact he.elim
    | _ => exact hother _ (by simp) (by simp)
  attach _ _ := .of_past_eq rfl
  exchange link text b := .note b (hother (.sent link text) (by simp) (by simp))
  close link b := trans_of _ (.note b (hother _ (by simp) (by simp))) (.note _ (hother _ (by simp) (by simp)))
  slept d b := .note b (hother _ (by simp) (by simp))
  use _ _ := .of_past_eq rfl

/-- Apart from reading the sensors, a trial at the bench runs routine commands only. -/
theorem Connector.DialsOneLink.grew {c : Connector} (hdial : c.DialsOneLink) (w : World) {P : Event → Prop}
    (hran : ∀ device args answer, Adb.Routine args → P (.ran (c.adb.command device args) answer))
    (hother : ∀ e, (∀ argv answer, e ≠ .ran argv answer) → P e) :
    Rig.BenchWithin w (Bench.Grew P) c := by
  have hrun {args : List String} (h : Adb.Routine args) (device : String) (b : Bench) :
      Bench.Grew P b (b.run w (c.adb.command device args)).2 :=
    .run w (fun answer => hran device args answer h) b
  exact
    { connector := hdial.connector_grew w hran fun e he _ => hother e he
      clearLog := hrun .clearLog
      packages := hrun .packages
      install := fun device path => hrun (.install path) device
      uninstall := fun device pkg => hrun (.uninstall pkg) device
      key := fun device key => hrun (.key key) device
      launch := fun device component => hrun (.launch component) device
      capture := hrun .capture
      pull := hrun (.pull w.scratch)
      request := fun r b => .note b (hother (.requested r (w.request b.past r)) (by simp))
      hold := fun b automators => .of_past_eq rfl
      files := fun b files => .of_past_eq rfl }

end WatchTrial
