import Mathlib.Tactic.ByContra
import WatchTrial.Proofs.Links
import WatchTrial.Proofs.Triples
/-!
# The links of a managed session

A managed session keeps its links tidy: whatever is called on it, and wherever a call is cancelled, each link
but its current one has been closed, and its size stays what it was at first.
-/
namespace WatchTrial

/-- Nothing was dialled or closed, and the session stayed. -/
def Bench.Quietly (before after : Bench) : Prop :=
  Bench.Grew Event.Quiet before after ∧ after.session = before.session

instance : IsPreorder Bench Bench.Quietly where
  refl b := ⟨refl_of _ b, rfl⟩
  trans _ _ _ h h' := ⟨trans_of _ h.1 h'.1, h'.2.trans h.2⟩

/-- The links from the first on are tidy, with this one as the current, and the session is this one. -/
def Bench.Keeps (first : Nat) (current : Option Nat) (session : Option Session) (b : Bench) : Prop :=
  Link.Tidy first current b.past ∧ b.session = session

namespace Bench

variable {first link : Nat} {current : Option Nat} {session : Option Session} {b b' : Bench}

theorem Quietly.run (w : World) (argv : List String) (b : Bench) : Quietly b (b.run w argv).2 :=
  ⟨.run w (fun _ => trivial) b, rfl⟩

theorem Quietly.exchange (w : World) (link : Nat) (text : String) (b : Bench) :
    Quietly b (Link.exchange w link text b).2 := ⟨.note b (e := .sent link text) trivial, rfl⟩

theorem Quietly.attach (link : Nat) (b : Bench) : Quietly b (Link.leave link [] b) := ⟨.of_past_eq rfl, rfl⟩

theorem Keeps.quietly (h : b.Keeps first current session) (hq : Quietly b b') :
    b'.Keeps first current session := by
  obtain ⟨⟨events, hpast, hquiet⟩, hsession⟩ := hq
  refine ⟨?_, hsession.trans h.2⟩
  rw [hpast]
  exact h.1.quietly hquiet

theorem Keeps.weaken (h : b.Keeps first none session) (current : Option Nat) :
    b.Keeps first current session := ⟨h.1.weaken current, h.2⟩

theorem Keeps.close (h : b.Keeps first (some link) session) : (b.close link).Keeps first none session := by
  have hsaid : Link.Tidy first (some link) (b.past ++ [.sent link "done"]) := h.1.quiet trivial
  exact ⟨hsaid.closed, h.2⟩

private theorem Keeps.of_quietly {α : Type} {a : Act Bench α} (ha : a.Within Quietly) :
    Act.Triple (Keeps first current session) a (fun _ => Keeps first current session)
      (Keeps first current session) := .of_within ha fun _ _ hq hb => hb.quietly hq

end Bench

open Bench

namespace Connector

variable {w : World} {c : Connector} {first : Nat} {session : Option Session}

theorem DialsOneLink.keeps (hdial : c.DialsOneLink) (device : String) :
    Act.Triple (Keeps first none session) (c.dial device)
      (fun link => Keeps first (some link) session) (Keeps first none session) := by
  intro b hb
  obtain ⟨events, hprepares, hsession, hpast⟩ := hdial device b
  have hquiet : ∀ e ∈ events, e.Quiet := by
    intro e he
    have hprepare := hprepares e he
    cases e <;> trivial
  have htidy : Link.Tidy first none (b.past ++ events) := hb.1.quietly hquiet
  rcases hrun : c.dial device b with ⟨fault | link, b'⟩ <;> rw [hrun] at hpast hsession
  · refine ⟨?_, hsession.trans hb.2⟩
    rcases hpast with hpast | ⟨why, hpast⟩ <;> rw [hpast]
    · exact htidy
    · exact htidy.refused device why
  · obtain ⟨rfl, hpast⟩ := hpast
    refine ⟨?_, hsession.trans hb.2⟩
    rw [hpast, ← dialCount_append_quiet b.past hquiet]
    exact htidy.opened device

theorem orClose_triple {α : Type} {P E E' : Bench → Prop} {Q : α → Bench → Prop} {link : Nat}
    {a : Act Bench α} (ha : Act.Triple P a Q E) (hclose : ∀ b, E b → E' (b.close link)) :
    Act.Triple P (orClose link a) Q E' := by
  intro b hb
  unfold orClose
  rcases hrun : a b with ⟨fault | x, b'⟩
  · exact hclose b' (ha.of_error hb hrun)
  · exact ha.of_ok hb hrun

/-- The last thing that happened is that the device gave this size. -/
def GaveSize (c : Connector) (device : String) (size : DisplaySize) (b : Bench) : Prop :=
  ∃ answer, b.past.getLast? = some (.ran (c.adb.command device ["shell", "wm", "size"]) answer) ∧
    DisplaySize.read answer.stdout = .ok size

/-- The session is over a link that is the current one, and has the size that the device just gave. -/
def Fresh (c : Connector) (device : String) (first : Nat) (session : Option Session) (s : Session)
    (b : Bench) : Prop :=
  ∃ link, s.link = some link ∧ b.Keeps first (some link) session ∧ c.GaveSize device s.size b

/-- A probe that fails closes the link that it was made over. -/
theorem probe_triple (w : World) (c : Connector) (device : String) (link : Nat) :
    Act.Triple (Keeps first (some link) session) (c.probe w device link) (c.Fresh device first session)
      (Keeps first none session) := by
  have hsize : Act.Triple (Keeps first (some link) session) (c.adb.displaySize w device)
      (fun size b => b.Keeps first (some link) session ∧ c.GaveSize device size b)
      (Keeps first (some link) session) := by
    intro b hb
    have hquietly : Quietly b (c.adb.displaySize w device b).2 :=
      Adb.displaySize_within w c.adb (Quietly.run w _) b
    rcases hrun : c.adb.displaySize w device b with ⟨fault | size, b'⟩ <;> rw [hrun] at hquietly
    · exact hb.quietly hquietly
    · obtain ⟨answer, hpast, -, -, hread⟩ := Adb.displaySize_ok w hrun
      exact ⟨hb.quietly hquietly, answer, by rw [hpast, List.getLast?_concat], hread⟩
  refine orClose_triple (E := Keeps first (some link) session) ?_ fun b hb => hb.close
  refine .bind (Keeps.of_quietly (.of (Quietly.attach link))) fun _ => ?_
  refine .bind (Keeps.of_quietly (Link.send_within w (Quietly.exchange w link _))) fun _ => ?_
  exact .bind hsize fun size => .pure fun b hb => ⟨link, rfl, hb⟩

private theorem DialsOneLink.attempt_triple (hdial : c.DialsOneLink) (w : World) (device : String)
    (cancelled : Bool) :
    Act.Triple (Keeps first none session) (c.attempt w device cancelled) (c.Fresh device first session)
      (Keeps first none session) := by
  unfold attempt
  split
  · exact .throw fun b hb => hb
  · refine .bind (Keeps.of_quietly (reach_within (Quietly.run w _))) fun _ => ?_
    exact .bind (hdial.keeps device) fun link => probe_triple w c device link

/-- Connecting leaves nothing open but the link of the session that it gives. -/
theorem DialsOneLink.connect_triple (hdial : c.DialsOneLink) (w : World) (device : String) :
    Act.Triple (fun scene : Scene Bench => scene.outside.Keeps first none session) (c.connect w device)
      (fun s scene => c.Fresh device first session s scene.outside)
      (fun scene => scene.outside.Keeps first none session) := by
  refine .mapFault (.poll (fun d b hb => ?_) (fun cancelled b hb => ?_) c.delay) _
  · exact hb.quietly ⟨.note b trivial, rfl⟩
  · have hend := hdial.attempt_triple w device cancelled b hb
    simp only
    rcases hrun : c.attempt w device cancelled b with ⟨fault | s, b'⟩ <;> rw [hrun] at hend <;> exact hend

end Connector

namespace Session

variable {c : Connector} {first : Nat}

/-- Of the links from the first on, at most that of the current session is open, and the session is the given
one apart from its link. -/
def Kept (first : Nat) (s : Session) (b : Bench) : Prop :=
  ∃ link, b.Keeps first (some link) (some { s with link := some link })

private theorem reestablish_triple (hdial : c.DialsOneLink) (w : World) (first : Nat) (s : Session) (link : Nat) :
    Act.Triple (fun scene => scene.outside.Keeps first (some link) (some s)) (reestablish w c s link)
      (fun fresh scene => scene.outside.Keeps first (some fresh) (some { s with link := some fresh }))
      (fun scene => scene.outside.Keeps first none (some s)) := by
  have hclose : Act.Triple (Keeps first (some link) (some s)) (Link.close link)
      (fun _ => Keeps first none (some s)) (Keeps first none (some s)) := fun b hb => hb.close
  refine .bind hclose.task fun _ => .bind (hdial.connect_triple w s.device) fun fresh => ?_
  rintro scene ⟨freshLink, hlink, ⟨htidy, -⟩, -⟩
  rw [hlink]
  exact ⟨htidy, rfl⟩

private theorem current_triple (first : Nat) (s : Session) :
    Act.Triple (fun scene => Kept first s scene.outside) current
      (fun found scene => found.1 = { s with link := some found.2 } ∧
        scene.outside.Keeps first (some found.2) (some found.1))
      (fun scene => Kept first s scene.outside) := by
  rintro scene ⟨link, htidy, hsession⟩
  have hcurrent : current scene = (.ok ({ s with link := some link }, link), scene) := by
    simp [current, Act.bind_apply, hsession]
  rw [hcurrent]
  exact ⟨rfl, htidy, hsession⟩

/-- A call leaves nothing open but the link of the session, also when the link was lost and replaced, and
when replacing it was given up. -/
theorem call_triple {α : Type} (hdial : c.DialsOneLink) (w : World) (first : Nat) (s : Session)
    {f : Nat → Act Bench α} (hf : ∀ link, (f link).Within Quietly) :
    Act.Triple (fun scene => Kept first s scene.outside) (call w c f)
      (fun _ scene => Kept first s scene.outside) (fun scene => Kept first s scene.outside) := by
  refine .bind (current_triple first s) fun (found, link) => .given fun hfound => ?_
  change found = { s with link := some link } at hfound
  subst hfound
  refine .bind (Act.Triple.taskOutcome (Keeps.of_quietly (hf link)).task) fun outcome => ?_
  cases outcome with
  | ok x => exact .pure fun scene hscene => ⟨link, hscene⟩
  | error fault =>
    dsimp only
    split
    · exact .throw fun scene hscene => ⟨link, hscene⟩
    · have hagain := reestablish_triple hdial w first { s with link := some link } link
      refine .bind (hagain.consequence (fun _ h => h) (fun _ _ h => h) ?_) fun fresh => ?_
      · exact fun scene hscene => ⟨link, hscene.weaken _⟩
      · refine (Keeps.of_quietly (hf fresh)).task.consequence (fun _ h => h) ?_ ?_
        · exact fun _ scene hscene => ⟨fresh, hscene⟩
        · exact fun scene hscene => ⟨fresh, hscene⟩

private theorem close_triple (first : Nat) (s : Session) :
    Act.Triple (Kept first s) close (fun _ => Kept first s) (Kept first s) := by
  rintro b ⟨link, htidy, hsession⟩
  have hclose : close b = (.ok (), b.close link) := by
    simp [close, Act.bind_apply, hsession, Link.close, Act.of]
  rw [hclose]
  exact ⟨link, Keeps.weaken (Keeps.close ⟨htidy, hsession⟩) _⟩

inductive Call where
  | send (i : Input)
  | raw (command : String)
  | close

/-- A call with the patience of the caller: how many pauses end well, whether it was cancelled before, and
after how many events it is cancelled. -/
structure Use where
  call : Call
  left : Nat
  cancelled : Bool := false
  cancelAfter : Option Nat := none

/-- The bench after a call. -/
def Use.perform (w : World) (c : Connector) (b : Bench) (u : Use) : Bench :=
  let scene : Scene Bench := ⟨u.left, u.cancelled, { b with cancelAfter := u.cancelAfter }⟩
  match u.call with
  | .send i => (Session.send w c i scene).2.outside
  | .raw command => (Session.raw w c command scene).2.outside
  | .close => (Session.close.task scene).2.outside

private theorem Use.perform_kept (hdial : c.DialsOneLink) (w : World) {s : Session} {b : Bench} (hb : Kept first s b)
    (u : Use) : Kept first s (u.perform w c b) := by
  have hend {α : Type} {t : Task Bench α}
      (h : Act.Triple (fun scene => Kept first s scene.outside) t (fun _ scene => Kept first s scene.outside)
        (fun scene => Kept first s scene.outside)) (scene : Scene Bench)
      (hscene : Kept first s scene.outside) : Kept first s (t scene).2.outside := by
    rcases hrun : t scene with ⟨fault | x, scene'⟩
    · exact h.of_error hscene hrun
    · exact h.of_ok hscene hrun
  have hpatient : Kept first s { b with cancelAfter := u.cancelAfter } := hb
  unfold perform
  cases u.call with
  | send i =>
    exact hend (call_triple hdial w first s fun link => Link.sendInput_within w (Quietly.exchange w link) i) _
      hpatient
  | raw command =>
    exact hend (call_triple hdial w first s fun link => Link.send_within w (Quietly.exchange w link _)) _
      hpatient
  | close => exact hend (close_triple first s).task _ hpatient

private theorem performAll_kept (hdial : c.DialsOneLink) (w : World) {s : Session} {b : Bench} (hb : Kept first s b)
    (uses : List Use) : Kept first s (uses.foldl (Use.perform w c) b) := by
  induction uses generalizing b with
  | nil => exact hb
  | cons u rest ih => exact ih (Use.perform_kept hdial w hb u)

/-- Whatever is called on a managed session: of the links dialled for it no two are ever open together, each
is closed before the next is dialled, and all but the current one have been closed. The session keeps the
size that the device gave when it was made. -/
theorem managed_session_links (w : World) (c : Connector) (hdial : c.DialsOneLink) (device : String)
    (start : Scene Bench) (s : Session) (hmade : (c.connect w device start).1 = .ok s) (uses : List Use) :
    let made : Bench := { (c.connect w device start).2.outside with session := some s }
    let b := uses.foldl (Use.perform w c) made
    let first := dialCount start.outside.past
    (∀ moment, moment <+: b.past → ∀ link link', first ≤ link → first ≤ link' →
      Link.IsOpen moment link → Link.IsOpen moment link' → link = link') ∧
    (∀ before device' refusal after, b.past = before ++ .dialled device' refusal :: after →
      ∀ link, first ≤ link → ¬ Link.IsOpen before link) ∧
    c.GaveSize device s.size made ∧
    ∃ link, b.session = some { s with link := some link } ∧
      ∀ before device' after, b.past = before ++ .dialled device' none :: after →
        first ≤ dialCount before → dialCount before ≠ link → .closed (dialCount before) ∈ after := by
  intro made b first
  have hstart : start.outside.Keeps first none start.outside.session := ⟨.start _, rfl⟩
  have hconnect : c.connect w device start = (.ok s, (c.connect w device start).2) := Prod.ext hmade rfl
  obtain ⟨link, hlink, ⟨htidy, -⟩, hsize⟩ := (hdial.connect_triple w device).of_ok hstart hconnect
  have hkept : Kept first s made := ⟨link, htidy, by rw [← hlink]⟩
  obtain ⟨current, htidy, hsession⟩ := performAll_kept hdial w hkept uses
  refine ⟨htidy.unique, htidy.dialled, hsize, current, hsession, ?_⟩
  intro before device' after hpast hfirst hother
  by_contra hopen
  have hcurrent := htidy.isCurrent _ hfirst ⟨before, device', after, hpast, rfl, hopen⟩
  exact hother (Option.some.inj hcurrent).symm

end Session

/-! A watch whose first link gives no answer and whose second is lost in use; by then its display has another
size. -/
namespace LostLink

def world : World where
  finds _ := true
  run past _ := { stdout := if dialCount past ≤ 2 then "Physical size: 10x20" else "Physical size: 30x40" }
  start _ _ := none
  dial _ _ := none
  write _ link text :=
    if link = 0 then .arrived "" "end of file"
    else if link = 1 ∧ text = "wake" then .unsent "broken pipe"
    else .arrived "OK\n" "end of file"
  request _ _ := .failed "no server"
  scratch := ""

def connector : Connector := ⟨{}, Bench.dial world "dial", 1⟩

def start : Scene Bench := { left := 5, outside := {} }

def session : Session := ⟨"w", ⟨10, 20⟩, some 1, true⟩

def uses : List Session.Use :=
  [⟨.send .wake, 5, false, none⟩, ⟨.raw "quit", 0, true, none⟩, ⟨.close, 0, false, some 0⟩]

def bench : Bench :=
  uses.foldl (Session.Use.perform world connector)
    { (connector.connect world "w" start).2.outside with session := some session }

end LostLink

theorem Session.managed_session_links_lost :
    ((LostLink.connector.connect LostLink.world "w" LostLink.start).1 = .ok LostLink.session ∧
      LostLink.bench.session = some { LostLink.session with link := some 2 }) ∧
    ∀ before device after, LostLink.bench.past = before ++ .dialled device none :: after →
      dialCount before ≠ 2 → .closed (dialCount before) ∈ after := by
  have hconnect : (LostLink.connector.connect LostLink.world "w" LostLink.start).1.toOption =
      some LostLink.session := by decide +kernel
  have hsession : LostLink.bench.session = some { LostLink.session with link := some 2 } := by
    decide +kernel
  have hmade := Act.eq_ok_of_toOption hconnect
  refine ⟨⟨hmade, hsession⟩, fun before device after hpast hother => ?_⟩
  obtain ⟨-, -, -, link, hkept, hclosed⟩ := Session.managed_session_links LostLink.world LostLink.connector
    (Bench.dial_opensOneLink _ _ _) "w" LostLink.start LostLink.session hmade LostLink.uses
  have hlink : link = 2 := by
    have hsame := hkept.symm.trans hsession
    simpa using hsame
  exact hclosed before device after hpast (Nat.zero_le _) (hlink ▸ hother)

end WatchTrial
