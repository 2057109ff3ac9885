import WatchTrial.Proofs.Connecting
/-!
# Commands over a lost link

A command that is sent over a managed session goes one of three ways: the link answered, and that is the
outcome; the link was lost, and connecting anew was given up; or the link was lost, and the command was sent
once more over a new one.
-/
namespace WatchTrial

open Bench

/-- The bench has this session, over a link that was dialled before. -/
structure Bench.Holds (b : Bench) (s : Session) (link : Nat) : Prop where
  session : b.session = some s
  current : s.link = some link
  dialled : link < dialCount b.past

/-- The links that a line was written on. -/
def Link.written (line : String) (events : List Event) : List Nat :=
  events.filterMap fun
    | .sent link text => if text = line then some link else none
    | _ => none

section Written

variable {line : String} (hprobe : line ≠ Connector.probeLine) (hdone : line ≠ "done")
include hprobe hdone

private theorem Link.written_ofAttempt {events : List Event} (h : ∀ e ∈ events, e.OfAttempt) :
    written line events = [] := by
  refine List.filterMap_eq_nil_iff.mpr fun e he => ?_
  cases e with
  | sent link text =>
    refine if_neg ?_
    rintro rfl
    rcases h _ he with hline | hline
    · exact hprobe hline
    · exact hdone hline
  | _ => rfl

theorem Connector.Retries.written {c : Connector} {device : String} {past events : List Event}
    (h : c.Retries device past events) : Link.written line events = [] := by
  induction h with
  | none => rfl
  | again hfailed _ ih =>
    have hattempt := Link.written_ofAttempt hprobe hdone hfailed.ofAttempt
    simp only [Link.written, List.filterMap_append] at hattempt ih ⊢
    simp [hattempt, ih]

end Written

/-- The scene after a line was sent on a link and the link was closed. -/
def Scene.hungUp (scene : Scene Bench) (w : World) (link : Nat) (line : String) : Scene Bench :=
  { scene with outside := (Link.exchange w link line scene.outside).2.close link }

private theorem Scene.hungUp_past (scene : Scene Bench) (w : World) (link : Nat) (line : String) :
    (scene.hungUp w link line).outside.past =
      scene.outside.past ++ [.sent link line, .sent link "done", .closed link] := by
  simp [hungUp, Bench.close, Bench.note, Link.exchange, Link.leave, Bench.write]

namespace Session

/-- How a command goes over a managed session: its outcome and the scene after it. -/
inductive Delivery (w : World) (c : Connector) (s : Session) (link : Nat) (line : String)
    (scene : Scene Bench) : Except Fault String × Scene Bench → Prop
  | answered (hanswered : (Link.exchange w link line scene.outside).1.isLost = false) :
      Delivery w c s link line scene (Link.outcomeOf line (Link.exchange w link line scene.outside).1,
        { scene with outside := (Link.exchange w link line scene.outside).2 })
  | gaveUp {fault : Fault} {scene' : Scene Bench}
      (hlost : (Link.exchange w link line scene.outside).1.isLost = true)
      (hconnect : c.connect w s.device (scene.hungUp w link line) = (.error fault, scene')) :
      Delivery w c s link line scene (.error fault, scene')
  | repeated {fresh : Session} {link' : Nat} {between : Scene Bench} {b : Bench} {retries last : List Event}
      (hlost : (Link.exchange w link line scene.outside).1.isLost = true)
      (hconnect : c.connect w s.device (scene.hungUp w link line) = (.ok fresh, between))
      (hretries : c.Retries s.device (scene.hungUp w link line).outside.past retries)
      (hmade : c.SuccessfulAttempt w s.device ((scene.hungUp w link line).outside.past ++ retries) last fresh)
      (hgoes : (scene.hungUp w link line).GoesOn (retries ++ last) between)
      (hlink : fresh.link = some link') (hother : link' ≠ link)
      (hb : b = { between.outside with session := some { s with link := some link' } }) :
      Delivery w c s link line scene (Link.outcomeOf line (Link.exchange w link' line b).1,
        { between with outside := (Link.exchange w link' line b).2 })

variable {w : World} {c : Connector} {s : Session} {link : Nat} {scene : Scene Bench} {α β : Type}

private theorem current_of_holds (h : scene.outside.session = some s) (hlink : s.link = some link) :
    current scene = (.ok (s, link), scene) := by
  simp [current, Act.bind_apply, h, hlink]

/-- A call gives its first outcome, unless that makes a managed session replace its link. -/
theorem call_once {f : Nat → Act Bench α} (h : scene.outside.session = some s) (hlink : s.link = some link)
    (hfirst : ∀ fault, (f link scene.outside).1 = .error fault →
      s.managed = false ∨ fault.carries .connectionLost = false) :
    call w c f scene = (f link).task scene := by
  unfold call
  rw [Act.bind_ok (current_of_holds h hlink)]
  rcases hrun : f link scene.outside with ⟨fault | x, b⟩
  · have houtcome : (f link).task.outcome scene = (.ok (.error fault), { scene with outside := b }) := by
      simp [Task.outcome, Act.task, hrun]
    simp only [Act.bind_ok houtcome]
    have hstop : (! s.managed || ! fault.carries .connectionLost) = true := by
      rcases hfirst fault (congrArg Prod.fst hrun) with hfree | hkept
      · simp [hfree]
      · simp [hkept]
    simp [hstop, Act.task, hrun, Act.bind_apply]
  · have houtcome : (f link).task.outcome scene = (.ok (.ok x), { scene with outside := b }) := by
      simp [Task.outcome, Act.task, hrun]
    simp [Act.bind_ok houtcome, Act.task, hrun]

private theorem call_again {f : Nat → Act Bench α} {fault : Fault} {b : Bench} (h : scene.outside.session = some s)
    (hlink : s.link = some link) (hmanaged : s.managed = true) (hrun : f link scene.outside = (.error fault, b))
    (hlost : fault.carries .connectionLost = true) :
    call w c f scene =
      (reestablish w c s link >>= fun fresh => (f fresh).task) { scene with outside := b } := by
  unfold call
  rw [Act.bind_ok (current_of_holds h hlink)]
  have houtcome : (f link).task.outcome scene = (.ok (.error fault), { scene with outside := b }) := by
    simp [Task.outcome, Act.task, hrun]
  simp [Act.bind_ok houtcome, hmanaged, hlost]

private theorem call_map (f : Nat → Act Bench α) (g : α → β) (scene : Scene Bench) :
    call w c (fun link => f link >>= fun x => pure (g x)) scene =
      ((call w c f scene).1.map g, (call w c f scene).2) := by
  have hrun (link : Nat) (scene : Scene Bench) : Act.task (f link >>= fun x => pure (g x)) scene =
      (((f link).task scene).1.map g, ((f link).task scene).2) := by
    simp only [Act.task, Act.bind_apply]
    rcases f link scene.outside with ⟨fault | x, b⟩ <;> rfl
  unfold call
  simp only [Act.bind_apply]
  rcases current scene with ⟨fault | ⟨s, link⟩, found⟩
  · rfl
  · simp only [Task.outcome, hrun]
    rcases (f link).task found with ⟨fault | x, tried⟩
    · simp only [Except.map]
      split
      · rfl
      · rw [Act.bind_apply, Act.bind_apply]
        rcases reestablish w c s link tried with ⟨fault | fresh, again⟩
        · rfl
        · exact hrun fresh again
    · rfl

private theorem send_eq_raw {i : Input} {line : String} (h : Link.lineOf i = .ok line) (scene : Scene Bench) :
    send w c i scene = ((raw w c line scene).1.map fun _ => (), (raw w c line scene).2) := by
  have hinput : (fun link => Link.sendInput w link i) =
      fun link => Link.send w link line >>= fun _ => pure () := by
    funext link
    simp only [Link.sendInput, h]
  unfold send raw
  rw [hinput]
  exact call_map _ _ scene

private theorem send_unknown {i : Input} {fault : Fault} (h : scene.outside.Holds s link)
    (hline : Link.lineOf i = .error fault) : (send w c i scene).2 = scene := by
  obtain ⟨text, rfl⟩ : ∃ text, fault = .plain text := by
    unfold Link.lineOf at hline
    split at hline <;> cases hline <;> exact ⟨_, rfl⟩
  have hthrow : Link.sendInput w link i = throw (.plain text) := by
    simp only [Link.sendInput, hline]
  have honce : send w c i scene = (Link.sendInput w link i).task scene := by
    refine call_once h.session h.current fun fault hfault => .inr ?_
    rw [hthrow] at hfault
    cases hfault
    rfl
  rw [honce, hthrow]
  rfl

private theorem reestablish_error {fault : Fault} {scene' : Scene Bench}
    (h : c.connect w s.device { scene with outside := scene.outside.close link } = (.error fault, scene')) :
    reestablish w c s link scene = (.error fault, scene') := by
  have hclose : (Link.close link).task scene =
      (.ok (), { scene with outside := scene.outside.close link }) := rfl
  unfold reestablish
  rw [Act.bind_ok hclose, Act.bind_error h]

private theorem reestablish_ok {fresh : Session} {link' : Nat} {between : Scene Bench}
    (h : c.connect w s.device { scene with outside := scene.outside.close link } = (.ok fresh, between))
    (hlink : fresh.link = some link') :
    reestablish w c s link scene = (.ok link', { between with outside :=
      { between.outside with session := some { s with link := some link' } } }) := by
  have hclose : (Link.close link).task scene =
      (.ok (), { scene with outside := scene.outside.close link }) := rfl
  unfold reestablish
  rw [Act.bind_ok hclose, Act.bind_ok h, hlink]
  rfl

private theorem raw_delivery (hdial : c.DialsOnly) (w : World) (line : String) (h : scene.outside.Holds s link)
    (hmanaged : s.managed = true) : Delivery w c s link line scene (raw w c line scene) := by
  let first := (Link.exchange w link line scene.outside).1
  let said := (Link.exchange w link line scene.outside).2
  have hsend : Link.send w link line scene.outside = (Link.outcomeOf line first, said) := rfl
  cases hlost : first.isLost with
  | false =>
    have honce : raw w c line scene = (Link.outcomeOf line first, { scene with outside := said }) := by
      refine call_once h.session h.current fun fault hfault => .inr ?_
      rw [Link.outcomeOf_error hfault]
      exact hlost
    rw [honce]
    exact .answered hlost
  | true =>
    obtain ⟨fault, hfault⟩ := Link.outcomeOf_lost line hlost
    have hagain : raw w c line scene =
        (reestablish w c s link >>= fun fresh => (Link.send w fresh line).task)
          { scene with outside := said } := by
      refine call_again h.session h.current hmanaged (hsend.trans (by rw [hfault])) ?_
      rw [Link.outcomeOf_error hfault, hlost]
    rw [hagain]
    rcases hconnect : c.connect w s.device (scene.hungUp w link line) with ⟨fault' | fresh, between⟩
    · rw [Act.bind_error (reestablish_error hconnect)]
      exact .gaveUp hlost hconnect
    · obtain ⟨retries, last, hretries, hmade, hgoes⟩ := hdial.connect_ok hconnect
      let later := (scene.hungUp w link line).outside.past ++ retries
      have hlink : fresh.link = some (dialCount later) := by rw [hmade.eq]
      have hother : dialCount later ≠ link := by
        have hold := h.dialled
        have hgrown : dialCount scene.outside.past ≤ dialCount later := by
          simp only [later, scene.hungUp_past, List.append_assoc]
          exact dialCount_le_append _ _
        omega
      rw [Act.bind_ok (reestablish_ok hconnect hlink)]
      have hdelivery := Delivery.repeated hlost hconnect hretries hmade hgoes hlink hother rfl
      exact hdelivery

namespace Delivery

variable {line : String} {run : Except Fault String × Scene Bench}

private theorem written_hungUp (hdone : line ≠ "done") (link : Nat) (later : List Event) :
    Link.written line ([.sent link line, .sent link "done", .closed link] ++ later) =
      link :: Link.written line later := by
  simp [Link.written, hdone.symm]

theorem events (hdial : c.DialsOnly) (h : Delivery w c s link line scene run) :
    ∃ events, run.2.outside.past = scene.outside.past ++ events ∧
      (.closed link ∈ events ↔ (Link.exchange w link line scene.outside).1.isLost = true) ∧
      (line ≠ Connector.probeLine → line ≠ "done" → Link.written line events = [link] ∨
        ∃ link', link' ≠ link ∧ Link.written line events = [link, link']) := by
  cases h with
  | answered hanswered =>
    exact ⟨[.sent link line], rfl, by simp [hanswered], fun _ _ => .inl (by simp [Link.written])⟩
  | gaveUp hlost hconnect =>
    obtain ⟨-, retries, last, hretries, hlast, hcut⟩ := hdial.connect_error hconnect
    refine ⟨_, by rw [hcut.past, Scene.hungUp_past, List.append_assoc], by simp [hlost], fun hprobe hdone => ?_⟩
    have hagain := hretries.written hprobe hdone
    have htried : Link.written line last = [] := by
      rcases hlast with hfailed | ⟨rfl, -⟩
      · exact Link.written_ofAttempt hprobe hdone hfailed.ofAttempt
      · rfl
    rw [written_hungUp hdone]
    simp only [Link.written, List.filterMap_append] at hagain htried ⊢
    exact .inl (by simp [hagain, htried])
  | @repeated fresh link' between b retries last hlost _ hretries hmade hgoes _ hother hb =>
    subst hb
    have hpast : between.outside.past ++ [.sent link' line] = scene.outside.past ++
        ([.sent link line, .sent link "done", .closed link] ++ (retries ++ last ++ [.sent link' line])) := by
      rw [hgoes.past, Scene.hungUp_past]
      simp only [List.append_assoc]
    refine ⟨_, hpast, by simp [hlost], fun hprobe hdone => .inr ⟨link', hother, ?_⟩⟩
    have hagain := hretries.written hprobe hdone
    have htried := Link.written_ofAttempt hprobe hdone hmade.ofAttempt
    rw [written_hungUp hdone]
    simp only [Link.written, List.filterMap_append] at hagain htried ⊢
    simp [hagain, htried]

/-- A command that went well was answered with `OK`, as the last thing, by the link that is then current. -/
theorem ok {value : String} (h : Delivery w c s link line scene run) (hsession : scene.outside.Holds s link)
    (hok : run.1 = .ok value) :
    ∃ before current text, run.2.outside = (Link.exchange w current line before).2 ∧
      run.2.outside.past = before.past ++ [.sent current line] ∧
      run.2.outside.session = some { s with link := some current } ∧
      (Link.exchange w current line before).1 = .line text ∧ Link.Agrees text := by
  cases h with
  | answered hanswered =>
    obtain ⟨text, htext, hagrees⟩ := Link.outcomeOf_ok hok
    refine ⟨scene.outside, link, text, rfl, rfl, ?_, htext, hagrees⟩
    rw [← hsession.current]
    exact hsession.session
  | gaveUp => cases hok
  | repeated _ _ _ _ _ _ _ hb =>
    subst hb
    obtain ⟨text, htext, hagrees⟩ := Link.outcomeOf_ok hok
    exact ⟨_, _, text, rfl, rfl, rfl, htext, hagrees⟩

theorem holds (hdial : c.DialsOnly) (h : Delivery w c s link line scene run)
    (hholds : scene.outside.Holds s link) :
    ∃ link', run.2.outside.Holds { s with link := some link' } link' := by
  obtain ⟨events, hpast, -⟩ := h.events hdial
  have hsame : { s with link := some link } = s := by rw [← hholds.current]
  have hdialled : link < dialCount run.2.outside.past := by
    rw [hpast]
    exact Nat.lt_of_lt_of_le hholds.dialled (dialCount_le_append _ _)
  cases h with
  | answered => exact ⟨link, hholds.session.trans (congrArg some hsame.symm), rfl, hdialled⟩
  | gaveUp hlost hconnect =>
    have hstart : (scene.hungUp w link line).outside.Keeps _ none (some s) := ⟨.start _, hholds.session⟩
    obtain ⟨-, hkept⟩ := (hdial.oneLink.connect_triple w s.device).of_error hstart hconnect
    exact ⟨link, hkept.trans (congrArg some hsame.symm), rfl, hdialled⟩
  | @repeated fresh link' between b retries last hlost _ hretries hmade hgoes hlink hother hb =>
    subst hb
    obtain ⟨_, hfresh, hopen⟩ := hmade.isOpen_after hgoes
    cases hlink.symm.trans hfresh
    exact ⟨link', rfl, rfl, Nat.lt_of_lt_of_le hopen.lt_dialCount (dialCount_le_append _ _)⟩

end Delivery

/-- The bench has the given session, over whatever link. -/
def Held (s : Session) (b : Bench) : Prop := ∃ link, b.Holds { s with link := some link } link

private theorem Use.perform_held (hdial : c.DialsOnly) (w : World) (hmanaged : s.managed = true) {b : Bench}
    (hb : Held s b) (u : Use) : Held s (u.perform w c b) := by
  obtain ⟨link, hb⟩ := hb
  let scene : Scene Bench := ⟨u.left, u.cancelled, { b with cancelAfter := u.cancelAfter }⟩
  have hscene : scene.outside.Holds { s with link := some link } link := ⟨hb.session, rfl, hb.dialled⟩
  have hraw (line : String) : Held s (raw w c line scene).2.outside := by
    have hdelivery := raw_delivery hdial w line hscene hmanaged
    have hend := hdelivery.holds hdial hscene
    exact hend
  unfold perform
  cases u.call with
  | send i =>
    simp only
    cases hline : Link.lineOf i with
    | error fault =>
      rw [send_unknown hscene hline]
      exact ⟨link, hscene⟩
    | ok line =>
      rw [send_eq_raw hline]
      exact hraw line
  | raw line => exact hraw line
  | close =>
    have hclose : close scene.outside = (.ok (), scene.outside.close link) := by
      simp [close, Act.bind_apply, hscene.session, Link.close, Act.of]
    have hafter : (close.task scene).2.outside = scene.outside.close link := congrArg Prod.snd hclose
    change Held s (close.task scene).2.outside
    rw [hafter]
    refine ⟨link, hb.session, rfl, Nat.lt_of_lt_of_le hb.dialled ?_⟩
    exact Nat.le_trans (dialCount_le_append _ _) (dialCount_le_append _ _)

private theorem performAll_held (hdial : c.DialsOnly) (w : World) (hmanaged : s.managed = true) {b : Bench}
    (hb : Held s b) (uses : List Use) : Held s (uses.foldl (Use.perform w c) b) := by
  induction uses generalizing b with
  | nil => exact hb
  | cons u rest ih => exact ih (Use.perform_held hdial w hmanaged hb u)

private theorem held_of_connect (hdial : c.DialsOnly) {device : String} {start made : Scene Bench}
    (h : c.connect w device start = (.ok s, made)) :
    s.managed = true ∧ Held s { made.outside with session := some s } := by
  obtain ⟨retries, last, -, hmade, hgoes⟩ := hdial.connect_ok h
  obtain ⟨link, hlink, hopen⟩ := hmade.isOpen_after hgoes
  exact ⟨by rw [hmade.eq], link, by rw [← hlink], rfl, hopen.lt_dialCount⟩

private theorem standalone_once (w : World) (c : Connector) {device : String} {size : DisplaySize} (line : String)
    (h : scene.outside.session = some (standalone device size (some link))) :
    raw w c line scene = (Link.outcomeOf line (Link.exchange w link line scene.outside).1,
      { scene with outside := (Link.exchange w link line scene.outside).2 }) :=
  call_once h rfl fun _ _ => .inl rfl

/-- A command over a managed session, whatever was called on it before. Its link is closed and replaced just
when the link was lost; the command is then sent once more, over the new link, unless connecting was given up.
So it is written at most twice, on two links, and when it went well the current link agreed to it. An input is
the command with its line. Over a session of its own a command is sent once. -/
theorem command_repeated_once (w : World) (c : Connector) (hdial : c.DialsOnly) (device : String)
    (start : Scene Bench) (s : Session) (hmade : (c.connect w device start).1 = .ok s) (uses : List Use)
    (left : Nat) (cancelled : Bool) (moment : Option Nat) (line : String) :
    let made : Bench := { (c.connect w device start).2.outside with session := some s }
    let b := uses.foldl (Use.perform w c) made
    let scene : Scene Bench := ⟨left, cancelled, { b with cancelAfter := moment }⟩
    let run := raw w c line scene
    (∃ link events, b.Holds { s with link := some link } link ∧
      Delivery w c { s with link := some link } link line scene run ∧
      run.2.outside.past = b.past ++ events ∧
      (.closed link ∈ events ↔ (Link.exchange w link line b).1.isLost = true) ∧
      (line ≠ Connector.probeLine → line ≠ "done" → Link.written line events = [link] ∨
        ∃ link', link' ≠ link ∧ Link.written line events = [link, link']) ∧
      ∀ value, run.1 = .ok value → ∃ before current text,
        run.2.outside = (Link.exchange w current line before).2 ∧
        run.2.outside.past = before.past ++ [.sent current line] ∧
        run.2.outside.session = some { s with link := some current } ∧
        (Link.exchange w current line before).1 = .line text ∧ Link.Agrees text) ∧
    (∀ scene i, Link.lineOf i = .ok line →
      send w c i scene = ((raw w c line scene).1.map fun _ => (), (raw w c line scene).2)) ∧
    ∀ scene device size link, scene.outside.session = some (standalone device size (some link)) →
      raw w c line scene = (Link.outcomeOf line (Link.exchange w link line scene.outside).1,
        { scene with outside := (Link.exchange w link line scene.outside).2 }) := by
  intro made b scene run
  refine ⟨?_, fun scene i hline => send_eq_raw hline scene,
    fun scene device size link h => standalone_once w c line h⟩
  have hconnect : c.connect w device start = (.ok s, (c.connect w device start).2) := Prod.ext hmade rfl
  obtain ⟨hmanaged, hheld⟩ := held_of_connect hdial hconnect
  obtain ⟨link, hb⟩ := performAll_held hdial w hmanaged hheld uses
  have hscene : scene.outside.Holds { s with link := some link } link := ⟨hb.session, rfl, hb.dialled⟩
  have hdelivery := raw_delivery hdial w line hscene hmanaged
  obtain ⟨events, hpast, hclosed, hwritten⟩ := hdelivery.events hdial
  exact ⟨link, events, hb, hdelivery, hpast, hclosed, hwritten, fun value hok => hdelivery.ok hscene hok⟩

end Session

namespace LostLink

def made : Bench := { (connector.connect world "w" start).2.outside with session := some session }

def woken : Except Fault String × Scene Bench :=
  Session.raw world connector "wake" ⟨5, false, { made with cancelAfter := none }⟩

def alone : Scene Bench := { left := 5, outside := { session := some (.standalone "w" ⟨10, 20⟩ (some 1)) } }

end LostLink

theorem Session.command_repeated_once_lost :
    ((LostLink.connector.connect LostLink.world "w" LostLink.start).1 = .ok LostLink.session ∧
      LostLink.woken.1 = .ok "") ∧
    (.closed 1 ∈ LostLink.woken.2.outside.past ∧ ∃ before current text,
      LostLink.woken.2.outside = (Link.exchange LostLink.world current "wake" before).2 ∧
      LostLink.woken.2.outside.past = before.past ++ [.sent current "wake"] ∧
      LostLink.woken.2.outside.session = some { LostLink.session with link := some current } ∧
      (Link.exchange LostLink.world current "wake" before).1 = .line text ∧ Link.Agrees text) ∧
    (raw LostLink.world LostLink.connector "wake" LostLink.alone).2.outside.past = [.sent 1 "wake"] := by
  have hconnect : (LostLink.connector.connect LostLink.world "w" LostLink.start).1.toOption =
      some LostLink.session := by decide +kernel
  have hwoken : LostLink.woken.1.toOption = some "" := by decide +kernel
  have hmade := Act.eq_ok_of_toOption hconnect
  have hok := Act.eq_ok_of_toOption hwoken
  obtain ⟨⟨link, events, hholds, -, hpast, hclosed, -, hagreed⟩, -, hown⟩ :=
    command_repeated_once LostLink.world LostLink.connector (Connector.dialsOnly_dial _ _ _ _) "w"
      LostLink.start LostLink.session hmade [] 5 false none "wake"
  obtain rfl : 1 = link := Option.some.inj (congrArg Session.link (Option.some.inj hholds.session))
  refine ⟨⟨hmade, hok⟩, ⟨?_, hagreed "" hok⟩, ?_⟩
  · have hlate : .closed 1 ∈ events := hclosed.mpr rfl
    have hsplit : LostLink.woken.2.outside.past = LostLink.made.past ++ events := hpast
    rw [hsplit]
    exact List.mem_append_right _ hlate
  · rw [hown LostLink.alone "w" ⟨10, 20⟩ 1 rfl]
    rfl

end WatchTrial
