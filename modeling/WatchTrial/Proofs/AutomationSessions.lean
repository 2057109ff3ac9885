import WatchTrial.Proofs.AutomationLog
import WatchTrial.Proofs.AutomationRequests
import WatchTrial.Proofs.Links
import WatchTrial.Proofs.Triples
/-!
# The sessions of automators

However often watch faces are picked and left, and whatever the server answers, a handheld has at most one
automation session at a time, every request is made under the session that is held for its handheld, and a
session that the server denied, or that was ended, is never used again.
-/
namespace WatchTrial

def Bench.Unautomated (before after : Bench) : Prop :=
  Bench.Grew (fun e => e.isRequest = false) before after ∧ after.automators = before.automators

instance : IsPreorder Bench Bench.Unautomated where
  refl b := ⟨refl_of _ b, rfl⟩
  trans _ _ _ h h' := ⟨trans_of _ h.1 h'.1, h'.2.trans h.2⟩

theorem Bench.Unautomated.run (w : World) (argv : List String) (b : Bench) :
    Bench.Unautomated b (b.run w argv).2 := ⟨.run w (fun _ => rfl) b, rfl⟩

namespace Automator

namespace Usage

def events (u : Usage) : List Event := u.after.past.drop u.before.past.length

/-- The usage failed because the server no longer knows the session. -/
def Denied (u : Usage) : Prop := ∃ fault, u.fault = some fault ∧ fault.carries .invalidSession = true

/-- The usage opened a session: its one request was answered with the name of the session. -/
def Opened (server device session : String) (u : Usage) : Prop :=
  u.device = device ∧ u.use = .opening ∧ u.fault = none ∧ session ≠ "" ∧
    ∃ request status body, u.events = [.requested request (.complete status body)] ∧
      request.Opens server device ∧ status < 400 ∧ Reply.session? body = some session

end Usage

/-- By the usages so far, a handheld has a session: the last opening for the handheld gave it, and since then
it was neither denied nor ended. -/
def HasSession (server device session : String) (usages : List Usage) : Prop :=
  ∃ earlier opening later, usages = earlier ++ opening :: later ∧ opening.Opened server device session ∧
    ∀ u ∈ later, u.device = device → u.use = .working ∧ ¬ u.Denied

namespace HasSession

variable {server device session : String} {usages : List Usage} {u : Usage}

private theorem of_opened (h : u.Opened server device session) : HasSession server device session (usages ++ [u]) :=
  ⟨usages, u, [], rfl, h, by simp⟩

theorem ne_empty (h : HasSession server device session usages) : session ≠ "" := by
  obtain ⟨-, opening, -, -, hopened, -⟩ := h
  exact hopened.2.2.2.1

theorem concat (h : HasSession server device session usages)
    (hu : u.device = device → u.use = .working ∧ ¬ u.Denied) :
    HasSession server device session (usages ++ [u]) := by
  obtain ⟨earlier, opening, later, rfl, hopened, hlater⟩ := h
  refine ⟨earlier, opening, later ++ [u], by simp, hopened, fun v hv => ?_⟩
  rcases List.mem_append.mp hv with hv | hv
  · exact hlater v hv
  · obtain rfl := List.mem_singleton.mp hv
    exact hu

end HasSession

/-- What a usage keeps to, given the usages before it. -/
structure Usage.Orderly (server : String) (earlier : List Usage) (u : Usage) : Prop where
  /-- A session is only opened for a handheld that has none. -/
  opens : u.use = .opening → u.before.automators.lookup u.device = none ∧
    ∀ e ∈ u.events, ∃ request response, e = .requested request response ∧ request.Opens server u.device
  /-- What is used is the automator with the session that the handheld has, and all requests are under it. -/
  uses : u.use ≠ .opening → ∃ session, HasSession server u.device session earlier ∧
    u.before.automators.lookup u.device = some ⟨server, u.device, session⟩ ∧
    ∀ e ∈ u.events, ∃ request response, e = .requested request response ∧ request.Under server session
  /-- When the server denies the session, the usage ends there and its fault says so. -/
  heeds : ∀ before request response after, u.events = before ++ .requested request response :: after →
    response.Denies → after = [] ∧ u.Denied
  /-- A session is ended by asking the server to remove it. -/
  quits : u.use = .quitting → ∀ session address,
    u.before.automators.lookup u.device = some ⟨server, u.device, session⟩ →
    Web.Address.read (server ++ Automator.path ⟨server, u.device, session⟩ "") = .ok address →
    ∃ response, u.events = [.requested ⟨"DELETE", address.text, address.pathText, none⟩ response]

namespace Usage

variable {u : Usage} {server : String} {earlier : List Usage}

private theorem events_eq {events : List Event} (h : u.after.past = u.before.past ++ events) : u.events = events := by
  unfold Usage.events
  rw [h, List.drop_left]

private theorem of_requested {P : Request → Prop} (h : Bench.Requested P u.before u.after) :
    u.after.past = u.before.past ++ u.events ∧
      ∀ e ∈ u.events, ∃ request response, e = .requested request response ∧ P request := by
  obtain ⟨⟨events, hpast, hevents⟩, -⟩ := h
  rw [events_eq hpast]
  exact ⟨hpast, hevents⟩

private theorem of_heedsDenial {α : Type} {a : Act Bench α} (ha : a.HeedsDenial) {device : String} {use : Use}
    {b b' : Bench} {outcome : Except Fault α} (hrun : a b = (outcome, b')) {before after : List Event}
    {request : Request} {response : Response}
    (hsplit : events ⟨device, use, b, faultOf outcome, b'⟩ = before ++ .requested request response :: after)
    (hdenies : response.Denies) : after = [] ∧ Denied ⟨device, use, b, faultOf outcome, b'⟩ := by
  obtain ⟨events, hpast, hdenied⟩ := ha b
  rw [hrun] at hpast hdenied
  rw [events_eq hpast] at hsplit
  obtain ⟨hlast, fault, rfl, hcarries⟩ := hdenied before request response after hsplit hdenies
  exact ⟨hlast, fault, rfl, hcarries⟩

theorem Orderly.isRequest (h : u.Orderly server earlier) {e : Event} (he : e ∈ u.events) :
    e.isRequest = true := by
  by_cases huse : u.use = .opening
  · obtain ⟨request, response, rfl, -⟩ := (h.opens huse).2 e he
    rfl
  · obtain ⟨session, -, -, hunder⟩ := h.uses huse
    obtain ⟨request, response, rfl, -⟩ := hunder e he
    rfl

end Usage

def root (server : String) : String := (closed server "").server

end Automator

open Automator

namespace Logbook

variable {server device : String} {start : List Event} {r : Logbook} {b' : Bench} {u : Usage}

/-- The usages were orderly, and they account for all requests since the start. -/
structure Sound (server : String) (start : List Event) (r : Logbook) : Prop where
  log : ∀ earlier u later, r.usages = earlier ++ u :: later → u.Orderly server earlier
  requests : r.bench.past.filter Event.isRequest =
    start.filter Event.isRequest ++ r.usages.flatMap Usage.events

/-- Moreover a handheld has at most one automator, and that has the session of the handheld. -/
structure Orderly (server : String) (start : List Event) (r : Logbook) : Prop extends
    Sound server start r where
  keys : (r.bench.automators.map Prod.fst).Nodup
  held : ∀ device a, (device, a) ∈ r.bench.automators →
    a = ⟨server, device, a.session⟩ ∧ HasSession server device a.session r.usages

private theorem lookup_eq_some_iff_mem {held : List (String × Automator)} (hkeys : (held.map Prod.fst).Nodup)
    {a : Automator} : held.lookup device = some a ↔ (device, a) ∈ held := by
  rw [List.lookup_eq_some_iff]
  constructor
  · rintro ⟨before, after, rfl, -⟩
    exact List.mem_append_right _ List.mem_cons_self
  · intro hmem
    obtain ⟨before, after, rfl⟩ := List.append_of_mem hmem
    refine ⟨before, after, rfl, fun entry hentry => ?_⟩
    rw [List.map_append] at hkeys
    have hne := (List.nodup_append.mp hkeys).2.2 _ (List.mem_map_of_mem hentry) device (by simp)
    simpa using hne.symm

private theorem ne_of_lookup_eq_none {held : List (String × Automator)} (h : held.lookup device = none)
    {entry : String × Automator} (hentry : entry ∈ held) : device ≠ entry.1 := by
  simpa using List.lookup_eq_none_iff.mp h entry hentry

theorem Sound.concat (h : r.Sound server start) (hu : u.Orderly server r.usages) (hbefore : u.before = r.bench)
    (hpast : u.after.past = u.before.past ++ u.events) : Sound server start ⟨r.usages ++ [u], u.after⟩ where
  log earlier v later hsplit := by
    rcases concat_eq_split hsplit with ⟨rfl, rfl, -⟩ | ⟨rest, -, hsplit⟩
    · exact hu
    · exact h.log earlier v rest hsplit
  requests := by
    have hrequests : u.events.filter Event.isRequest = u.events :=
      List.filter_eq_self.mpr fun e he => hu.isRequest he
    simp only [hpast, hbefore, List.filter_append, h.requests, hrequests, List.flatMap_append,
      List.flatMap_singleton, List.append_assoc]

private theorem Sound.unautomated (h : r.Sound server start) (hb : Bench.Unautomated r.bench b') :
    Sound server start { r with bench := b' } where
  log := h.log
  requests := by
    obtain ⟨⟨events, hpast, hevents⟩, -⟩ := hb
    have hnone : events.filter Event.isRequest = [] := by
      refine List.filter_eq_nil_iff.mpr fun e he => ?_
      simp [hevents e he]
    rw [hpast, List.filter_append, hnone, List.append_nil, h.requests]

private theorem Orderly.unautomated (h : r.Orderly server start) (hb : Bench.Unautomated r.bench b') :
    Orderly server start { r with bench := b' } where
  toSound := h.toSound.unautomated hb
  keys := by
    rw [hb.2]
    exact h.keys
  held := by
    rw [hb.2]
    exact h.held

private theorem Orderly.held_concat (h : r.Orderly server start) {a : Automator}
    (hheld : (device, a) ∈ r.bench.automators) (hu : u.device = device → u.use = .working ∧ ¬ u.Denied) :
    a = ⟨server, device, a.session⟩ ∧ HasSession server device a.session (r.usages ++ [u]) := by
  obtain ⟨heq, hhas⟩ := h.held device a hheld
  exact ⟨heq, hhas.concat hu⟩

end Logbook

private theorem Act.logged_run {α : Type} {a : Act Bench α} {r : Logbook} {outcome : Except Fault α} {b' : Bench}
    (h : a r.bench = (outcome, b')) (device : String) (use : Use) :
    a.logged device use r = (outcome, ⟨r.usages ++ [⟨device, use, r.bench, faultOf outcome, b'⟩], b'⟩) := by
  unfold Act.logged
  rw [h]

namespace Handheld

variable {w : World} {adb : Adb} {server : String} {swipeAway : Task Bench Unit} {start : List Event}

/-- Whether a session is held already or has to be opened, the automator has the session of the handheld. -/
theorem automator_orderly (device : String) :
    Act.Triple (Logbook.Orderly (root server) start)
      ((atBench w adb server swipeAway).logged.automator device)
      (fun a r => r.Orderly (root server) start ∧ r.bench.automators.lookup device = some a)
      (Logbook.Orderly (root server) start) := by
  intro r hr
  cases hheld : r.bench.automators.lookup device with
  | some a =>
    rw [automator_held hheld]
    exact ⟨hr, hheld⟩
  | none =>
    have hwithin : ((closed server device).start w).Within (Bench.Requested (Request.Opens (root server) device)) :=
      start_of .within (ask_requested (fun _ hasks => hasks) w)
    have hheeds : ((closed server device).start w).HeedsDenial := start_of .heedsDenial (ask_heedsDenial _ _ _ _ _)
    rcases hrun : (closed server device).start w r.bench with ⟨outcome, b'⟩
    have hrequested := hwithin.of_run hrun
    -- the usage is orderly however it ended
    obtain ⟨hpast, hopens⟩ := Usage.of_requested (u := ⟨device, .opening, r.bench, faultOf outcome, b'⟩) hrequested
    have hu : Usage.Orderly (root server) r.usages ⟨device, .opening, r.bench, faultOf outcome, b'⟩ :=
      { opens := fun _ => ⟨hheld, hopens⟩
        uses := fun huse => absurd rfl huse
        heeds := fun _ _ _ _ => Usage.of_heedsDenial hheeds hrun
        quits := nofun }
    have hsound := hr.toSound.concat hu rfl hpast
    have hlogged := Act.logged_run hrun device .opening
    cases outcome with
    | error fault =>
      rw [automator_refused hheld hlogged]
      refine ⟨hsound, hrequested.2 ▸ hr.keys, fun device' a hmem => ?_⟩
      replace hmem : (device', a) ∈ r.bench.automators := hrequested.2 ▸ hmem
      exact hr.held_concat hmem fun hsame => absurd hsame (Logbook.ne_of_lookup_eq_none hheld hmem)
    | ok a =>
      obtain ⟨ha, hsession, request, status, text, hopened, hstatus, hread, rfl⟩ := start_ok hrun
      rw [automator_opened hheld hlogged]
      refine ⟨⟨⟨hsound.log, hsound.requests⟩, ?_, fun device' a' hmem => ?_⟩, List.lookup_cons_self⟩
      · refine List.nodup_cons.mpr ⟨fun hmem => ?_, hr.keys⟩
        obtain ⟨entry, hentry, hdevice⟩ := List.mem_map.mp hmem
        exact Logbook.ne_of_lookup_eq_none hheld hentry hdevice.symm
      · rcases List.mem_cons.mp hmem with hnew | hmem
        · obtain ⟨rfl, rfl⟩ := Prod.mk.inj hnew
          refine ⟨ha, .of_opened ⟨rfl, rfl, rfl, hsession, request, status, text, ?_, hopened, hstatus, hread⟩⟩
          exact Usage.events_eq rfl
        · exact hr.held_concat hmem fun hsame => absurd hsame (Logbook.ne_of_lookup_eq_none hheld hmem)

private theorem orDrop_orderly {β : Type} {device : String} {a : Automator} {x : Act Bench β}
    (hx : x.Within (Bench.Requested (Request.Under a.server a.session))) (hheeds : x.HeedsDenial) :
    Act.Triple (fun r => r.Orderly (root server) start ∧ r.bench.automators.lookup device = some a)
      ((atBench w adb server swipeAway).logged.orDrop device (x.logged a.handheld .working))
      (fun _ => Logbook.Orderly (root server) start) (Logbook.Orderly (root server) start) := by
  rintro r ⟨hr, hheld⟩
  obtain ⟨ha, hhas⟩ := hr.held device a ((Logbook.lookup_eq_some_iff_mem hr.keys).mp hheld)
  obtain ⟨session, rfl⟩ : ∃ session, a = ⟨root server, device, session⟩ := ⟨_, ha⟩
  rcases hrun : x r.bench with ⟨outcome, b'⟩
  have hrequested := hx.of_run hrun
  obtain ⟨hpast, hunder⟩ :=
    Usage.of_requested (u := ⟨device, .working, r.bench, faultOf outcome, b'⟩) hrequested
  have hu : Usage.Orderly (root server) r.usages ⟨device, .working, r.bench, faultOf outcome, b'⟩ :=
    { opens := nofun
      uses := fun _ => ⟨session, hhas, hheld, hunder⟩
      heeds := fun _ _ _ _ => Usage.of_heedsDenial hheeds hrun
      quits := nofun }
  have hsound := hr.toSound.concat hu rfl hpast
  have hlogged := Act.logged_run hrun device .working
  have hkept (hfault : ¬ Usage.Denied ⟨device, .working, r.bench, faultOf outcome, b'⟩) :
      Logbook.Orderly (root server) start
        ⟨r.usages ++ [⟨device, .working, r.bench, faultOf outcome, b'⟩], b'⟩ := by
    refine ⟨hsound, hrequested.2 ▸ hr.keys, fun device' a hmem => ?_⟩
    replace hmem : (device', a) ∈ r.bench.automators := hrequested.2 ▸ hmem
    exact hr.held_concat hmem fun _ => ⟨rfl, hfault⟩
  unfold orDrop
  rw [hlogged]
  cases outcome with
  | ok y => exact hkept (by rintro ⟨fault, hfault, -⟩; cases hfault)
  | error fault =>
    by_cases hcarries : fault.carries .invalidSession
    · simp only [hcarries, if_true]
      refine ⟨⟨hsound.log, hsound.requests⟩, ?_, fun device' a hmem => ?_⟩
      · have hkeys : (b'.automators.map Prod.fst).Nodup := hrequested.2 ▸ hr.keys
        exact hkeys.sublist (List.filter_sublist.map _)
      · obtain ⟨hmem, hother⟩ := List.mem_filter.mp hmem
        replace hmem : (device', a) ∈ r.bench.automators := hrequested.2 ▸ hmem
        have hne : device' ≠ device := by simpa using hother
        exact hr.held_concat hmem fun hsame => absurd hsame.symm hne
    · simp only [hcarries]
      refine hkept ?_
      rintro ⟨fault', hfault, hdenied⟩
      obtain rfl := Option.some.inj hfault
      exact hcarries hdenied

private theorem automate_orderly {β : Type} (device doing : String) {f : Automator → Act Bench β}
    (hf : ∀ a, (f a).Within (Bench.Requested (Request.Under a.server a.session))) (hheeds : ∀ a, (f a).HeedsDenial) :
    ((atBench w adb server swipeAway).logged.automate device doing
      fun a => (f a).logged a.handheld .working).Keeps (Logbook.Orderly (root server) start) :=
  .retryOnce (.bind (automator_orderly device) fun a => orDrop_orderly (hf a) (hheeds a)) doing

private theorem unlogged_orderly {α : Type} {a : Act Bench α} (ha : a.Within Bench.Unautomated) :
    a.unlogged.Keeps (Logbook.Orderly server start) :=
  .of_state fun r hr => hr.unautomated (ha r.bench)

private theorem unloggedTask_orderly {α : Type} {t : Task Bench α}
    (ht : Act.Within (Scene.Via Bench.Unautomated) t) :
    Act.Keeps (fun scene : Scene Logbook => scene.outside.Orderly server start) t.unlogged :=
  .of_state fun scene hr => hr.unautomated (ht (scene.seen Logbook.bench))

private theorem slept_orderly (duration : Int64) (r : Logbook) (hr : r.Orderly server start) :
    (Sleeper.slept duration r).Orderly server start := hr.unautomated ⟨.note r.bench rfl, rfl⟩

section Picking

variable (w adb server swipeAway start)

private theorem tried_orderly : (atBench w adb server swipeAway).logged.Tried
    fun _ a => a.Keeps (Logbook.Orderly (root server) start) :=
  have hask (a : Automator) (method suffix body) := ask_heedsDenial w a.server method (a.path suffix) body
  { pressKey := fun _ _ => unlogged_orderly (Adb.keyEvent_within w adb (Bench.Unautomated.run w _))
    launch := fun _ _ => unlogged_orderly (Adb.startActivity_within w adb (Bench.Unautomated.run w _))
    look := fun device doing s => automate_orderly device doing
      (fun a => isVisible_of .within (ask_under w a) s) fun a => isVisible_of .heedsDenial (hask a) s
    click := fun device doing s => automate_orderly device doing
      (fun a => click_of .within (ask_under w a) s) fun a => click_of .heedsDenial (hask a) s
    scrollToEnd := fun device doing s => automate_orderly device doing
      (fun a => scrollToEnd_of .within (ask_under w a) s) fun a => scrollToEnd_of .heedsDenial (hask a) s
    scrollTo := fun device doing s s' => automate_orderly device doing
      (fun a => scrollTo_of .within (ask_under w a) s s') fun a => scrollTo_of .heedsDenial (hask a) s s' }

private theorem select_orderly (timeouts : Timeouts) (device label : String) :
    Act.Keeps (fun scene : Scene Logbook => scene.outside.Orderly (root server) start)
      ((atBench w adb server swipeAway).logged.select timeouts device label) := by
  have htried := tried_orderly w adb server swipeAway start
  refine .bind (.task (.retryOnce (htried.pressKey device _) _)) fun _ => ?_
  refine .bind (.poll slept_orderly (fun _ => htried.lookForList .keeps device) _) fun _ => ?_
  exact .task (htried.pick .keeps device _)

private theorem deselect_orderly (hswipe : Act.Within (Scene.Via Bench.Unautomated) swipeAway) (timeouts : Timeouts)
    (device label : String) :
    Act.Keeps (fun scene : Scene Logbook => scene.outside.Orderly (root server) start)
      ((atBench w adb server swipeAway).logged.deselect timeouts device label) := by
  refine .bind (.pause slept_orderly _) fun _ => ?_
  refine .bind (unloggedTask_orderly hswipe) fun _ => ?_
  refine .bind (.pause slept_orderly _) fun _ => ?_
  exact select_orderly w adb server swipeAway start timeouts device _

end Picking

/-- Ends the sessions of all automators that are held, in some order, and holds none afterwards. -/
def closeIn {ω α : Type} (h : Handheld ω α) (order : List (String × α) → List (String × α)) : Act ω Unit :=
  fun o => h.close (h.hold (order (h.held o)) o)

private theorem quitAll_cons {ω α : Type} (h : Handheld ω α) (entry : String × α) (rest : List (String × α)) (o : ω) :
    (h.quitAll (entry :: rest) o).2 = (h.quitAll rest (h.quit entry.2 o).2).2 := by
  rw [quitAll]
  rcases h.quit entry.2 o with ⟨fault | x, o'⟩ <;> rfl

private theorem quit_sound {device session : String} {r : Logbook} (hr : r.Sound (root server) start)
    (hlookup : r.bench.automators.lookup device = some ⟨root server, device, session⟩)
    (hhas : HasSession (root server) device session r.usages) :
    ∃ u, u.device = device ∧ u.use = .quitting ∧ u.after.automators = r.bench.automators ∧
      Logbook.Sound (root server) start ⟨r.usages ++ [u], u.after⟩ ∧
      ((atBench w adb server swipeAway).logged.quit ⟨root server, device, session⟩ r).2 =
        ⟨r.usages ++ [u], u.after⟩ := by
  have hx : ((atBench w adb server swipeAway).quit ⟨root server, device, session⟩).Within
      (Bench.Requested (Request.Under (root server) session)) :=
    .bind (quit_of .within (ask_under w ⟨root server, device, session⟩)) fun _ => .pure _
  have hheeds : ((atBench w adb server swipeAway).quit ⟨root server, device, session⟩).HeedsDenial :=
    .bind (quit_of .heedsDenial fun _ _ _ => ask_heedsDenial _ _ _ _ _) fun _ => .of_silent fun _ => rfl
  rcases hrun : (atBench w adb server swipeAway).quit ⟨root server, device, session⟩ r.bench with ⟨outcome, b'⟩
  have hrequested := hx.of_run hrun
  obtain ⟨hpast, hunder⟩ :=
    Usage.of_requested (u := ⟨device, .quitting, r.bench, faultOf outcome, b'⟩) hrequested
  refine ⟨⟨device, .quitting, r.bench, faultOf outcome, b'⟩, rfl, rfl, hrequested.2, ?_, ?_⟩
  · refine hr.concat ⟨nofun, fun _ => ⟨session, hhas, hlookup, hunder⟩,
      fun _ _ _ _ => Usage.of_heedsDenial hheeds hrun, fun _ session' address hlookup' hread => ?_⟩ rfl hpast
    obtain rfl : session = session' := by simpa [hlookup] using hlookup'
    obtain ⟨response, hquit⟩ := quit_sends (a := ⟨root server, device, session⟩) hhas.ne_empty hread w r.bench
    have hafter : b' = r.bench.note (.requested ⟨"DELETE", address.text, address.pathText, none⟩ response) := by
      rw [← hquit, ← Act.bind_pure_state (Automator.quit w ⟨root server, device, session⟩) fun _ => ()]
      exact (congrArg Prod.snd hrun).symm
    exact ⟨response, Usage.events_eq (congrArg Bench.past hafter)⟩
  · exact congrArg Prod.snd (Act.logged_run hrun device .quitting)

variable (w adb swipeAway)

private theorem quitAll_sound (automators : List (String × Automator)) (r : Logbook)
    (hr : r.Sound (root server) start) (hkeys : (automators.map Prod.fst).Nodup)
    (hheld : ∀ device a, (device, a) ∈ automators → a = ⟨root server, device, a.session⟩ ∧
      r.bench.automators.lookup device = some a ∧ HasSession (root server) device a.session r.usages) :
    ((atBench w adb server swipeAway).logged.quitAll automators r).2.Sound (root server) start ∧
      ∃ quits, ((atBench w adb server swipeAway).logged.quitAll automators r).2.usages = r.usages ++ quits ∧
        quits.map (fun u => (u.device, u.use)) = automators.map fun entry => (entry.1, .quitting) := by
  induction automators generalizing r with
  | nil => exact ⟨hr, [], by simp [quitAll], rfl⟩
  | cons entry rest ih =>
    obtain ⟨device, a⟩ := entry
    obtain ⟨ha, hlookup, hhas⟩ := hheld device a List.mem_cons_self
    obtain ⟨session, rfl⟩ : ∃ session, a = ⟨root server, device, session⟩ := ⟨_, ha⟩
    obtain ⟨u, rfl, huse, hautomators, hsound, hquit⟩ := quit_sound hr hlookup hhas
    obtain ⟨hfresh, hkeys⟩ := List.nodup_cons.mp hkeys
    rw [quitAll_cons, hquit]
    -- the others keep their sessions, as their handhelds are others
    obtain ⟨hrest, quits, husages, hquits⟩ := ih _ hsound hkeys fun device' a hmem => by
      obtain ⟨ha', hlookup', hhas'⟩ := hheld device' a (List.mem_cons_of_mem _ hmem)
      refine ⟨ha', hautomators ▸ hlookup', hhas'.concat fun hsame => absurd ?_ hfresh⟩
      exact List.mem_map.mpr ⟨(device', a), hmem, hsame.symm⟩
    refine ⟨hrest, u :: quits, by rw [husages, List.append_assoc, List.singleton_append], ?_⟩
    rw [List.map_cons, List.map_cons, hquits, huse]

/-- Closing quits each automator that is held once, in whatever order, and none is held afterwards. -/
theorem closeIn_orderly {order : List (String × Automator) → List (String × Automator)}
    (horder : ∀ held, (order held).Perm held) {r : Logbook} (hr : r.Orderly (root server) start) :
    ((atBench w adb server swipeAway).logged.closeIn order r).2.Orderly (root server) start ∧
      ((atBench w adb server swipeAway).logged.closeIn order r).2.bench.automators = [] ∧
      ∃ quits, ((atBench w adb server swipeAway).logged.closeIn order r).2.usages = r.usages ++ quits ∧
        quits.map (fun u => (u.device, u.use)) =
          (order r.bench.automators).map fun entry => (entry.1, .quitting) := by
  have hperm := horder r.bench.automators
  have hkeys : ((order r.bench.automators).map Prod.fst).Nodup := (hperm.map _).nodup_iff.mpr hr.keys
  let r' : Logbook := { r with bench := { r.bench with automators := order r.bench.automators } }
  obtain ⟨hsound, quits, husages, hquits⟩ :=
    quitAll_sound w adb swipeAway (order r.bench.automators) r' ⟨hr.log, hr.requests⟩ hkeys
      fun device a hmem => by
        obtain ⟨ha, hhas⟩ := hr.held device a (hperm.mem_iff.mp hmem)
        exact ⟨ha, (Logbook.lookup_eq_some_iff_mem hkeys).mpr hmem, hhas⟩
  exact ⟨⟨⟨hsound.log, hsound.requests⟩, List.nodup_nil, nofun⟩, rfl, quits,
    husages, hquits⟩

end Handheld

/-- What the one who picks watch faces is called for. Closing may go through the automators in any order. -/
inductive Handheld.Call (α : Type) where
  | select (device label : String)
  | deselect (device label : String)
  | close (order : List (String × α) → List (String × α)) (isOrder : ∀ held, (order held).Perm held)

/-- A call, with how long it may go on and whether it is cancelled from the start. -/
structure Handheld.Turn (α : Type) where
  call : Call α
  left : Nat
  cancelled : Bool

namespace Handheld

section Turns

variable {ω α : Type} [Sleeper ω]

def Call.perform (h : Handheld ω α) (timeouts : Timeouts) : Call α → Task ω Unit
  | select device label => h.select timeouts device label
  | deselect device label => h.deselect timeouts device label
  | close order _ => (h.closeIn order).task

def Turn.take (h : Handheld ω α) (timeouts : Timeouts) (o : ω) (turn : Turn α) : ω :=
  (turn.call.perform h timeouts ⟨turn.left, turn.cancelled, o⟩).2.outside

def Turn.takeAll (h : Handheld ω α) (timeouts : Timeouts) (turns : List (Turn α)) (o : ω) : ω :=
  turns.foldl (Turn.take h timeouts) o

variable {ω' : Type} [Sleeper ω'] {view : ω' → ω} {h' : Handheld ω' α} {h : Handheld ω α}

omit [Sleeper ω] [Sleeper ω'] in
private theorem SeenAs.closeIn (hh : SeenAs view h' h) (order : List (String × α) → List (String × α)) :
    Act.SeenAs view (h'.closeIn order) (h.closeIn order) := by
  intro o
  unfold Handheld.closeIn
  rw [hh.held, hh.hold, hh.close]

theorem SeenAs.takeAll (hh : SeenAs view h' h) (hview : Sleeper.SeenAs view) (timeouts : Timeouts)
    (turns : List (Turn α)) (o : ω') :
    Turn.takeAll h timeouts turns (view o) = view (Turn.takeAll h' timeouts turns o) := by
  have hperform (call : Call α) :
      Act.SeenAs (Scene.seen view) (call.perform h' timeouts) (call.perform h timeouts) := by
    cases call with
    | select device label => exact hh.select hview timeouts device label
    | deselect device label => exact hh.deselect hview timeouts device label
    | close order _ => exact (hh.closeIn order).task
  unfold Turn.takeAll
  induction turns generalizing o with
  | nil => rfl
  | cons turn rest ih =>
    have htake : Turn.take h timeouts (view o) turn = view (Turn.take h' timeouts o turn) := by
      have hrun := hperform turn.call ⟨turn.left, turn.cancelled, o⟩
      exact congrArg (fun run => run.2.outside) hrun
    rw [List.foldl_cons, List.foldl_cons, htake, ih]

end Turns

variable {w : World} {adb : Adb} {server : String} {swipeAway : Task Bench Unit}

private theorem takeAll_orderly (hswipe : Act.Within (Scene.Via Bench.Unautomated) swipeAway) {start : List Event}
    (timeouts : Timeouts) (turns : List (Turn Automator)) {r : Logbook} (hr : r.Orderly (root server) start) :
    (Turn.takeAll (atBench w adb server swipeAway).logged timeouts turns r).Orderly (root server) start := by
  have hperform (call : Call Automator) :
      Act.Keeps (fun scene : Scene Logbook => scene.outside.Orderly (root server) start)
        (call.perform (atBench w adb server swipeAway).logged timeouts) := by
    cases call with
    | select device label => exact select_orderly w adb server swipeAway start timeouts device label
    | deselect device label => exact deselect_orderly w adb server swipeAway start hswipe timeouts device label
    | close order isOrder => exact .task (.of_state fun r hr => (closeIn_orderly w adb swipeAway isOrder hr).1)
  unfold Turn.takeAll
  induction turns generalizing r with
  | nil => exact hr
  | cons turn rest ih =>
    have htake := (hperform turn.call).state (o := ⟨turn.left, turn.cancelled, r⟩) hr
    exact ih htake

/-- A usage of an automator that comes after another one of the same automator: the first was neither denied
nor the end of the session. -/
theorem not_denied_of_used_again {usages earlier between later : List Usage} {u v : Usage}
    (hlog : ∀ earlier u later, usages = earlier ++ u :: later → u.Orderly server earlier)
    (hsplit : usages = earlier ++ u :: (between ++ v :: later)) (hdevice : u.device = v.device)
    (hu : u.use ≠ .opening) (hv : v.use ≠ .opening)
    (hbetween : ∀ x ∈ between, ∀ session, ¬ x.Opened server v.device session) :
    ¬ u.Denied ∧ u.use ≠ .quitting := by
  obtain ⟨session, ⟨before, opening, after, hafter, hopened, hsince⟩, -⟩ :=
    (hlog (earlier ++ u :: between) v later (by simp [hsplit])).uses hv
  -- the opening that gave the session of `v` lies before `u`
  rcases List.append_eq_append_iff.mp hafter with ⟨rest, hbefore, hrest⟩ | ⟨rest, hearlier, hrest⟩
  · cases rest with
    | nil =>
      obtain ⟨rfl, -⟩ := List.cons.inj (by simpa using hrest)
      exact absurd hopened.2.1 hu
    | cons x rest =>
      obtain ⟨rfl, rfl⟩ := List.cons.inj hrest
      exact absurd hopened (hbetween opening (by simp) session)
  · cases rest with
    | nil =>
      obtain ⟨rfl, -⟩ := List.cons.inj (by simpa using hrest)
      exact absurd hopened.2.1 hu
    | cons x rest =>
      obtain ⟨rfl, rfl⟩ := List.cons.inj hrest
      obtain ⟨hworking, hdenied⟩ := hsince u (by simp) hdevice
      exact ⟨hdenied, by rw [hworking]; nofun⟩

end Handheld

/-! A server that denies every session but the latest one, and that gives each session one more letter. -/
namespace ForgetfulServer

def opened (past : List Event) : Nat :=
  past.countP fun e =>
    match e with
    | .requested r _ => r.path == "/session"
    | _ => false

def name (past : List Event) : String := String.ofList (List.replicate (opened past) 's')

def world : World where
  finds _ := true
  run _ _ := {}
  start _ _ := none
  dial _ _ := none
  write _ _ _ := .arrived "OK\n" "end of file"
  request past r :=
    if r.path = "/session" then
      .complete 200 ("\x7b\"value\":\x7b\"sessionId\":\"s" ++ name past ++ "\"\x7d\x7d")
    else if r.path = "/session/" ++ name past ++ "/elements" then
      .complete 200 "\x7b\"value\":[\x7b\"ELEMENT\":\"e\"\x7d]\x7d"
    else if r.path.startsWith ("/session/" ++ name past ++ "/") then .complete 200 "\x7b\"value\":false\x7d"
    else .complete 404 "\x7b\"value\":\x7b\"error\":\"invalid session id\"\x7d\x7d"
  scratch := ""

/-- The handheld `h` is used again after `k` got a session. -/
def turns : List (Handheld.Turn Automator) :=
  [⟨.select "h" "L", 5, false⟩, ⟨.select "k" "L", 5, false⟩, ⟨.deselect "h" "", 5, false⟩,
    ⟨.close List.reverse List.reverse_perm, 0, false⟩]

def log : Logbook :=
  Handheld.Turn.takeAll (Handheld.atBench world {} "http://a/" (pure ())).logged {} turns ⟨[], {}⟩

end ForgetfulServer

end WatchTrial
