import Mathlib.Data.List.TakeWhile
import WatchTrial.Device.Address
import WatchTrial.Proofs.Connecting
/-!
# Network addresses

A device id is a network address when it is written as a host, a colon and a port, or with brackets around the host,
which may then hold colons. Everything else is a serial. Connecting reaches a device by the command for it only when
its id is an address, and then does so at the start of every attempt.
-/
namespace WatchTrial

section Writing

variable {cs host port : List Char}

def IsPort (port : List Char) : Prop := ∃ n, Text.IsDecimal port n ∧ Fits64 n

/-- A text is the address of a port at a host that has a name. -/
inductive IsAddress : List Char → Prop
  | plain {host port : List Char} (hne : host ≠ []) (hcolon : ':' ∉ host) (hopen : '[' ∉ host) (hclose : ']' ∉ host)
      (hport : IsPort port) : IsAddress (host ++ ':' :: port)
  | bracketed {host port : List Char} (hne : host ≠ []) (hopen : '[' ∉ host) (hclose : ']' ∉ host)
      (hport : IsPort port) : IsAddress ('[' :: host ++ ']' :: ':' :: port)

private theorem isOk_readInt64_iff : (Text.readInt64 port).isOk = true ↔ IsPort port := by
  constructor
  · intro hok
    cases hread : Text.readInt64 port with
    | error why => simp [hread, Except.isOk, Except.toBool] at hok
    | ok v => exact ⟨v.toInt, Text.readInt64_ok_iff.mp hread, Fits64.toInt v⟩
  · rintro ⟨n, hdecimal, hfits⟩
    rw [← hfits.toInt_ofInt] at hdecimal
    rw [Text.readInt64_ok_iff.mpr hdecimal]
    rfl

def Unmarked (cs : List Char) : Prop := ':' ∉ cs ∧ '[' ∉ cs ∧ ']' ∉ cs

private theorem IsPort.unmarked (h : IsPort port) : Unmarked port := by
  obtain ⟨n, hdecimal, -⟩ := h
  exact ⟨hdecimal.not_mem rfl (by decide) (by decide), hdecimal.not_mem rfl (by decide) (by decide),
    hdecimal.not_mem rfl (by decide) (by decide)⟩

private theorem any_isBracket_eq_false_iff : cs.any isBracket = false ↔ '[' ∉ cs ∧ ']' ∉ cs := by
  simp only [List.any_eq_false, isBracket, Bool.or_eq_true, beq_iff_eq, not_or]
  constructor
  · exact fun h => ⟨fun hc => (h _ hc).1 rfl, fun hc => (h _ hc).2 rfl⟩
  · rintro ⟨hopen, hclose⟩ c hc
    exact ⟨fun heq => hopen (heq ▸ hc), fun heq => hclose (heq ▸ hc)⟩

private theorem dropWhile_ne_eq_cons_iff {sep : Char} {rest : List Char} :
    cs.dropWhile (· != sep) = sep :: rest ∧ cs.takeWhile (· != sep) = host ↔ cs = host ++ sep :: rest ∧ sep ∉ host := by
  constructor
  · rintro ⟨hdrop, rfl⟩
    refine ⟨?_, fun hmem => ?_⟩
    · rw [← hdrop, List.takeWhile_append_dropWhile]
    · have hsep := List.mem_takeWhile_imp hmem
      simp at hsep
  · rintro ⟨rfl, hsep⟩
    exact (Text.span_append hsep rest).symm

private theorem hostAndPort?_bracketed_iff : hostAndPort? ('[' :: cs) = some (host, port) ↔
    cs = host ++ ']' :: ':' :: port ∧ '[' ∉ host ∧ ']' ∉ host ∧ Unmarked port := by
  have hguard (host port : List Char) :
      (host.contains '[' || port.contains ':' || port.any isBracket) = false ↔ '[' ∉ host ∧ Unmarked port := by
    simp only [Bool.or_eq_false_iff, any_isBracket_eq_false_iff, Unmarked, List.contains_eq_mem,
      decide_eq_false_iff_not, and_assoc]
  rw [hostAndPort?]
  constructor
  · intro h
    split at h
    next port' hdrop =>
      obtain ⟨hcs, hclose⟩ := dropWhile_ne_eq_cons_iff.mp ⟨hdrop, rfl⟩
      split at h
      next => cases h
      next hclear =>
        cases h
        obtain ⟨hopen, hport⟩ := (hguard _ _).mp (Bool.eq_false_iff.mpr hclear)
        exact ⟨hcs, hopen, hclose, hport⟩
    next => cases h
  · rintro ⟨hcs, hopen, hclose, hport⟩
    obtain ⟨hdrop, htake⟩ := dropWhile_ne_eq_cons_iff.mpr ⟨hcs, hclose⟩
    simp only [hdrop, htake, (hguard host port).mpr ⟨hopen, hport⟩, Bool.false_eq_true, if_false]

private theorem hostAndPort?_plain_iff (hhead : cs.head? ≠ some '[') : hostAndPort? cs = some (host, port) ↔
    cs = host ++ ':' :: port ∧ ':' ∉ host ∧ '[' ∉ host ∧ ']' ∉ host ∧ Unmarked port := by
  have hguard (host port : List Char) : (port.contains ':' || host.any isBracket || port.any isBracket) = false ↔
      ('[' ∉ host ∧ ']' ∉ host) ∧ Unmarked port := by
    simp only [Bool.or_eq_false_iff, any_isBracket_eq_false_iff, Unmarked, List.contains_eq_mem,
      decide_eq_false_iff_not]
    exact ⟨fun h => ⟨h.1.2, h.1.1, h.2⟩, fun h => ⟨⟨h.2.1, h.1⟩, h.2.2⟩⟩
  unfold hostAndPort?
  split
  next => exact absurd rfl hhead
  next =>
    constructor
    · intro h
      dsimp only at h
      split at h
      next port' hdrop =>
        obtain ⟨hcs, hcolon⟩ := dropWhile_ne_eq_cons_iff.mp ⟨hdrop, rfl⟩
        split at h
        next => cases h
        next hclear =>
          cases h
          obtain ⟨⟨hopen, hclose⟩, hport⟩ := (hguard _ _).mp (Bool.eq_false_iff.mpr hclear)
          exact ⟨hcs, hcolon, hopen, hclose, hport⟩
      next => cases h
    · rintro ⟨hcs, hcolon, hopen, hclose, hport⟩
      obtain ⟨hdrop, htake⟩ := dropWhile_ne_eq_cons_iff.mpr ⟨hcs, hcolon⟩
      simp only [hdrop, htake, (hguard host port).mpr ⟨⟨hopen, hclose⟩, hport⟩, Bool.false_eq_true, if_false]

private theorem isNetworkAddress_eq_true_iff {id : String} : isNetworkAddress id = true ↔
    ∃ host port, hostAndPort? id.toList = some (host, port) ∧ host ≠ [] ∧ IsPort port := by
  unfold isNetworkAddress
  cases hparts : hostAndPort? id.toList with
  | none => simp
  | some parts =>
    simp only [Bool.and_eq_true, Bool.not_eq_true', List.isEmpty_eq_false_iff, isOk_readInt64_iff]
    constructor
    · exact fun h => ⟨parts.1, parts.2, rfl, h⟩
    · rintro ⟨host, port, heq, h⟩
      cases heq
      exact h

private theorem isNetworkAddress_iff (id : String) : isNetworkAddress id = true ↔ IsAddress id.toList := by
  rw [isNetworkAddress_eq_true_iff]
  generalize id.toList = cs
  by_cases hhead : cs.head? = some '['
  · obtain ⟨rest, rfl⟩ := List.head?_eq_some_iff.mp hhead
    constructor
    · rintro ⟨host, port, hparts, hne, hport⟩
      obtain ⟨rfl, hopen, hclose, -⟩ := hostAndPort?_bracketed_iff.mp hparts
      exact .bracketed hne hopen hclose hport
    · generalize hcs : '[' :: rest = cs
      intro haddress
      cases haddress with
      | plain hne hcolon hopen hclose hport =>
        -- a host without brackets does not begin with one
        obtain ⟨c, host, rfl⟩ := List.exists_cons_of_ne_nil hne
        obtain ⟨rfl, -⟩ := List.cons.inj hcs
        exact absurd List.mem_cons_self hopen
      | bracketed hne hopen hclose hport =>
        exact ⟨_, _, hostAndPort?_bracketed_iff.mpr ⟨rfl, hopen, hclose, hport.unmarked⟩, hne, hport⟩
  · constructor
    · rintro ⟨host, port, hparts, hne, hport⟩
      obtain ⟨rfl, hcolon, hopen, hclose, -⟩ := (hostAndPort?_plain_iff hhead).mp hparts
      exact .plain hne hcolon hopen hclose hport
    · intro haddress
      cases haddress with
      | plain hne hcolon hopen hclose hport =>
        exact ⟨_, _, (hostAndPort?_plain_iff hhead).mpr ⟨rfl, hcolon, hopen, hclose, hport.unmarked⟩, hne, hport⟩
      | bracketed => exact absurd rfl hhead

end Writing

section Connecting

open Bench

private theorem exists_mem_splitOnP {α : Type} {p : α → Bool} {xs : List α} {x : α} (hx : x ∈ xs) (hp : p x = false) :
    ∃ piece ∈ xs.splitOnP p, x ∈ piece := by
  induction xs with
  | nil => cases hx
  | cons y rest ih =>
    rw [List.splitOnP_cons_eq_if_modifyHead]
    obtain ⟨first, later, hsplit⟩ := List.exists_cons_of_ne_nil (List.splitOnP_ne_nil p rest)
    rcases List.mem_cons.mp hx with rfl | hx
    · rw [if_neg (by simp [hp]), hsplit]
      exact ⟨x :: first, List.mem_cons_self, List.mem_cons_self⟩
    · obtain ⟨piece, hpiece, hmem⟩ := ih hx
      split
      · exact ⟨piece, List.mem_cons_of_mem _ hpiece, hmem⟩
      · rw [hsplit] at hpiece ⊢
        rcases List.mem_cons.mp hpiece with rfl | hpiece
        · exact ⟨y :: piece, List.mem_cons_self, List.mem_cons_of_mem y hmem⟩
        · exact ⟨piece, List.mem_cons_of_mem _ hpiece, hmem⟩

/-- The event is a run of the command that connects the device of an id. -/
def Event.Connects (adb : Adb) (id : String) : Event → Prop
  | .ran argv _ => argv = adb.command "" ["connect", id]
  | _ => False

private theorem Adb.not_connects {args : List String} (hdevice : args.head? ≠ some "-s")
    (hother : args.head? ≠ some "connect") (adb : Adb) (device id : String) (answer : Answer) :
    ¬ (Event.ran (adb.command device args) answer).Connects adb id := by
  intro hconnects
  obtain ⟨-, rfl⟩ := adb.command_inj hdevice (by simp) hconnects
  exact hother rfl

private theorem Event.Prepares.not_connects {adb : Adb} {device : String} {e : Event} (h : e.Prepares adb device)
    (id : String) : ¬ e.Connects adb id := by
  cases e with
  | ran argv answer =>
    obtain ⟨ports, rfl⟩ := h
    exact adb.not_connects (by simp) (by simp) device id answer
  | _ => exact not_false

namespace Connector

variable {w : World} {c : Connector} {device : String} {past events : List Event}

/-- The attempt begins by reaching the device, if it has to be reached, and connects nothing after that. -/
def ReachesFirst (c : Connector) (device : String) (attempt : List Event) : Prop :=
  ∃ reached rest, c.Reached device reached ∧ attempt = reached ++ rest ∧ ∀ e ∈ rest, ∀ id, ¬ e.Connects c.adb id

private theorem Dialled.reachesFirst {rest : List Event} (h : c.Dialled device events)
    (hrest : ∀ e ∈ rest, ∀ id, ¬ e.Connects c.adb id) : c.ReachesFirst device (events ++ rest) := by
  obtain ⟨reached, prepared, hreached, hprepared, rfl⟩ := h
  refine ⟨reached, prepared ++ [.dialled device none] ++ rest, hreached, by simp, ?_⟩
  intro e he id
  simp only [List.mem_append, List.mem_singleton] at he
  rcases he with (he | rfl) | he
  · exact (hprepared e he).not_connects id
  · exact not_false
  · exact hrest e he id

private theorem FailedAttempt.reachesFirst (h : c.FailedAttempt device past events) : c.ReachesFirst device events := by
  cases h with
  | unreached answer hnetwork =>
    have hreached : c.Reached device [.ran (c.adb.command "" ["connect", device]) answer] := by simp [Reached, hnetwork]
    exact ⟨_, [], hreached, (List.append_nil _).symm, by simp⟩
  | undialled hreached hprepared hdialling =>
    refine ⟨_, _, hreached, rfl, fun e he id => ?_⟩
    rcases hdialling with rfl | ⟨why, rfl⟩
    · exact (hprepared e he).not_connects id
    · rcases List.mem_append.mp he with he | he
      · exact (hprepared e he).not_connects id
      · obtain rfl := List.mem_singleton.mp he
        exact not_false
  | unanswered hdialled =>
    refine hdialled.reachesFirst fun e he id => ?_
    simp only [List.mem_cons, List.not_mem_nil, or_false] at he
    rcases he with rfl | rfl | rfl <;> exact not_false
  | unsized answer hdialled =>
    refine hdialled.reachesFirst fun e he id => ?_
    simp only [List.mem_cons, List.not_mem_nil, or_false] at he
    rcases he with rfl | rfl | rfl | rfl
    · exact not_false
    · exact c.adb.not_connects (by simp) (by simp) device id answer
    all_goals exact not_false

private theorem SuccessfulAttempt.reachesFirst {s : Session} (h : c.SuccessfulAttempt w device past events s) :
    c.ReachesFirst device events := by
  obtain ⟨dialled, answer, hdialled, rfl, -⟩ := h
  refine hdialled.reachesFirst fun e he id => ?_
  simp only [List.mem_cons, List.not_mem_nil, or_false] at he
  rcases he with rfl | rfl
  · exact not_false
  · exact c.adb.not_connects (by simp) (by simp) device id answer

private theorem ReachesFirst.of_address {attempt : List Event} (h : c.ReachesFirst device attempt)
    (haddress : IsAddress device.toList) : ∃ e rest, attempt = e :: rest ∧ e.Connects c.adb device ∧
      ∀ later ∈ rest, ∀ id, ¬ later.Connects c.adb id := by
  obtain ⟨reached, rest, hreached, rfl, hrest⟩ := h
  rw [Reached, if_pos ((isNetworkAddress_iff device).mpr haddress)] at hreached
  obtain ⟨answer, rfl⟩ := hreached
  exact ⟨_, rest, rfl, rfl, hrest⟩

private theorem ReachesFirst.connects {attempt : List Event} (h : c.ReachesFirst device attempt) {e : Event}
    (he : e ∈ attempt) {id : String} (hconnects : e.Connects c.adb id) : id = device ∧ IsAddress device.toList := by
  obtain ⟨reached, rest, hreached, rfl, hrest⟩ := h
  rcases List.mem_append.mp he with he | he
  · unfold Reached at hreached
    split at hreached
    next hnetwork =>
      obtain ⟨answer, rfl⟩ := hreached
      obtain rfl := List.mem_singleton.mp he
      obtain ⟨-, hargs⟩ := Adb.command_inj (by simp) (by simp) hconnects
      have hid : device = id := by simpa using hargs
      exact ⟨hid.symm, (isNetworkAddress_iff device).mp hnetwork⟩
    next =>
      subst hreached
      cases he
  · exact absurd hconnects (hrest e he id)

/-- Between the pauses of a row of events stand attempts, or nothing. -/
def Attempts (c : Connector) (device : String) (events : List Event) : Prop :=
  ∀ attempt ∈ events.splitOnP Event.isPause, attempt = [] ∨ c.ReachesFirst device attempt

private theorem attempts_of_pauseless (hpauseless : ∀ e ∈ events, e.isPause = false)
    (h : events = [] ∨ c.ReachesFirst device events) : c.Attempts device events := by
  intro attempt hattempt
  rw [List.splitOnP_eq_singleton hpauseless, List.mem_singleton] at hattempt
  exact hattempt ▸ h

theorem Attempts.append {first later : List Event} (hfirst : c.Attempts device first)
    (hlater : c.Attempts device later) : c.Attempts device (first ++ .slept c.delay :: later) := by
  intro attempt hattempt
  rw [List.splitOnP_append_cons first later rfl, List.mem_append] at hattempt
  exact hattempt.elim (hfirst attempt) (hlater attempt)

theorem FailedAttempt.attempts (h : c.FailedAttempt device past events) : c.Attempts device events :=
  attempts_of_pauseless (fun e he => (h.ofAttempt e he).pauseless) (.inr h.reachesFirst)

private theorem Retries.attempts_append {retries later : List Event} (h : c.Retries device past retries)
    (hlater : c.Attempts device later) : c.Attempts device (retries ++ later) := by
  induction h with
  | none => exact hlater
  | again hfailed hrest ih =>
    rw [List.append_assoc, List.append_assoc, List.singleton_append]
    exact hfailed.attempts.append ih

private theorem Attempts.connects (h : c.Attempts device events) {e : Event} (he : e ∈ events) {id : String}
    (hconnects : e.Connects c.adb id) : id = device ∧ IsAddress device.toList := by
  have hpause : e.isPause = false := by
    cases e <;> first | rfl | cases hconnects
  obtain ⟨attempt, hattempt, hmem⟩ := exists_mem_splitOnP he hpause
  rcases h attempt hattempt with rfl | hreaches
  · cases hmem
  · exact hreaches.connects hmem hconnects

/-- Connecting makes attempts with pauses between them, and the first of them at once unless the run has been
cancelled. -/
theorem DialsOnly.connect_attempts (hdial : c.DialsOnly) (w : World) (device : String) (scene : Scene Bench) :
    ∃ events, (c.connect w device scene).2.outside.past = scene.outside.past ++ events ∧ c.Attempts device events ∧
      (scene.interrupted = false → ∃ attempt rest, c.ReachesFirst device attempt ∧ events = attempt ++ rest) := by
  obtain ⟨retries, hretries, hend⟩ := hdial.connect_course w device scene
  -- the first attempt is the first one that failed, or the last one
  have hfirst {last rest : List Event} (hlast : c.ReachesFirst device last ∨ last = [] ∧ scene.CancelledBy retries)
      (hgoing : scene.interrupted = false) :
      ∃ attempt more, c.ReachesFirst device attempt ∧ retries ++ last ++ rest = attempt ++ more := by
    cases hretries with
    | none =>
      rcases hlast with hlast | ⟨-, hcancelled⟩
      · exact ⟨last, rest, hlast, by simp⟩
      · have hinterrupted : scene.interrupted = true := Scene.cancelledBy_nil.mp hcancelled
        rw [hgoing] at hinterrupted
        cases hinterrupted
    | @again _ failed more hfailed _ =>
      exact ⟨failed, [.slept c.delay] ++ more ++ last ++ rest, hfailed.reachesFirst, by simp only [List.append_assoc]⟩
  rcases hend with ⟨s, last, -, hmade, hgoes⟩ | ⟨last, -, hlast, hcut⟩
  · have hattempts : c.Attempts device last :=
      attempts_of_pauseless (fun e he => (hmade.ofAttempt e he).pauseless) (.inr hmade.reachesFirst)
    refine ⟨retries ++ last, hgoes.past, hretries.attempts_append hattempts, fun hgoing => ?_⟩
    simpa using @hfirst last [] (.inl hmade.reachesFirst) hgoing
  · have hattempts : c.Attempts device last := by
      rcases hlast with hfailed | ⟨rfl, -⟩
      · exact hfailed.attempts
      · exact attempts_of_pauseless (by simp) (.inl rfl)
    have hnone : c.Attempts device [] := attempts_of_pauseless (by simp) (.inl rfl)
    refine ⟨retries ++ last ++ [.slept c.delay], hcut.past, ?_, hfirst (hlast.imp_left FailedAttempt.reachesFirst)⟩
    rw [List.append_assoc]
    exact hretries.attempts_append (hattempts.append hnone)

/-- An id is a network address just when it is written as one. Connecting runs the command that connects a device for
no other id than the one of the device, and for this one only if it is an address. Then the command stands at the
start of every attempt and nowhere else, and an attempt is made at once unless the run has been cancelled. -/
theorem network_addresses_connected (device : String) :
    (isNetworkAddress device = true ↔ IsAddress device.toList) ∧
    ∀ (w : World) (c : Connector) (scene : Scene Bench), c.DialsOnly →
      ∃ events, (c.connect w device scene).2.outside.past = scene.outside.past ++ events ∧
        (∀ e ∈ events, ∀ id, e.Connects c.adb id → id = device ∧ IsAddress device.toList) ∧
        (IsAddress device.toList →
          (∀ attempt ∈ events.splitOnP Event.isPause, attempt ≠ [] →
            ∃ e rest, attempt = e :: rest ∧ e.Connects c.adb device ∧
              ∀ later ∈ rest, ∀ id, ¬ later.Connects c.adb id) ∧
          (scene.interrupted = false → ∃ e rest, events = e :: rest ∧ e.Connects c.adb device)) := by
  refine ⟨isNetworkAddress_iff device, fun w c scene hdial => ?_⟩
  obtain ⟨events, hpast, hattempts, hfirst⟩ := hdial.connect_attempts w device scene
  refine ⟨events, hpast, fun e he id hconnects => hattempts.connects he hconnects, fun haddress => ⟨?_, ?_⟩⟩
  · intro attempt hattempt hne
    exact ((hattempts attempt hattempt).resolve_left hne).of_address haddress
  · intro hgoing
    obtain ⟨attempt, rest, hreaches, rfl⟩ := hfirst hgoing
    obtain ⟨e, more, rfl, hconnects, -⟩ := hreaches.of_address haddress
    exact ⟨e, more ++ rest, rfl, hconnects⟩

theorem network_addresses_connected_third : IsAddress ThirdLink.device.toList ∧
    (∃ e rest, (ThirdLink.connect 2).2.outside.past = e :: rest ∧ e.Connects {} ThirdLink.device) ∧
    ¬ IsAddress "emulator-5554".toList := by
  have haddress := (network_addresses_connected ThirdLink.device).1.mp (by decide)
  have hdial := dialsOnly_dialServer ThirdLink.world {} 1080 5
  obtain ⟨events, hpast, -, hconnected⟩ := (network_addresses_connected ThirdLink.device).2 ThirdLink.world
    ThirdLink.connector { left := 2, outside := {} } hdial
  obtain ⟨e, rest, rfl, hconnects⟩ := (hconnected haddress).2 rfl
  refine ⟨haddress, ⟨e, rest, hpast, hconnects⟩, fun hserial => ?_⟩
  exact absurd ((network_addresses_connected "emulator-5554").1.mpr hserial) (by decide)

end Connector

end Connecting

end WatchTrial
