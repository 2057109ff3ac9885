import WatchTrial.Proofs.Journal
/-!
# What automators ask of the server

An automator that works or quits only asks under the path of its session. What the server answered can be
read off the events: an automator that got a result got it from the last answer, and one whose session the
server denies stops there and says so.
-/
namespace WatchTrial

/-- The request is what asking a server with this method, path and body sends. -/
def Request.Asks (r : Request) (server method path : String) (body : Option Json) : Prop :=
  ∃ address, Web.Address.read (server ++ path) = .ok address ∧
    r = ⟨method, address.text, address.pathText, body⟩

def Request.Opens (server device : String) (r : Request) : Prop :=
  r.Asks server "POST" "/session" (some (Automator.capabilities device))

def Request.Under (server session : String) (r : Request) : Prop :=
  ∃ method suffix body, r.Asks server method ("/session/" ++ session ++ suffix) body

def Response.Denies : Response → Prop
  | .complete status body => 400 ≤ status ∧ Reply.deniesSession body = true
  | _ => False

def Event.isRequest : Event → Bool
  | .requested _ _ => true
  | _ => false

/-- The automators stayed, and the past grew by requests of a kind. -/
def Bench.Requested (P : Request → Prop) (before after : Bench) : Prop :=
  Bench.Grew (fun e => ∃ request response, e = .requested request response ∧ P request) before after ∧
    after.automators = before.automators

instance (P : Request → Prop) : IsPreorder Bench (Bench.Requested P) where
  refl b := ⟨refl_of _ b, rfl⟩
  trans _ _ _ h h' := ⟨trans_of _ h.1 h'.1, h'.2.trans h.2⟩

variable {α β : Type}

/-- When the server denies the session, the act ends there and its fault says so. -/
def Act.HeedsDenial (a : Act Bench α) : Prop :=
  ∀ b, ∃ events, (a b).2.past = b.past ++ events ∧
    ∀ before request response after, events = before ++ .requested request response :: after →
      response.Denies → after = [] ∧ ∃ fault, (a b).1 = .error fault ∧ fault.carries .invalidSession = true

theorem Act.HeedsDenial.of_silent {a : Act Bench α} (h : ∀ b, (a b).2 = b) : a.HeedsDenial := by
  intro b
  refine ⟨[], by rw [h, List.append_nil], fun before request response after hnil => ?_⟩
  exact absurd (congrArg List.length hnil) (by simp)

theorem Act.HeedsDenial.bind {a : Act Bench α} {f : α → Act Bench β} (ha : a.HeedsDenial)
    (hf : ∀ x, (f x).HeedsDenial) : (a >>= f).HeedsDenial := by
  intro b
  obtain ⟨events, hpast, hdenied⟩ := ha b
  rcases hrun : a b with ⟨fault | x, b'⟩ <;> rw [hrun] at hpast hdenied
  · rw [Act.bind_error hrun]
    refine ⟨events, hpast, fun before request response after hsplit hdenies => ?_⟩
    obtain ⟨hlast, fault', hfault, hcarries⟩ := hdenied before request response after hsplit hdenies
    exact ⟨hlast, fault, rfl, Except.error.inj hfault ▸ hcarries⟩
  · rw [Act.bind_ok hrun]
    obtain ⟨events', hpast', hdenied'⟩ := hf x b'
    refine ⟨events ++ events', by rw [hpast', hpast, List.append_assoc], ?_⟩
    intro before request response after hsplit hdenies
    -- a denial among the events of the first part would have ended it
    rcases List.append_eq_append_iff.mp hsplit with ⟨rest, rfl, hrest⟩ | ⟨rest, rfl, hrest⟩
    · exact hdenied' rest request response after hrest hdenies
    · cases rest with
      | nil => exact hdenied' [] request response after (by simpa using hrest.symm) hdenies
      | cons e rest =>
        obtain ⟨rfl, rfl⟩ := List.cons.inj hrest
        obtain ⟨-, fault, hfault, -⟩ := hdenied before request response rest rfl hdenies
        cases hfault

theorem Act.Chained.heedsDenial : Act.Chained fun α (a : Act Bench α) => a.HeedsDenial where
  pure _ := .of_silent fun _ => rfl
  refuse _ := .of_silent fun _ => rfl
  bind := .bind

namespace Automator

variable {w : World} {a : Automator} {b b' : Bench}

private theorem ask_sends {server path : String} {address : Web.Address}
    (hread : Web.Address.read (server ++ path) = .ok address) (w : World) (method : String) (body : Option Json)
    (b : Bench) : ∃ response, ask w server method path body b = (bodyOf method path address.text response,
      b.note (.requested ⟨method, address.text, address.pathText, body⟩ response)) := by
  unfold ask
  rw [hread]
  exact ⟨_, rfl⟩

private theorem ask_cases (w : World) (server method path : String) (body : Option Json) (b : Bench) :
    (∃ text, ask w server method path body b = (.error (.plain text), b)) ∨
      ∃ request response shown, request.Asks server method path body ∧
        ask w server method path body b =
          (bodyOf method path shown response, b.note (.requested request response)) := by
  cases hread : Web.Address.read (server ++ path) with
  | error flaw =>
    unfold ask
    rw [hread]
    exact .inl ⟨_, rfl⟩
  | ok address =>
    obtain ⟨response, hask⟩ := ask_sends hread w method body b
    exact .inr ⟨_, response, address.text, ⟨address, hread, rfl⟩, hask⟩

theorem ask_ok {server method path text : String} {body : Option Json}
    (h : ask w server method path body b = (.ok text, b')) :
    ∃ request status, request.Asks server method path body ∧ status < 400 ∧
      b' = b.note (.requested request (.complete status text)) := by
  rcases ask_cases w server method path body b with ⟨why, hask⟩ | ⟨request, response, shown, hasks, hask⟩
  · rw [hask] at h
    cases h
  · rw [hask] at h
    obtain ⟨hbody, rfl⟩ := Prod.mk.inj h
    unfold bodyOf at hbody
    split at hbody
    · cases hbody
    · cases hbody
    · split at hbody <;> cases hbody
      next status hstatus => exact ⟨request, status, hasks, Int64.not_le.mp hstatus, rfl⟩

theorem query_ok {server path : String} {body : Json} {read : String → Option α} {x : α}
    (h : query w server path body read b = (.ok x, b')) :
    ∃ request status text, request.Asks server "POST" path (some body) ∧ status < 400 ∧ read text = some x ∧
      b' = b.note (.requested request (.complete status text)) := by
  obtain ⟨text, _, hask, hread⟩ := Act.of_bind_ok h
  obtain ⟨request, status, hasks, hstatus, rfl⟩ := ask_ok hask
  cases hvalue : read text with
  | none =>
    rw [hvalue] at hread
    cases hread
  | some y =>
    rw [hvalue] at hread
    cases hread
    exact ⟨request, status, text, hasks, hstatus, hvalue, rfl⟩

/-- A session was started when the server gave its name, which is not empty. -/
theorem start_ok {a' : Automator} (h : a.start w b = (.ok a', b')) :
    a' = { a with session := a'.session } ∧ a'.session ≠ "" ∧
      ∃ request status text, request.Opens a.server a.handheld ∧ status < 400 ∧
        Reply.session? text = some a'.session ∧
        b' = b.note (.requested request (.complete status text)) := by
  obtain ⟨session, _, hquery, hrest⟩ := Act.of_bind_ok h
  obtain ⟨request, status, text, hasks, hstatus, hread, rfl⟩ := query_ok hquery
  split at hrest
  · cases hrest
  next hsession =>
    cases hrest
    exact ⟨rfl, hsession, request, status, text, hasks, hstatus, hread, rfl⟩

theorem quit_sends (hsession : a.session ≠ "") {address : Web.Address}
    (hread : Web.Address.read (a.server ++ a.path "") = .ok address) (w : World) (b : Bench) :
    ∃ response, (a.quit w b).2 =
      b.note (.requested ⟨"DELETE", address.text, address.pathText, none⟩ response) := by
  obtain ⟨response, hask⟩ := ask_sends hread w "DELETE" none b
  unfold quit
  rw [if_neg hsession, Act.bind_pure_state, hask]
  exact ⟨response, rfl⟩

private theorem bodyOf_denied {response : Response} (h : response.Denies) (method path shown : String) :
    ∃ fault, bodyOf method path shown response = .error fault ∧ fault.carries .invalidSession = true := by
  cases response with
  | failed why => exact h.elim
  | broken status why => exact h.elim
  | complete status body =>
    refine ⟨refusal method path status body, if_pos h.1, ?_⟩
    unfold refusal
    simp [h.2, Fault.carries]

theorem ask_heedsDenial (w : World) (server method path : String) (body : Option Json) :
    (ask w server method path body).HeedsDenial := by
  intro b
  rcases ask_cases w server method path body b with ⟨why, hask⟩ | ⟨request, response, shown, -, hask⟩
  · rw [hask]
    exact ⟨[], by simp, by simp⟩
  · rw [hask]
    refine ⟨[.requested request response], rfl, fun before request' response' after hsplit hdenies => ?_⟩
    cases before with
    | nil =>
      obtain ⟨hevent, rfl⟩ := List.cons.inj hsplit
      obtain ⟨rfl, rfl⟩ := Event.requested.inj hevent
      exact ⟨rfl, bodyOf_denied hdenies ..⟩
    | cons e before => exact absurd (List.cons.inj hsplit).2 (by simp)

theorem ask_requested {P : Request → Prop} {server method path : String} {body : Option Json}
    (h : ∀ request : Request, request.Asks server method path body → P request) (w : World) :
    (ask w server method path body).Within (Bench.Requested P) := by
  intro b
  rcases ask_cases w server method path body b with ⟨why, hask⟩ | ⟨request, response, shown, hasks, hask⟩
  · rw [hask]
    exact refl_of _ b
  · rw [hask]
    exact ⟨.note b ⟨request, response, rfl, h request hasks⟩, rfl⟩

theorem ask_under (w : World) (a : Automator) (method suffix : String) (body : Option Json) :
    (ask w a.server method (a.path suffix) body).Within (Bench.Requested (Request.Under a.server a.session)) :=
  ask_requested (fun _ hasks => ⟨method, suffix, body, hasks⟩) w

end Automator

end WatchTrial
