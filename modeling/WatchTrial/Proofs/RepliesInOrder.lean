import Mathlib.Data.List.Induction
import WatchTrial.Proofs.Answers
import WatchTrial.Proofs.Outside
import WatchTrial.Rehearsal.Script
/-!
# Replies in order

What comes back on a link is a stream, and a reply is whatever stands in it up to the next line feed. As long as
every line that is sent brings exactly one line, or cannot be sent at all, nothing is left in the stream between
two calls, and so every call is answered by the reply to its own line.
-/
namespace WatchTrial

namespace Rehearsal

/-- One complete line comes back, or the line cannot be sent. -/
def LinkReply.Whole : LinkReply → Prop
  | .line text => '\n' ∉ text.toList
  | .raw _ => False
  | .unsent _ => True

/-- What is read when nothing else is waiting to be read. -/
def LinkReply.exchange : LinkReply → Exchange
  | .line text | .raw text => .line text
  | .unsent why => .unsent why

/-- The link has neither been used nor closed. -/
def Unused (link : Nat) (past : List Event) : Prop :=
  (∀ text, .sent link text ∉ past) ∧ .closed link ∉ past

namespace Script

variable {s : Script} {link : Nat}

private theorem timesWritten_unsent {past : List Event} (h : ∀ text, .sent link text ∉ past) :
    s.timesWritten past link = 0 := by
  refine List.countP_eq_zero.mpr fun e he => ?_
  cases e with
  | sent n text =>
    have hn : n ≠ link := by
      rintro rfl
      exact h text he
    simp [hn]
  | _ => simp

private theorem timesWritten_sent {lines : List String} (hlines : ∀ line ∈ lines, s.farewell ≠ some line) :
    s.timesWritten (lines.map (.sent link)) link = lines.length := by
  rw [timesWritten, List.countP_map, List.countP_eq_length]
  intro line hline
  simpa using hlines line hline

private theorem not_isClosed_sent {past : List Event} (hpast : .closed link ∉ past) (lines : List String) :
    isClosed (past ++ lines.map (.sent link)) link = false := by
  refine List.any_eq_false.mpr fun e he => ?_
  cases e with
  | closed n =>
    have hn : n ≠ link := by
      rintro rfl
      rcases List.mem_append.mp he with he | he
      · exact hpast he
      · simp at he
    simpa using hn
  | _ => simp

/-- To a line comes back the entry after those of the lines before it. -/
theorem arrival_in_order {entries : List LinkReply} (hlink : s.link link = .open_ entries)
    {past : List Event} (hpast : Unused link past) {lines : List String} {line : String}
    (hlines : ∀ l ∈ lines ++ [line], s.farewell ≠ some l) :
    s.arrival (past ++ lines.map (.sent link)) link line =
      (entries[lines.length]?.getD (.line "OK")).arrival := by
  have hwritten : s.timesWritten (past ++ lines.map (.sent link)) link = lines.length := by
    have hearlier : s.timesWritten (lines.map (.sent link)) link = lines.length :=
      timesWritten_sent fun l hl => hlines l (List.mem_append_left _ hl)
    rw [timesWritten, List.countP_append, ← timesWritten, ← timesWritten, timesWritten_unsent hpast.1,
      hearlier, Nat.zero_add]
  rw [arrival, not_isClosed_sent hpast.2, hlink]
  simp only [Bool.false_eq_true, if_false, hlines line (by simp), hwritten]

end Script

end Rehearsal

namespace Link

open Rehearsal (LinkReply Script)

inductive Call where
  | command (text : String)
  /-- Asks for a variable. -/
  | ask (name : String)
  | input (input : Input)

namespace Call

/-- The line that a call sends, if it sends one. -/
def line? : Call → Option String
  | command text => some text
  | ask name => some (variableLine name)
  | input i => (lineOf i).toOption

/-- A touch or a key press with an action that no watch knows. -/
def Unknown : Call → Prop
  | input (.touch (.other _) _ _) | input (.press (.other _) _) => True
  | _ => False

/-- What a call gives back of the value of its answer: nothing for an input. -/
def shown? : Call → String → Option String
  | input _, _ => none
  | _, value => some value

def make (w : World) (link : Nat) : Call → Act Bench (Option String)
  | command text => do return some (← send w link text)
  | ask name => do return some (← send w link (variableLine name))
  | input i => do
    sendInput w link i
    return none

variable {call : Call} {line : String} (w : World) (link : Nat)

theorem line?_of_not_unknown (h : ¬ call.Unknown) : ∃ line, call.line? = some line := by
  cases call with
  | command text => exact ⟨text, rfl⟩
  | ask name => exact ⟨variableLine name, rfl⟩
  | input i =>
    cases i with
    | touch action x y =>
      cases action with
      | other name => exact absurd trivial h
      | _ => exact ⟨_, rfl⟩
    | press action key =>
      cases action with
      | other name => exact absurd trivial h
      | _ => exact ⟨_, rfl⟩
    | wake => exact ⟨"wake", rfl⟩

private theorem make_unknown (h : call.Unknown) (b : Bench) :
    call.line? = none ∧ ∃ why, call.make w link b = (.error (.plain why), b) := by
  cases call with
  | command text => cases h
  | ask name => cases h
  | input i =>
    cases i with
    | touch action x y =>
      cases action with
      | other name => exact ⟨rfl, _, rfl⟩
      | _ => cases h
    | press action key =>
      cases action with
      | other name => exact ⟨rfl, _, rfl⟩
      | _ => cases h
    | wake => cases h

theorem make_sent (h : call.line? = some line) (b : Bench) :
    call.make w link b =
      ((outcomeOf line (exchange w link line b).1).map call.shown?, (exchange w link line b).2) := by
  have hsend : send w link line b = (outcomeOf line (exchange w link line b).1, (exchange w link line b).2) := rfl
  cases call with
  | command text =>
    obtain rfl : text = line := Option.some.inj h
    simp only [make, Act.bind_apply, hsend]
    cases outcomeOf text (exchange w link text b).1 <;> rfl
  | ask name =>
    obtain rfl : variableLine name = line := Option.some.inj h
    simp only [make, Act.bind_apply, hsend]
    cases outcomeOf (variableLine name) (exchange w link (variableLine name) b).1 <;> rfl
  | input i =>
    have hline : lineOf i = .ok line := Act.eq_ok_of_toOption h
    simp only [make, sendInput, hline, Act.bind_apply, hsend]
    cases outcomeOf line (exchange w link line b).1 <;> rfl

/-- What was sent does not depend on how it was answered. -/
theorem makeAll_past (calls : List Call) (b : Bench) :
    (calls.foldl (fun b call => (call.make w link b).2) b).past =
      b.past ++ (calls.filterMap line?).map (.sent link) := by
  induction calls generalizing b with
  | nil => simp
  | cons call rest ih =>
    rw [List.foldl_cons, ih]
    by_cases hunknown : call.Unknown
    · obtain ⟨hline, why, hmake⟩ := make_unknown w link hunknown b
      rw [hmake, List.filterMap_cons_none hline]
    · obtain ⟨line, hline⟩ := line?_of_not_unknown hunknown
      have hsent : (call.make w link b).2.past = b.past ++ [.sent link line] := by
        rw [make_sent w link hline]
        rfl
      rw [hsent, List.filterMap_cons_some hline, List.map_cons, List.append_assoc, List.singleton_append]

end Call

def bare (line : String) : String :=
  String.ofList (Text.dropEndWhile (· = '\r') line.toList)

/-- How a command ends, by what the other end makes of its line. -/
inductive Ends (command : String) : LinkReply → Except Fault String → Prop
  | done {line : String} : bare line = "OK" → Ends command (.line line) (.ok "")
  | value {line value : String} : bare line = "OK:" ++ value → Ends command (.line line) (.ok value)
  | refused {line : String} (why : String) : bare line ≠ "OK" → (∀ value, bare line ≠ "OK:" ++ value) →
    Ends command (.line line) (.error (.commandFailed command (.plain why)))
  | lost (why : String) : Ends command (.unsent why) (.error (.connectionLost command (.plain why)))

private theorem dropEndWhile_congr {p q : Char → Bool} {cs : List Char} (h : ∀ c ∈ cs, p c = q c) :
    Text.dropEndWhile p cs = Text.dropEndWhile q cs := by
  have hdrop {cs : List Char} (h : ∀ c ∈ cs, p c = q c) : cs.dropWhile p = cs.dropWhile q := by
    induction cs with
    | nil => rfl
    | cons c rest ih =>
      rw [List.dropWhile_cons, List.dropWhile_cons, h c List.mem_cons_self,
        ih fun d hd => h d (List.mem_cons_of_mem c hd)]
  unfold Text.dropEndWhile
  rw [hdrop fun c hc => h c (List.mem_reverse.mp hc)]

private theorem valueOf_ends (command : String) {line : String} (hline : '\n' ∉ line.toList) :
    Ends command (.line line) (valueOf command line) := by
  have hbare : Text.dropEndWhile (fun c => c = '\r' || c = '\n') line.toList = (bare line).toList := by
    rw [bare, String.toList_ofList]
    refine dropEndWhile_congr fun c hc => ?_
    have hne : c ≠ '\n' := fun heq => hline (heq ▸ hc)
    simp [hne]
  by_cases hdone : bare line = "OK"
  · have hvalue : valueOf command line = .ok "" := by
      simp [valueOf, hbare, hdone]
    rw [hvalue]
    exact .done hdone
  by_cases hgives : ∃ value, bare line = "OK:" ++ value
  · obtain ⟨value, hgives⟩ := hgives
    have hvalue : valueOf command line = .ok value := by
      simp [valueOf, hbare, hgives, Text.afterStart]
    rw [hvalue]
    exact .value hgives
  cases hvalue : valueOf command line with
  | ok value =>
    exfalso
    have hagrees := valueOf_ok hvalue
    rw [Agrees, hbare] at hagrees
    rcases hagrees with hok | ⟨value, hok⟩
    · exact hdone (String.toList_inj.mp hok)
    · refine hgives ⟨String.ofList value, String.toList_inj.mp ?_⟩
      simpa using hok.symm
  | error fault =>
    obtain ⟨why, rfl⟩ := valueOf_error hvalue
    exact .refused why hdone fun value h => hgives ⟨value, h⟩

private theorem outcomeOf_ends (command : String) {entry : LinkReply} (h : entry.Whole) :
    Ends command entry (outcomeOf command entry.exchange) := by
  cases entry with
  | line text => exact valueOf_ends command h
  | raw text => exact h.elim
  | unsent why => exact .lost why

private theorem bare_of_getLast? {line : String} (h : line.toList.getLast? ≠ some '\r') : bare line = line := by
  have hdrop : line.toList.reverse.dropWhile (· = '\r') = line.toList.reverse := by
    rw [← List.head?_reverse] at h
    cases hrev : line.toList.reverse with
    | nil => rfl
    | cons c rest =>
      have hc : c ≠ '\r' := by simpa [hrev] using h
      simp [hc]
  rw [bare, Text.dropEndWhile, hdrop, List.reverse_reverse, String.ofList_toList]

private theorem Ends.eq_value {command value : String} (hvalue : value.toList.getLast? ≠ some '\r')
    {outcome : Except Fault String} (h : Ends command (.line ("OK:" ++ value)) outcome) : outcome = .ok value := by
  have hbare : bare ("OK:" ++ value) = "OK:" ++ value := by
    refine bare_of_getLast? ?_
    rw [String.toList_append, List.getLast?_append]
    cases hlast : value.toList.getLast? with
    | none => decide
    | some c => simpa [hlast] using hvalue
  cases h with
  | done hdone =>
    have hlength := congrArg String.length (hbare.symm.trans hdone)
    simp only [String.length_append] at hlength
    have hok : "OK".length = 2 ∧ "OK:".length = 3 := by decide
    omega
  | value hgives =>
    have hlist := congrArg String.toList (hbare.symm.trans hgives)
    rw [String.toList_append, String.toList_append] at hlist
    rw [String.toList_inj.mp (List.append_cancel_left hlist)]
  | refused why _ hother => exact absurd hbare (hother value)

private theorem receive_whole {entry : LinkReply} (h : entry.Whole) :
    receive [] entry.arrival = (entry.exchange, []) := by
  cases entry with
  | line text =>
    have hspan := Text.span_append h []
    simp [receive, LinkReply.arrival, LinkReply.exchange, hspan.1, hspan.2]
  | raw text => exact h.elim
  | unsent why => rfl

private theorem exchange_whole {w : World} {link : Nat} {line : String} {b : Bench} {entry : LinkReply}
    (hentry : entry.Whole) (hwrite : w.write b.past link line = entry.arrival) (hread : waiting b link = []) :
    exchange w link line b = (entry.exchange, leave link [] (b.note (.sent link line))) := by
  simp only [exchange, Bench.write, hwrite, hread, receive_whole hentry]

section Served

variable {s : Script} {w : World} (hw : w.write = s.arrival) {link : Nat} {entries : List LinkReply}
  (hlink : s.link link = .open_ entries) (hwhole : ∀ entry ∈ entries, entry.Whole)
  {b : Bench} (hb : Rehearsal.Unused link b.past)
include hw hlink hwhole hb

private theorem make_answered {earlier : List Call} {call : Call} {line : String} (hline : call.line? = some line)
    (hfarewell : ∀ line ∈ (earlier ++ [call]).filterMap Call.line?, s.farewell ≠ some line)
    (hread : waiting (earlier.foldl (fun b call => (call.make w link b).2) b) link = []) :
    let entry := entries[(earlier.filterMap Call.line?).length]?.getD (.line "OK")
    let now := earlier.foldl (fun b call => (call.make w link b).2) b
    entry.Whole ∧ call.make w link now =
      ((outcomeOf line entry.exchange).map call.shown?, leave link [] (now.note (.sent link line))) := by
  intro entry now
  have hentry : entry.Whole := by
    unfold entry
    cases hget : entries[(earlier.filterMap Call.line?).length]? with
    | none => exact (by decide : '\n' ∉ "OK".toList)
    | some found => exact hwhole found (List.mem_of_getElem? hget)
  have hwrite : w.write now.past link line = entry.arrival := by
    rw [hw, Call.makeAll_past]
    refine Script.arrival_in_order hlink hb fun l hl => hfarewell l ?_
    rwa [List.filterMap_append, List.filterMap_cons_some hline, List.filterMap_nil]
  refine ⟨hentry, ?_⟩
  rw [Call.make_sent w link hline, exchange_whole hentry hwrite hread]

/-- Between two calls nothing waits to be read. -/
private theorem makeAll_read (hread : waiting b link = []) (calls : List Call)
    (hfarewell : ∀ line ∈ calls.filterMap Call.line?, s.farewell ≠ some line) :
    waiting (calls.foldl (fun b call => (call.make w link b).2) b) link = [] := by
  induction calls using List.reverseRecOn with
  | nil => exact hread
  | append_singleton earlier call ih =>
    have hnow := ih fun line hline => hfarewell line (by simp [hline])
    rw [List.foldl_append, List.foldl_cons, List.foldl_nil]
    by_cases hunknown : call.Unknown
    · obtain ⟨-, why, hmake⟩ := Call.make_unknown w link hunknown
        (earlier.foldl (fun b call => (call.make w link b).2) b)
      rw [hmake, hnow]
    · obtain ⟨line, hline⟩ := Call.line?_of_not_unknown hunknown
      rw [(make_answered hw hlink hwhole hb hline hfarewell hnow).2, waiting_leave]

end Served

/-- Calls of a new client on a fresh link over which every line brings one line or cannot be sent. Each call that
sends a line is answered by the entry of the script whose number is that of the lines sent before, whatever became
of those, and leaves nothing to be read by the next. A touch or key press with an unknown action fails and sends
nothing. The script may have a farewell that it does not answer; without one, every line counts. -/
theorem calls_answered_in_order (s : Script) (w : World) (hw : w.write = s.arrival) (link : Nat)
    (entries : List LinkReply) (hlink : s.link link = .open_ entries)
    (hwhole : ∀ entry ∈ entries, entry.Whole) (b : Bench) (hb : Rehearsal.Unused link b.past)
    (earlier : List Call) (call : Call)
    (hfarewell : ∀ line ∈ (earlier ++ [call]).filterMap Call.line?, s.farewell ≠ some line) :
    let sent := earlier.filterMap Call.line?
    let now := earlier.foldl (fun b call => (call.make w link b).2) (attach link b).2
    let entry := entries[sent.length]?.getD (.line "OK")
    now.past = b.past ++ sent.map (.sent link) ∧
    (call.Unknown → ∃ why, call.make w link now = (.error (.plain why), now)) ∧
    (¬ call.Unknown → ∃ line outcome, call.line? = some line ∧
      call.make w link now = (outcome.map call.shown?, leave link [] (now.note (.sent link line))) ∧
      Ends line entry outcome ∧
      ∀ value, value.toList.getLast? ≠ some '\r' → entry = .line ("OK:" ++ value) → outcome = .ok value) := by
  intro sent now entry
  have hpast : now.past = b.past ++ sent.map (.sent link) := Call.makeAll_past w link earlier (attach link b).2
  refine ⟨hpast, fun hunknown => (Call.make_unknown w link hunknown now).2, fun hknown => ?_⟩
  obtain ⟨line, hline⟩ := Call.line?_of_not_unknown hknown
  have hearlier : ∀ l ∈ sent, s.farewell ≠ some l := by
    intro l hl
    refine hfarewell l ?_
    rw [List.filterMap_append]
    exact List.mem_append_left _ hl
  have hb' : Rehearsal.Unused link (attach link b).2.past := hb
  have hread : waiting now link = [] := makeAll_read hw hlink hwhole hb' (waiting_leave link [] b) earlier hearlier
  obtain ⟨hentry, hmake⟩ := make_answered hw hlink hwhole hb' hline hfarewell hread
  have hends : Ends line entry (outcomeOf line entry.exchange) := outcomeOf_ends line hentry
  refine ⟨line, outcomeOf line entry.exchange, hline, hmake, hends, fun value hvalue hgives => ?_⟩
  rw [hgives] at hends ⊢
  exact hends.eq_value hvalue

/-! A link that loses the second of three lines. -/
namespace BrokenOff

def script : Script where
  links := [.open_ [.line "OK:320\r", .unsent "broken pipe", .line "ERROR:no display", .line "OK:a\rb"]]
  farewell := none

def calls : List Call :=
  [.ask "display.width", .input (.touch (.other "pinch") 1 1), .command "done", .input .wake]

def now : Bench := calls.foldl (fun b call => (call.make (script.world "") 0 b).2) (attach 0 {}).2

end BrokenOff

/-- The fourth line is answered by the fourth entry, although the second was lost, the third refused, and a touch
in between not sent. -/
theorem calls_answered_in_order_broken_off :
    BrokenOff.now.past = [.sent 0 "getvar display.width", .sent 0 "done", .sent 0 "wake"] ∧
      ((Call.ask "build").make (BrokenOff.script.world "") 0 BrokenOff.now).1 = .ok (some "a\rb") := by
  obtain ⟨hpast, -, hknown⟩ := calls_answered_in_order BrokenOff.script (BrokenOff.script.world "") rfl 0 _ rfl
    (by simp [LinkReply.Whole]) {} ⟨by simp, by simp⟩ BrokenOff.calls (.ask "build")
    (by simp [BrokenOff.script])
  obtain ⟨line, outcome, -, hmake, -, hvalue⟩ := hknown id
  refine ⟨hpast, ?_⟩
  have hrun := congrArg Prod.fst hmake
  rw [hvalue "a\rb" (by decide) rfl] at hrun
  exact hrun

end Link

end WatchTrial
