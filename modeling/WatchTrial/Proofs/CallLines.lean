import WatchTrial.Proofs.Decimals
import WatchTrial.Proofs.RepliesInOrder
import WatchTrial.Proofs.TrimmedLines
/-!
# The lines of calls

The first word of a line tells which call it is, and the words behind it are what the call was given; only the last of
them may hold spaces. So a call can be read back from its line. A name without a line feed makes a line without one,
and so a row of calls can be read back from all that was written.
-/
namespace WatchTrial.Link

open Rehearsal (Script)

namespace Call

/-- A touch or a key press with an action that watches know, a waking, or a question for a variable. -/
def Known : Call → Prop
  | command _ => False
  | ask _ => True
  | input i => ¬ (input i).Unknown

def name : Call → String
  | ask name => name
  | input (.press _ key) => key
  | _ => ""

def readPoint (cs : List Char) : Option (Int64 × Int64) := do
  let y ← (Text.cut ' ' cs).2
  return (← (Text.readInt64 (Text.cut ' ' cs).1).toOption, ← (Text.readInt64 y).toOption)

/-- Reads a call from the first word of its line and what stands behind it, if anything does. -/
def ofWords? (word : List Char) : Option (List Char) → Option Call
  | none => if word = "wake".toList then some (.input .wake) else none
  | some rest =>
    let action := String.ofList (Text.cut ' ' rest).1
    if word = "getvar".toList then some (.ask (String.ofList rest))
    else if word = "press".toList then some (.input (.press .downAndUp (String.ofList rest)))
    else if word = "key".toList then
      (Text.cut ' ' rest).2.map fun key => .input (.press (.ofName action) (String.ofList key))
    else if word = "tap".toList then (readPoint rest).map fun p => .input (.touch .downAndUp p.1 p.2)
    else if word = "touch".toList then
      ((Text.cut ' ' rest).2.bind readPoint).map fun p => .input (.touch (.ofName action) p.1 p.2)
    else none

def ofLine? (line : List Char) : Option Call := ofWords? (Text.cut ' ' line).1 (Text.cut ' ' line).2

variable {call : Call} {line : String}

private theorem readPoint_shown (x y : Int64) :
    readPoint ((Text.showInt64 x).toList ++ ' ' :: (Text.showInt64 y).toList) = some (x, y) := by
  have hspace : ' ' ∉ (Text.showInt64 x).toList :=
    (Text.isDecimal_showInt64 x).not_mem rfl (by decide) (by decide)
  simp only [readPoint, Text.cut_append hspace, Option.bind_eq_bind, Option.bind_some, Text.readInt64_showInt64]
  rfl

private theorem touchAction_ofName {action : TouchAction} (h : ∀ name, action ≠ .other name) :
    TouchAction.ofName action.name = action ∧ ' ' ∉ action.name.toList := by
  cases action with
  | other name => exact absurd rfl (h name)
  | _ => decide

private theorem keyAction_ofName {action : KeyAction} (h : ∀ name, action ≠ .other name) :
    KeyAction.ofName action.name = action ∧ ' ' ∉ action.name.toList := by
  cases action with
  | other name => exact absurd rfl (h name)
  | _ => decide

private theorem ofLine?_append {word : List Char} (hword : ' ' ∉ word) (rest : List Char) :
    ofLine? (word ++ ' ' :: rest) = ofWords? word (some rest) := by
  rw [ofLine?, Text.cut_append hword]

private theorem ofWords?_key {action : KeyAction} (haction : ∀ name, action ≠ .other name) (key : String) :
    ofWords? "key".toList (some (action.name.toList ++ ' ' :: key.toList)) = some (.input (.press action key)) := by
  obtain ⟨hname, hspace⟩ := keyAction_ofName haction
  show (Text.cut ' ' (action.name.toList ++ ' ' :: key.toList)).2.map _ = _
  rw [Text.cut_append hspace]
  simp [hname]

private theorem ofWords?_touch {action : TouchAction} (haction : ∀ name, action ≠ .other name) (x y : Int64) :
    ofWords? "touch".toList
        (some (action.name.toList ++ ' ' :: ((Text.showInt64 x).toList ++ ' ' :: (Text.showInt64 y).toList))) =
      some (.input (.touch action x y)) := by
  obtain ⟨hname, hspace⟩ := touchAction_ofName haction
  show ((Text.cut ' ' (action.name.toList ++ ' ' :: _)).2.bind readPoint).map _ = _
  rw [Text.cut_append hspace, Option.bind_some, readPoint_shown]
  simp [hname]

private theorem ofWords?_tap (x y : Int64) :
    ofWords? "tap".toList (some ((Text.showInt64 x).toList ++ ' ' :: (Text.showInt64 y).toList)) =
      some (.input (.touch .downAndUp x y)) := by
  show (readPoint _).map _ = _
  rw [readPoint_shown]
  rfl

private theorem ofLine?_press {action : KeyAction} (key : String) (hline : lineOf (.press action key) = .ok line) :
    ofLine? line.toList = some (.input (.press action key)) := by
  have hlong (action : KeyAction) : ("key " ++ action.name ++ " " ++ key).toList =
      "key".toList ++ ' ' :: (action.name.toList ++ ' ' :: key.toList) := by simp
  cases action with
  | other name => cases hline
  | downAndUp =>
    cases hline
    have hlist : ("press " ++ key).toList = "press".toList ++ ' ' :: key.toList := by simp
    rw [hlist, ofLine?_append (by decide)]
    show some (Call.input (.press .downAndUp (String.ofList key.toList))) = _
    rw [String.ofList_toList]
  | _ =>
    cases hline
    rw [hlong, ofLine?_append (by decide)]
    exact ofWords?_key (by simp) key

private theorem ofLine?_touch {action : TouchAction} (x y : Int64) (hline : lineOf (.touch action x y) = .ok line) :
    ofLine? line.toList = some (.input (.touch action x y)) := by
  have hlong (action : TouchAction) :
      ("touch " ++ action.name ++ " " ++ Text.showInt64 x ++ " " ++ Text.showInt64 y).toList =
        "touch".toList ++ ' ' ::
          (action.name.toList ++ ' ' :: ((Text.showInt64 x).toList ++ ' ' :: (Text.showInt64 y).toList)) := by
    simp
  cases action with
  | other name => cases hline
  | downAndUp =>
    cases hline
    have hlist : ("tap " ++ Text.showInt64 x ++ " " ++ Text.showInt64 y).toList =
        "tap".toList ++ ' ' :: ((Text.showInt64 x).toList ++ ' ' :: (Text.showInt64 y).toList) := by simp
    rw [hlist, ofLine?_append (by decide), ofWords?_tap]
  | _ =>
    cases hline
    rw [hlong, ofLine?_append (by decide)]
    exact ofWords?_touch (by simp) x y

/-- A call is read back from its line. -/
theorem ofLine?_line (hknown : call.Known) (hline : call.line? = some line) : ofLine? line.toList = some call := by
  cases call with
  | command text => exact hknown.elim
  | ask name =>
    obtain rfl : variableLine name = line := Option.some.inj hline
    have hlist : (variableLine name).toList = "getvar".toList ++ ' ' :: name.toList := by simp [variableLine]
    rw [hlist, ofLine?_append (by decide)]
    show some (Call.ask (String.ofList name.toList)) = _
    rw [String.ofList_toList]
  | input i =>
    have hok : lineOf i = .ok line := Act.eq_ok_of_toOption hline
    cases i with
    | touch action x y => exact ofLine?_touch x y hok
    | press action key => exact ofLine?_press key hok
    | wake =>
      cases hok
      rfl

private theorem feed_not_mem_showInt64 (n : Int64) : '\n' ∉ (Text.showInt64 n).toList :=
  (Text.isDecimal_showInt64 n).not_mem rfl (by decide) (by decide)

private theorem feed_not_mem_line (hknown : call.Known) (hname : '\n' ∉ call.name.toList)
    (hline : call.line? = some line) :
    '\n' ∉ line.toList := by
  cases call with
  | command text => exact hknown.elim
  | ask name =>
    obtain rfl : variableLine name = line := Option.some.inj hline
    have hasked : '\n' ∉ name.toList := hname
    simp [variableLine, hasked]
  | input i =>
    have hok : lineOf i = .ok line := Act.eq_ok_of_toOption hline
    cases i with
    | touch action x y =>
      cases action with
      | other name => cases hok
      | _ =>
        cases hok
        simp [TouchAction.name, feed_not_mem_showInt64]
    | press action key =>
      have hkey : '\n' ∉ key.toList := hname
      cases action with
      | other name => cases hok
      | _ =>
        cases hok
        simp [KeyAction.name, hkey]
    | wake =>
      cases hok
      decide

private theorem exists_line (hknown : call.Known) : ∃ line, call.line? = some line := by
  apply line?_of_not_unknown
  cases call with
  | command text => exact hknown.elim
  | ask name => exact not_false
  | input i => exact hknown

end Call

/-- All that events write on a link, where every line is ended by a line feed. -/
def stream (link : Nat) (events : List Event) : List Char :=
  events.flatMap fun
    | .sent n text => if n = link then text.toList ++ ['\n'] else []
    | _ => []

private theorem stream_sent (link : Nat) (line : String) (events : List Event) :
    stream link (.sent link line :: events) = line.toList ++ '\n' :: stream link events := by
  simp [stream]

/-- A row of calls is read back from all that it writes. -/
theorem filterMap_lines_stream (link : Nat) {calls : List Call}
    (h : ∀ call ∈ calls, call.Known ∧ '\n' ∉ call.name.toList) :
    (Text.lines (stream link ((calls.filterMap Call.line?).map (.sent link)))).filterMap Call.ofLine? = calls := by
  induction calls with
  | nil => rfl
  | cons call rest ih =>
    obtain ⟨hknown, hname⟩ := h call List.mem_cons_self
    obtain ⟨line, hline⟩ := Call.exists_line hknown
    have hfeed := Call.feed_not_mem_line hknown hname hline
    rw [List.filterMap_cons_some hline, List.map_cons, stream_sent, Text.lines_cons hfeed,
      List.filterMap_cons_some (Call.ofLine?_line hknown hline)]
    rw [ih fun later hlater => h later (List.mem_cons_of_mem call hlater)]

/-- Two calls with the same line are the same call with the same arguments. A call whose name has no line feed writes
exactly one line, and a row of such calls is read back from all that it writes. -/
theorem calls_told_apart :
    (∀ first second : Call, first.Known → second.Known → first.line? = second.line? → first = second) ∧
    (∀ (w : World) (link : Nat) (b : Bench) (call : Call), call.Known → '\n' ∉ call.name.toList →
      ∃ line events, call.line? = some line ∧ (call.make w link b).2.past = b.past ++ events ∧
        stream link events = line.toList ++ ['\n'] ∧ '\n' ∉ line.toList) ∧
    ∀ (w : World) (link : Nat) (b : Bench) (calls : List Call),
      (∀ call ∈ calls, call.Known ∧ '\n' ∉ call.name.toList) →
      ∃ events, (calls.foldl (fun b call => (call.make w link b).2) b).past = b.past ++ events ∧
        (Text.lines (stream link events)).filterMap Call.ofLine? = calls := by
  refine ⟨?_, ?_, ?_⟩
  · intro first second hfirst hsecond hlines
    obtain ⟨line, hline⟩ := Call.exists_line hfirst
    have hread := Call.ofLine?_line hfirst hline
    rw [Call.ofLine?_line hsecond (hlines ▸ hline)] at hread
    exact (Option.some.inj hread).symm
  · intro w link b call hknown hname
    obtain ⟨line, hline⟩ := Call.exists_line hknown
    refine ⟨line, [.sent link line], hline, ?_, stream_sent link line [], Call.feed_not_mem_line hknown hname hline⟩
    rw [Call.make_sent w link hline]
    rfl
  · intro w link b calls hcalls
    exact ⟨_, Call.makeAll_past w link calls b, filterMap_lines_stream link hcalls⟩

/-- Calls that share their words or their digits. -/
def lookalikes : List Call :=
  [.input (.touch .down 1 23), .input (.touch .down 12 3), .input (.press .down "A B"),
    .input (.press .downAndUp "down A B"), .ask "wake", .input .wake]

theorem calls_told_apart_lookalikes : (Call.input (.touch .down 1 23)).line? ≠ (Call.input (.touch .down 12 3)).line? ∧
    (∃ line events, (Call.ask "wake").line? = some line ∧
      ((Call.ask "wake").make (({} : Script).world "") 0 {}).2.past = events ∧
      stream 0 events = line.toList ++ ['\n']) ∧
    ∃ events, (lookalikes.foldl (fun b call => (Call.make (({} : Script).world "") 0 call b).2) {}).past = events ∧
      (Text.lines (stream 0 events)).filterMap Call.ofLine? = lookalikes := by
  obtain ⟨hdistinct, hone, hrow⟩ := calls_told_apart
  refine ⟨?_, ?_, ?_⟩
  · intro hlines
    have hsame := hdistinct _ _ (by simp [Call.Known, Call.Unknown]) (by simp [Call.Known, Call.Unknown]) hlines
    simp at hsame
  · obtain ⟨line, events, hline, hpast, hstream, -⟩ :=
      hone (({} : Script).world "") 0 {} (.ask "wake") trivial (by decide)
    exact ⟨line, events, hline, hpast, hstream⟩
  · apply hrow (({} : Script).world "") 0 {}
    simp [lookalikes, Call.Known, Call.Unknown, Call.name]

end WatchTrial.Link
