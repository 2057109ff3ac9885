import WatchTrial.Companion.Selector
import WatchTrial.Proofs.QuotedText
import WatchTrial.Text.Blank
/-!
# Selector expressions

An expression is read without knowing the selector that it was made from: as a chain of calls, each with a quoted
text or a word as its argument. What is read are exactly the calls that the selector asks for, and they determine
the selector.
-/
namespace WatchTrial.Selector

/-- The argument of a call: a text between quotes, or a word. -/
inductive Argument where
  | text (value : String)
  | word (name : String)
deriving DecidableEq

structure Invocation where
  method : String
  argument : Argument
deriving DecidableEq

def readArgument (cs : List Char) : Option (Argument × List Char) :=
  if cs.head? = some '"' then
    (Text.readQuoted cs).bind fun quoted =>
      (Text.afterStart [')'] quoted.2).map (.text (String.ofList quoted.1), ·)
  else (Text.cut ')' cs).2.map (.word (String.ofList (Text.cut ')' cs).1), ·)

/-- Reads a call: a point, the name of a method and an argument. -/
def readCall (cs : List Char) : Option (Invocation × List Char) :=
  (Text.afterStart ['.'] cs).bind fun cs =>
    (Text.cut '(' cs).2.bind fun rest =>
      (readArgument rest).map (Prod.map (⟨String.ofList (Text.cut '(' cs).1, ·⟩) id)

private theorem length_lt_of_readArgument {cs : List Char} {read : Argument × List Char}
    (h : readArgument cs = some read) : read.2.length < cs.length := by
  unfold readArgument at h
  split at h
  · obtain ⟨quoted, hquoted, hread⟩ := Option.bind_eq_some_iff.mp h
    obtain ⟨rest, hrest, rfl⟩ := Option.map_eq_some_iff.mp hread
    have hlt := Text.length_lt_of_readQuoted hquoted
    rw [Text.eq_append_of_afterStart hrest, List.length_append] at hlt
    exact Nat.lt_of_le_of_lt (Nat.le_add_left _ _) hlt
  · obtain ⟨rest, hrest, rfl⟩ := Option.map_eq_some_iff.mp h
    exact Text.length_lt_of_cut (Prod.ext rfl hrest)

private theorem length_lt_of_readCall {cs : List Char} {read : Invocation × List Char}
    (h : readCall cs = some read) : read.2.length < cs.length := by
  obtain ⟨name, hname, hcut⟩ := Option.bind_eq_some_iff.mp h
  obtain ⟨rest, hrest, hread⟩ := Option.bind_eq_some_iff.mp hcut
  obtain ⟨argument, hargument, rfl⟩ := Option.map_eq_some_iff.mp hread
  have hlength := congrArg List.length (Text.eq_append_of_afterStart hname)
  rw [List.length_append] at hlength
  have hparenthesis : rest.length < name.length := Text.length_lt_of_cut (Prod.ext rfl hrest)
  have hargs := length_lt_of_readArgument hargument
  simp only [Prod.map, id]
  omega

def readCalls (cs : List Char) : List Invocation × List Char :=
  match _ : readCall cs with
  | none => ([], cs)
  | some read => (readCalls read.2).map (read.1 :: ·) id
termination_by cs.length
decreasing_by exact length_lt_of_readCall ‹_›

def readSelector (cs : List Char) : Option (List Invocation × List Char) :=
  (Text.afterStart "new UiSelector()".toList cs).map readCalls

/-- Reads the expression that brings an element of a list into view: the calls for the list and for the element. -/
def readScrolling (cs : List Char) : Option (List Invocation × List Invocation) := do
  let cs ← Text.afterStart "new UiScrollable(".toList cs
  let container ← readSelector cs
  let cs ← Text.afterStart ").scrollIntoView(".toList container.2
  let target ← readSelector cs
  if target.2 = [')'] then return (container.1, target.1) else none

def fields (s : Selector) : List (String × String) :=
  [("text", s.text), ("textStartsWith", s.textStart), ("className", s.className), ("packageName", s.packageName),
    ("resourceId", s.resourceId)]

/-- The calls that a selector asks for: one for each of its texts that is not empty. -/
def calls (s : Selector) : List Invocation :=
  (s.fields.filter (·.2 ≠ "")).map (fun field => ⟨field.1, .text field.2⟩) ++
    if s.scrollable then [⟨"scrollable", .word "true"⟩] else []

section Reading

variable {cs rest : List Char}

private theorem readCalls_of_none (h : readCall cs = none) : readCalls cs = ([], cs) := by
  rw [readCalls.eq_def]
  split
  next => rfl
  next hsome => cases h.symm.trans hsome

private theorem readCalls_of_some {read : Invocation × List Char} (h : readCall cs = some read) :
    readCalls cs = (readCalls read.2).map (read.1 :: ·) id := by
  rw [readCalls.eq_def]
  split
  next hnone => cases h.symm.trans hnone
  next hsome =>
    cases h.symm.trans hsome
    rfl

private theorem readCall_end (h : rest.head? ≠ some '.') : readCall rest = none := by
  cases hstart : Text.afterStart ['.'] rest with
  | none => rw [readCall, hstart, Option.bind_none]
  | some after =>
    rw [Text.eq_append_of_afterStart hstart] at h
    exact absurd rfl h

private theorem readCall_text {method : String} (hmethod : '(' ∉ method.toList) {value : String} (hvalue : value ≠ "")
    (rest : List Char) : readCall ((call method value).toList ++ rest) = some (⟨method, .text value⟩, rest) := by
  have hcall : (call method value).toList ++ rest =
      ['.'] ++ (method.toList ++ '(' :: ((Text.quote value).toList ++ ([')'] ++ rest))) := by
    simp [call, hvalue]
  have hquote : ((Text.quote value).toList ++ ([')'] ++ rest)).head? = some '"' := by
    simp [Text.quote, Text.quoteChars]
  rw [hcall, readCall, Text.afterStart_append, Option.bind_some, Text.cut_append hmethod, Option.bind_some,
    readArgument, if_pos hquote, Text.readQuoted_quote, Option.bind_some, Text.afterStart_append]
  simp

private theorem readCall_scrollable (rest : List Char) :
    readCall (".scrollable(true)".toList ++ rest) = some (⟨"scrollable", .word "true"⟩, rest) := by
  have hcall : ".scrollable(true)".toList ++ rest =
      ['.'] ++ ("scrollable".toList ++ '(' :: ("true".toList ++ ')' :: rest)) := rfl
  rw [hcall, readCall, Text.afterStart_append, Option.bind_some, Text.cut_append (by decide), Option.bind_some,
    readArgument, if_neg (by simp), Text.cut_append (by decide)]
  rfl

private theorem readCalls_texts {fields : List (String × String)} (hfields : ∀ field ∈ fields, '(' ∉ field.1.toList)
    (rest : List Char) :
    readCalls (fields.flatMap (fun field => (call field.1 field.2).toList) ++ rest) =
      (readCalls rest).map ((fields.filter (·.2 ≠ "")).map (fun field => ⟨field.1, .text field.2⟩) ++ ·) id := by
  induction fields with
  | nil => rfl
  | cons field fields ih =>
    have hrest := ih fun f hf => hfields f (List.mem_cons_of_mem field hf)
    rw [List.flatMap_cons, List.append_assoc]
    by_cases hempty : field.2 = ""
    · have hcall : (call field.1 field.2).toList = [] := by simp [call, hempty]
      rw [hcall, List.nil_append, hrest, List.filter_cons_of_neg (by simpa using hempty)]
    · rw [readCalls_of_some (readCall_text (hfields field List.mem_cons_self) hempty _), hrest,
        List.filter_cons_of_pos (by simpa using hempty)]
      rfl

/-- Reading an expression finds the calls of its selector and nothing else. -/
theorem readSelector_expression (s : Selector) (rest : List Char) (hrest : rest.head? ≠ some '.') :
    readSelector (s.expression.toList ++ rest) = some (s.calls, rest) := by
  have hexpression : s.expression.toList ++ rest = "new UiSelector()".toList ++
      (s.fields.flatMap (fun field => (call field.1 field.2).toList) ++
        ((if s.scrollable then ".scrollable(true)" else "").toList ++ rest)) := by
    unfold expression fields
    simp only [String.toList_append, List.flatMap_cons, List.flatMap_nil, List.append_nil, List.append_assoc]
  have hscrollable : readCalls ((if s.scrollable then ".scrollable(true)" else "").toList ++ rest) =
      (if s.scrollable then [⟨"scrollable", .word "true"⟩] else [], rest) := by
    have hend := readCalls_of_none (readCall_end hrest)
    cases s.scrollable with
    | false => exact hend
    | true =>
      rw [if_pos rfl, if_pos rfl, readCalls_of_some (readCall_scrollable rest), hend]
      rfl
  have hmethods : ∀ field ∈ s.fields, '(' ∉ field.1.toList := by
    simp [fields]
  rw [hexpression, readSelector, Text.afterStart_append, Option.map_some, readCalls_texts hmethods, hscrollable]
  rfl

private theorem readScrolling_scrolling (container target : Selector) :
    readScrolling (scrolling container target).toList = some (container.calls, target.calls) := by
  have hscrolling : (scrolling container target).toList = "new UiScrollable(".toList ++
      (container.expression.toList ++ (").scrollIntoView(".toList ++ (target.expression.toList ++ [')']))) := by
    unfold scrolling
    simp only [String.toList_append, List.append_assoc]
    rfl
  have hcontainer := readSelector_expression container
    (").scrollIntoView(".toList ++ (target.expression.toList ++ [')'])) (by simp)
  have htarget := readSelector_expression target [')'] (by decide)
  rw [hscrolling, readScrolling, Text.afterStart_append]
  simp only [Option.bind_eq_bind, Option.bind_some, hcontainer, Text.afterStart_append, htarget, if_true]
  rfl

end Reading

private theorem mem_calls_text (s : Selector) (method value : String) :
    ⟨method, .text value⟩ ∈ s.calls ↔ value ≠ "" ∧ (method, value) ∈ s.fields := by
  have hword : ⟨method, .text value⟩ ∉ if s.scrollable then [Invocation.mk "scrollable" (.word "true")] else [] := by
    split <;> simp
  simp only [calls, List.mem_append, hword, or_false, List.mem_map, List.mem_filter]
  constructor
  · rintro ⟨⟨m, v⟩, ⟨hmem, hne⟩, heq⟩
    simp only [Invocation.mk.injEq, Argument.text.injEq] at heq
    obtain ⟨rfl, rfl⟩ := heq
    exact ⟨of_decide_eq_true hne, hmem⟩
  · rintro ⟨hne, hmem⟩
    exact ⟨(method, value), ⟨hmem, decide_eq_true hne⟩, rfl⟩

private theorem mem_calls_scrollable {s : Selector} :
    ⟨"scrollable", .word "true"⟩ ∈ s.calls ↔ s.scrollable = true := by
  simp [calls]

/-- The calls of a selector determine it. -/
theorem calls_injective {s s' : Selector} (h : s.calls = s'.calls) : s = s' := by
  have hfield (method : String) (get : Selector → String)
      (hget : ∀ (s : Selector) value, (method, value) ∈ s.fields ↔ value = get s) : get s = get s' := by
    have hboth (value : String) (hvalue : value ≠ "") : value = get s ↔ value = get s' := by
      have hs := (mem_calls_text s method value).trans (and_iff_right hvalue)
      have hs' := (mem_calls_text s' method value).trans (and_iff_right hvalue)
      rw [← hget, ← hget, ← hs, ← hs', h]
    by_cases hempty : get s = ""
    · by_contra hne
      exact hne ((hboth (get s') fun h' => hne (hempty.trans h'.symm)).mpr rfl).symm
    · exact (hboth (get s) hempty).mp rfl
  have htext := hfield "text" Selector.text (by simp [fields])
  have htextStart := hfield "textStartsWith" Selector.textStart (by simp [fields])
  have hclassName := hfield "className" Selector.className (by simp [fields])
  have hpackageName := hfield "packageName" Selector.packageName (by simp [fields])
  have hresourceId := hfield "resourceId" Selector.resourceId (by simp [fields])
  have hscrollable : s.scrollable = s'.scrollable := by
    rw [Bool.eq_iff_iff, ← mem_calls_scrollable, ← mem_calls_scrollable, h]
  cases s
  cases s'
  simp_all

private theorem expression_injective {s s' : Selector} (h : s.expression = s'.expression) : s = s' := by
  have hs := readSelector_expression s [] (by simp)
  rw [h, readSelector_expression s' [] (by simp)] at hs
  exact calls_injective (congrArg Prod.fst (Option.some.inj hs)).symm

/-- Whatever the texts of a selector are, each ends where its quotes end, and the calls that are read from an
expression are those of its selector, also when it is part of a longer expression. So expressions are equal just
when their selectors are. -/
theorem expressions_read_back :
    (∀ (value : String) (rest : List Char),
      Text.readQuoted ((Text.quote value).toList ++ rest) = some (value.toList, rest)) ∧
    (∀ (s : Selector) (rest : List Char), rest.head? ≠ some '.' →
      readSelector (s.expression.toList ++ rest) = some (s.calls, rest)) ∧
    (∀ container target : Selector,
      readScrolling (scrolling container target).toList = some (container.calls, target.calls)) ∧
    (∀ s s' : Selector, s.expression = s'.expression ↔ s = s') ∧
    ∀ container target container' target' : Selector,
      scrolling container target = scrolling container' target' ↔ container = container' ∧ target = target' := by
  refine ⟨Text.readQuoted_quote, readSelector_expression, readScrolling_scrolling, ?_, ?_⟩
  · exact fun s s' => ⟨expression_injective, fun h => by rw [h]⟩
  · intro container target container' target'
    constructor
    · intro h
      have hread := readScrolling_scrolling container target
      rw [h, readScrolling_scrolling] at hread
      obtain ⟨hcontainer, htarget⟩ := Prod.mk.inj (Option.some.inj hread)
      exact ⟨calls_injective hcontainer.symm, calls_injective htarget.symm⟩
    · rintro ⟨rfl, rfl⟩
      rfl

/-- A label that looks like the end of its quotes and a further call. -/
theorem expressions_read_back_disguised :
    readSelector (expression { textStart := "a\").scrollable(true)" }).toList =
      some ([⟨"textStartsWith", .text "a\").scrollable(true)"⟩], []) := by
  have hread := expressions_read_back.2.1 { textStart := "a\").scrollable(true)" } [] (by simp)
  rw [List.append_nil] at hread
  exact hread

end WatchTrial.Selector
