import WatchTrial.Companion.Picker
import WatchTrial.Proofs.Outside
/-!
# The steps of selecting a watch face

Selecting a watch face takes steps, each of which is attempted again once when it fails. Which step follows is
decided by the step and, for a look at the handheld, by whether the tab with the watch faces was visible. A log
that follows these rules is a run of a small automaton, and what can be said about selecting is read off its runs.
-/
namespace WatchTrial

variable {ω α β : Type}

/-- The steps of selecting a watch face: the handheld is woken, the tab with the watch faces is looked for, the
companion app is started, its button for more is clicked, the next look is waited for, the list is scrolled to its end
and to the entry of the watch face, and that is clicked. -/
inductive SelectStep where
  | wake
  | find
  | start
  | more
  | sleep
  | toEnd
  | scrollTo
  | click
deriving Repr, DecidableEq

/-- Uses the automator for a handheld, and drops it if its session is gone. -/
def Handheld.use (h : Handheld ω α) (device : String) (f : α → Act ω β) : Act ω β := do
  let a ← h.automator device
  h.orDrop device (f a)

namespace SelectStep

def round : List SelectStep := [find, start, more, sleep]

/-- The steps from a look on, when so many looks are in vain. -/
def looking (rounds : Nat) : List SelectStep :=
  (List.replicate rounds round).flatten ++ [find, toEnd, scrollTo, click]

/-- The steps of a selection that looked in vain so many times: a word of
`wake (find start more sleep)* find toEnd scrollTo click`. -/
def word (rounds : Nat) : List SelectStep := wake :: looking rounds

/-- What is left of a word from a step on. -/
def rest (rounds : Nat) : Option SelectStep → List SelectStep
  | some wake => word rounds
  | some find => looking rounds
  | some start => start :: more :: sleep :: looking rounds
  | some more => more :: sleep :: looking rounds
  | some sleep => sleep :: looking rounds
  | some toEnd => [toEnd, scrollTo, click]
  | some scrollTo => [scrollTo, click]
  | some click => [click]
  | none => []

/-- One attempt at a step. A look gives whether the tab is visible, every other step that is done gives `true`. -/
def attempt [Sleeper ω] (h : Handheld ω α) (timeouts : Timeouts) (device label : String) :
    SelectStep → Task ω Bool
  | wake => Act.task do h.pressKey device "KEYCODE_WAKEUP"; return true
  | find => Act.task (h.use device (h.isVisible · watchFacesTab))
  | start => Act.task do h.launch device companionLauncher; return true
  | more => Act.task do h.use device (h.click · moreButton); return true
  | sleep => do pause timeouts.pollInterval; return true
  | toEnd => Act.task do h.use device (h.scrollToEnd · watchFaceList); return true
  | scrollTo => Act.task do h.use device (h.scrollTo · watchFaceList (watchFaceEntry label)); return true
  | click => Act.task do h.use device (h.click · (watchFaceTarget label)); return true

/-- The step that follows when a step is done, none after the last. -/
def next : SelectStep → Bool → Option SelectStep
  | wake, _ => some find
  | find, true => some toEnd
  | find, false => some start
  | start, _ => some more
  | more, _ => some sleep
  | sleep, _ => some find
  | toEnd, _ => some scrollTo
  | scrollTo, _ => some click
  | click, _ => none

def doing (label : String) : SelectStep → String
  | wake => "wake handheld"
  | find => "find " ++ watchFacesTab.expression
  | start => "start companion"
  | more => "click " ++ moreButton.expression
  | sleep => ""
  | toEnd => "scroll to end"
  | scrollTo => "scroll to " ++ (watchFaceEntry label).expression
  | click => "click " ++ (watchFaceTarget label).expression

/-- The fault of a selection that ends with a step that failed: that of a pause as it is, that of any other step
as a failed command. -/
def failure (label : String) (s : SelectStep) (cause : Fault) : Fault :=
  if s = sleep ∨ cause.carries .commandFailed then cause else .commandFailed (s.doing label) cause

private theorem failure_sleep (label : String) (cause : Fault) : sleep.failure label cause = cause := if_pos (.inl rfl)

private theorem failure_carries (label : String) {s : SelectStep} (h : s ≠ sleep) (cause : Fault) :
    (s.failure label cause).carries .commandFailed = true := by
  unfold failure
  split
  next hcause => exact hcause.resolve_left h
  next => simp [Fault.commandFailed, Fault.carries, Kind.mark?]

private theorem next_eq_none_iff {s : SelectStep} {x : Bool} : s.next x = none ↔ s = click := by
  cases s <;> cases x <;> simp [next]

private theorem rest_next (s : SelectStep) (x : Bool) (rounds : Nat) :
    ∃ rounds', rest rounds' (some s) = s :: rest rounds (s.next x) := by
  cases s with
  | find =>
    cases x with
    | true => exact ⟨0, rfl⟩
    | false => exact ⟨rounds + 1, rfl⟩
  | _ => exact ⟨rounds, rfl⟩

private theorem next_congr {s : SelectStep} (h : s ≠ find) (x y : Bool) : s.next x = s.next y := by
  cases s with
  | find => exact absurd rfl h
  | _ => rfl

private theorem rest_some (s : SelectStep) (rounds : Nat) :
    ∃ x rounds', rest rounds (some s) = s :: rest rounds' (s.next x) := by
  cases s with
  | find =>
    cases rounds with
    | zero => exact ⟨true, 0, rfl⟩
    | succ rounds => exact ⟨false, rounds, rfl⟩
  | _ => exact ⟨true, rounds, rfl⟩

private theorem follower_of_isPrefix {s s' : SelectStep} {steps : List SelectStep} {rounds : Nat}
    (h : s :: s' :: steps <+: rest rounds (some s)) :
    (∃ x, s.next x = some s') ∧ ∃ rounds', s' :: steps <+: rest rounds' (some s') := by
  obtain ⟨x, rounds', hrest⟩ := rest_some s rounds
  rw [hrest, List.prefix_cons_inj] at h
  cases hnext : s.next x with
  | none =>
    rw [hnext] at h
    cases List.prefix_nil.mp h
  | some follower =>
    rw [hnext] at h
    obtain ⟨_, _, hrest'⟩ := rest_some follower rounds'
    obtain rfl : s' = follower := (List.cons_prefix_cons.mp (hrest' ▸ h)).1
    exact ⟨⟨x, hnext⟩, rounds', h⟩

end SelectStep

/-- A step that was taken, with what its attempts gave, in their order. -/
structure SelectEntry where
  step : SelectStep
  attempts : List (Except Fault Bool)

namespace SelectEntry

/-- What the last attempt gave. -/
def result (e : SelectEntry) : Option (Except Fault Bool) := e.attempts.getLast?

/-- The step was attempted once, or, unless it is a pause, again after a first attempt that failed. -/
def Tried (e : SelectEntry) : Prop :=
  if e.step = .sleep then ∃ only, e.attempts = [only]
  else (∃ x, e.attempts = [.ok x]) ∨ ∃ fault second, e.attempts = [.error fault, second]

private theorem tried_once {s : SelectStep} (hs : s ≠ .sleep) (x : Bool) : Tried ⟨s, [.ok x]⟩ := by
  rw [Tried, if_neg hs]
  exact .inl ⟨x, rfl⟩

private theorem tried_twice {s : SelectStep} (hs : s ≠ .sleep) (fault : Fault) (second : Except Fault Bool) :
    Tried ⟨s, [.error fault, second]⟩ := by
  rw [Tried, if_neg hs]
  exact .inr ⟨fault, second, rfl⟩

private theorem Tried.result_eq {e : SelectEntry} (h : e.Tried) : ∃ last, e.result = some last := by
  have hne : e.attempts ≠ [] := by
    intro hnil
    simp [Tried, hnil] at h
  exact ⟨_, List.getLast?_eq_some_getLast hne⟩

private theorem Tried.eq_of_isPrefix {e e' : SelectEntry} (h : e.Tried) (h' : e'.Tried) (hstep : e.step = e'.step)
    (hattempts : e.attempts <+: e'.attempts) : e = e' := by
  obtain ⟨s, attempts⟩ := e
  obtain ⟨_, attempts'⟩ := e'
  cases hstep
  by_cases hs : s = .sleep
  · rw [Tried, if_pos hs] at h h'
    obtain ⟨_, rfl⟩ := h
    obtain ⟨_, rfl⟩ := h'
    simp_all
  · rw [Tried, if_neg hs] at h h'
    obtain ⟨_, rfl⟩ | ⟨_, _, rfl⟩ := h <;> obtain ⟨_, rfl⟩ | ⟨_, _, rfl⟩ := h' <;> simp_all

end SelectEntry

/-- Attempts at a task, one after the other, gave these outcomes. -/
inductive Task.Attempted (t : Task ω β) : List (Except Fault β) → Scene ω → Scene ω → Prop
  | nil (scene : Scene ω) : Attempted t [] scene scene
  | cons {outcome : Except Fault β} {outcomes : List (Except Fault β)} {scene scene₁ scene₂ : Scene ω} :
    t scene = (outcome, scene₁) → Attempted t outcomes scene₁ scene₂ →
      Attempted t (outcome :: outcomes) scene scene₂

theorem Task.Attempted.one {t : Task ω β} {outcome : Except Fault β} {scene scene₁ : Scene ω}
    (h : t scene = (outcome, scene₁)) : t.Attempted [outcome] scene scene₁ := .cons h (.nil _)

namespace Task.Attempted

variable {t : Task ω β} {outcomes outcomes' : List (Except Fault β)} {scene scene₁ scene₂ : Scene ω}

private theorem comparable (h : t.Attempted outcomes scene scene₁) (h' : t.Attempted outcomes' scene scene₂) :
    outcomes <+: outcomes' ∨ outcomes' <+: outcomes := by
  induction h generalizing outcomes' with
  | nil => exact .inl List.nil_prefix
  | cons hrun _ ih =>
    cases h' with
    | nil => exact .inr List.nil_prefix
    | cons hrun' hrest' =>
      cases hrun.symm.trans hrun'
      exact (ih hrest').imp (List.prefix_cons_inj _).mpr (List.prefix_cons_inj _).mpr

private theorem scene_eq (h : t.Attempted outcomes scene scene₁) (h' : t.Attempted outcomes scene scene₂) :
    scene₁ = scene₂ := by
  induction h with
  | nil =>
    cases h'
    rfl
  | cons hrun _ ih =>
    obtain _ | ⟨hrun', hrest'⟩ := h'
    cases hrun.symm.trans hrun'
    exact ih hrest'

end Task.Attempted

theorem SelectEntry.Tried.unique {t : Task ω Bool} {e e' : SelectEntry} {scene scene₁ scene₂ : Scene ω}
    (h : e.Tried) (h' : e'.Tried) (hstep : e.step = e'.step) (hattempted : t.Attempted e.attempts scene scene₁)
    (hattempted' : t.Attempted e'.attempts scene scene₂) : e = e' ∧ scene₁ = scene₂ := by
  have heq : e = e' := by
    rcases hattempted.comparable hattempted' with hattempts | hattempts
    · exact h.eq_of_isPrefix h' hstep hattempts
    · exact (h'.eq_of_isPrefix h hstep.symm hattempts).symm
  subst heq
  exact ⟨rfl, hattempted.scene_eq hattempted'⟩

/-- The attempts of a log lead from one scene to another, and nothing else was done in between. -/
inductive SelectLog.Leads [Sleeper ω] (h : Handheld ω α) (timeouts : Timeouts) (device label : String) :
    List SelectEntry → Scene ω → Scene ω → Prop
  | nil (scene : Scene ω) : Leads h timeouts device label [] scene scene
  | cons {e : SelectEntry} {log : List SelectEntry} {scene scene₁ scene₂ : Scene ω} :
    (e.step.attempt h timeouts device label).Attempted e.attempts scene scene₁ →
      Leads h timeouts device label log scene₁ scene₂ → Leads h timeouts device label (e :: log) scene scene₂

/-- The log starts with a step, each step that was done is followed by the next one, and the first that failed
is the last. The outcome is the one of a selection with this log. -/
inductive SelectLog.Follows (label : String) : Option SelectStep → List SelectEntry → Except Fault Unit → Prop
  | done : Follows label none [] (.ok ())
  | failed {e : SelectEntry} {cause : Fault} : e.Tried → e.result = some (.error cause) →
    Follows label (some e.step) [e] (.error (e.step.failure label cause))
  | next {e : SelectEntry} {x : Bool} {log : List SelectEntry} {outcome : Except Fault Unit} :
    e.Tried → e.result = some (.ok x) → Follows label (e.step.next x) log outcome →
      Follows label (some e.step) (e :: log) outcome

/-- What the log of a selection keeps to, together with how the selection ended. -/
structure SelectLog.Orderly (label : String) (log : List SelectEntry) (outcome : Except Fault Unit) : Prop where
  steps : ∃ rounds, log.map (·.step) <+: SelectStep.word rounds
  /-- The companion app is started just after a look in vain, and the list is scrolled just after one that was not. -/
  looks : ∀ earlier e later, log = earlier ++ e :: later → e.step = .find →
    (later.head?.map (·.step) = some .start ↔ e.result = some (.ok false)) ∧
    (later.head?.map (·.step) = some .toEnd ↔ e.result = some (.ok true))
  tried : ∀ e ∈ log, e.Tried
  /-- A step that failed in the end is the last one, and only then the selection fails. -/
  failed : ∀ earlier e later cause, log = earlier ++ e :: later → e.result = some (.error cause) →
    later = [] ∧ outcome = .error (e.step.failure label cause) ∧
      (e.step = .sleep → outcome = .error cause) ∧
      (e.step ≠ .sleep → (e.step.failure label cause).carries .commandFailed = true)
  /-- The selection succeeds just when its last step was a click that succeeded. -/
  done : outcome = .ok () ↔ ∃ earlier e x, log = earlier ++ [e] ∧ e.step = .click ∧ e.result = some (.ok x)
  stops : outcome ≠ .ok () → ∃ earlier e cause, log = earlier ++ [e] ∧ e.result = some (.error cause)

namespace SelectLog.Follows

variable {label : String} {s : Option SelectStep} {e : SelectEntry} {log : List SelectEntry}
  {outcome : Except Fault Unit}

theorem head (h : Follows label s log outcome) : log.head?.map (·.step) = s := by
  cases h <;> rfl

/-- Every entry of a log is that of a step that failed, which is then the last, or of one that was done, and then
the rules go on with the next step. -/
theorem entry {earlier later : List SelectEntry} (h : Follows label s (earlier ++ e :: later) outcome) :
    e.Tried ∧
      ((∃ cause, e.result = some (.error cause) ∧ later = [] ∧ outcome = .error (e.step.failure label cause)) ∨
        ∃ x, e.result = some (.ok x) ∧ Follows label (e.step.next x) later outcome) := by
  induction earlier generalizing s with
  | nil =>
    cases h with
    | failed htried hresult => exact ⟨htried, .inl ⟨_, hresult, rfl, rfl⟩⟩
    | next htried hresult hrest => exact ⟨htried, .inr ⟨_, hresult, hrest⟩⟩
  | cons first rest ih =>
    rw [List.cons_append] at h
    generalize htail : rest ++ e :: later = tail at h
    cases h with
    | failed => simp at htail
    | next _ _ hrest => exact ih (htail ▸ hrest)

theorem tried (h : Follows label s log outcome) (he : e ∈ log) : e.Tried := by
  obtain ⟨earlier, later, rfl⟩ := List.append_of_mem he
  exact h.entry.1

private theorem looks {earlier later : List SelectEntry} (h : Follows label s (earlier ++ e :: later) outcome)
    (hfind : e.step = .find) :
    (later.head?.map (·.step) = some .start ↔ e.result = some (.ok false)) ∧
      (later.head?.map (·.step) = some .toEnd ↔ e.result = some (.ok true)) := by
  obtain ⟨-, ⟨cause, hresult, rfl, -⟩ | ⟨x, hresult, hrest⟩⟩ := h.entry
  · simp [hresult]
  · rw [hrest.head, hresult, hfind]
    cases x <;> simp [SelectStep.next]

private theorem of_failed {earlier later : List SelectEntry} {cause : Fault}
    (h : Follows label s (earlier ++ e :: later) outcome) (hfailed : e.result = some (.error cause)) :
    later = [] ∧ outcome = .error (e.step.failure label cause) := by
  obtain ⟨-, ⟨cause', hresult, hlast, houtcome⟩ | ⟨x, hresult, -⟩⟩ := h.entry
  · cases hfailed.symm.trans hresult
    exact ⟨hlast, houtcome⟩
  · cases hfailed.symm.trans hresult

private theorem click_of_ok (h : Follows label s log outcome) (hs : s ≠ none) (hok : outcome = .ok ()) :
    ∃ earlier e x, log = earlier ++ [e] ∧ e.step = .click ∧ e.result = some (.ok x) := by
  induction h with
  | done => exact absurd rfl hs
  | failed => cases hok
  | @next e x log outcome _ hresult hrest ih =>
    -- only a click has nothing after it
    by_cases hend : e.step.next x = none
    · rw [hend] at hrest
      cases hrest
      exact ⟨[], e, x, rfl, SelectStep.next_eq_none_iff.mp hend, hresult⟩
    · obtain ⟨earlier, last, y, rfl, hclick, hclicked⟩ := ih hend hok
      exact ⟨e :: earlier, last, y, rfl, hclick, hclicked⟩

private theorem ok_of_click {earlier : List SelectEntry} {x : Bool} (h : Follows label s (earlier ++ [e]) outcome)
    (hclick : e.step = .click) (hclicked : e.result = some (.ok x)) : outcome = .ok () := by
  obtain ⟨-, ⟨cause, hresult, -, -⟩ | ⟨y, -, hrest⟩⟩ := h.entry
  · cases hclicked.symm.trans hresult
  · rw [SelectStep.next_eq_none_iff.mpr hclick] at hrest
    cases hrest
    rfl

private theorem failed_of_ne_ok (h : Follows label s log outcome) (hne : outcome ≠ .ok ()) :
    ∃ earlier e cause, log = earlier ++ [e] ∧ e.result = some (.error cause) := by
  induction h with
  | done => exact absurd rfl hne
  | @failed e cause _ hresult => exact ⟨[], e, cause, rfl, hresult⟩
  | @next e x log outcome _ _ _ ih =>
    obtain ⟨earlier, last, cause, rfl, hfailed⟩ := ih hne
    exact ⟨e :: earlier, last, cause, rfl, hfailed⟩

theorem steps (h : Follows label s log outcome) : ∃ rounds, log.map (·.step) <+: SelectStep.rest rounds s := by
  induction h with
  | done => exact ⟨0, List.nil_prefix⟩
  | @failed e cause =>
    -- any word will do that goes on with the step that failed
    obtain ⟨rounds, hrest⟩ := SelectStep.rest_next e.step true 0
    exact ⟨rounds, hrest ▸ List.prefix_append [e.step] _⟩
  | @next e x log outcome _ _ _ ih =>
    obtain ⟨rounds, hlog⟩ := ih
    obtain ⟨rounds', hrest⟩ := SelectStep.rest_next e.step x rounds
    exact ⟨rounds', hrest ▸ (List.prefix_cons_inj _).mpr hlog⟩

private theorem orderly (h : Follows label (some .wake) log outcome) : Orderly label log outcome where
  steps := h.steps
  looks := by
    rintro earlier e later rfl hfind
    exact h.looks hfind
  tried _ he := h.tried he
  failed := by
    rintro earlier e later cause rfl hfailed
    obtain ⟨hlast, houtcome⟩ := h.of_failed hfailed
    refine ⟨hlast, houtcome, fun hsleep => ?_, fun hstep => SelectStep.failure_carries label hstep cause⟩
    rw [houtcome, hsleep, SelectStep.failure_sleep]
  done := by
    refine ⟨h.click_of_ok (Option.some_ne_none _), ?_⟩
    rintro ⟨earlier, e, x, rfl, hclick, hclicked⟩
    exact h.ok_of_click hclick hclicked
  stops := h.failed_of_ne_ok

/-- Where a selection starts decides its log, and so how it ends. -/
theorem unique [Sleeper ω] {h : Handheld ω α} {timeouts : Timeouts} {device : String} {log' : List SelectEntry}
    {outcome' : Except Fault Unit} {scene scene₁ scene₂ : Scene ω} (hfollows : Follows label s log outcome)
    (hfollows' : Follows label s log' outcome') (hleads : Leads h timeouts device label log scene scene₁)
    (hleads' : Leads h timeouts device label log' scene scene₂) :
    log = log' ∧ outcome = outcome' ∧ scene₁ = scene₂ := by
  induction log generalizing s log' scene with
  | nil =>
    cases hfollows
    cases hfollows'
    cases hleads
    cases hleads'
    exact ⟨rfl, rfl, rfl⟩
  | cons e later ih =>
    obtain rfl : some e.step = s := hfollows.head
    cases log' with
    | nil => cases hfollows'.head
    | cons e' later' =>
      have hstep : e'.step = e.step := Option.some.inj hfollows'.head
      obtain ⟨htried, hentry⟩ := entry (show Follows label _ ([] ++ e :: later) outcome from hfollows)
      obtain ⟨htried', hentry'⟩ := entry (show Follows label _ ([] ++ e' :: later') outcome' from hfollows')
      obtain _ | ⟨hattempted, hleads⟩ := hleads
      obtain _ | ⟨hattempted', hleads'⟩ := hleads'
      rw [hstep] at hattempted'
      obtain ⟨rfl, rfl⟩ := htried.unique htried' hstep.symm hattempted hattempted'
      -- both entries are the same now, so both logs end here or both go on with the same step
      rcases hentry with ⟨cause, hresult, rfl, rfl⟩ | ⟨x, hresult, hrest⟩ <;>
        rcases hentry' with ⟨cause', hresult', rfl, rfl⟩ | ⟨x', hresult', hrest'⟩ <;>
        cases hresult.symm.trans hresult'
      · cases hleads
        cases hleads'
        exact ⟨rfl, rfl, rfl⟩
      · obtain ⟨rfl, rfl, rfl⟩ := ih hrest hrest' hleads hleads'
        exact ⟨rfl, rfl, rfl⟩

end SelectLog.Follows

namespace SelectLog.Orderly

variable {label : String} {log : List SelectEntry} {outcome : Except Fault Unit}

private theorem follows_from (h : Orderly label log outcome) {earlier later : List SelectEntry} {e : SelectEntry}
    {rounds : Nat} (hlog : log = earlier ++ e :: later)
    (hsteps : (e :: later).map (·.step) <+: SelectStep.rest rounds (some e.step)) :
    Follows label (some e.step) (e :: later) outcome := by
  induction later generalizing earlier e rounds with
  | nil =>
    have htried : e.Tried := h.tried e (by simp [hlog])
    have hlast {earlier' : List SelectEntry} {last : SelectEntry} (h' : log = earlier' ++ [last]) : last = e := by
      simpa using (List.append_inj' (h'.symm.trans hlog) rfl).2
    obtain ⟨cause | x, hresult⟩ := htried.result_eq
    · rw [(h.failed _ _ _ _ hlog hresult).2.1]
      exact .failed htried hresult
    · -- a log that ends with a step that was done ends with the click
      by_cases hok : outcome = .ok ()
      · obtain ⟨_, last, _, hend, hclick, -⟩ := h.done.mp hok
        refine .next htried hresult ?_
        rw [SelectStep.next_eq_none_iff.mpr (hlast hend ▸ hclick), hok]
        exact .done
      · obtain ⟨_, last, cause, hend, hfailed⟩ := h.stops hok
        cases hresult.symm.trans (hlast hend ▸ hfailed)
  | cons second later ih =>
    have htried : e.Tried := h.tried e (by simp [hlog])
    rw [List.map_cons, List.map_cons] at hsteps
    obtain ⟨⟨y, hnext⟩, rounds', hsteps'⟩ := SelectStep.follower_of_isPrefix hsteps
    have hlog' : log = (earlier ++ [e]) ++ second :: later := by simp [hlog]
    have hrest := ih hlog' hsteps'
    obtain ⟨cause | x, hresult⟩ := htried.result_eq
    · cases (h.failed _ _ _ _ hlog hresult).1
    · refine .next htried hresult ?_
      suffices hx : e.step.next x = some second.step by rwa [hx]
      by_cases hfind : e.step = .find
      · have hlooks := h.looks _ _ _ hlog hfind
        rw [hfind] at hnext ⊢
        have hlooked : e.result = some (.ok y) := by
          cases y with
          | true => exact hlooks.2.mp hnext.symm
          | false => exact hlooks.1.mp hnext.symm
        cases hresult.symm.trans hlooked
        exact hnext
      · rw [← hnext, SelectStep.next_congr hfind]

private theorem follows (h : Orderly label log outcome) : Follows label (some .wake) log outcome := by
  obtain ⟨rounds, hsteps⟩ := h.steps
  cases log with
  | nil =>
    by_cases hok : outcome = .ok ()
    · obtain ⟨_, _, _, hend, -⟩ := h.done.mp hok
      simp at hend
    · obtain ⟨_, _, _, hend, -⟩ := h.stops hok
      simp at hend
  | cons e later =>
    have hwake : e.step = .wake := (List.cons_prefix_cons.mp hsteps).1
    have hlog : e :: later = [] ++ e :: later := rfl
    rw [← hwake]
    exact h.follows_from hlog (hwake ▸ hsteps : _ <+: SelectStep.rest rounds (some e.step))

end SelectLog.Orderly

/-- The outcome and the scene are those of some log that starts with a step. -/
def Task.LoggedAt [Sleeper ω] (h : Handheld ω α) (timeouts : Timeouts) (device label : String)
    (s : Option SelectStep) (t : Task ω Unit) (scene : Scene ω) : Prop :=
  ∃ log, SelectLog.Leads h timeouts device label log scene (t scene).2 ∧
    SelectLog.Follows label s log (t scene).1

namespace Task.LoggedAt

variable [Sleeper ω] {h : Handheld ω α} {timeouts : Timeouts} {device label : String} {scene : Scene ω}

theorem done (scene : Scene ω) : LoggedAt h timeouts device label none (pure ()) scene :=
  ⟨[], .nil scene, .done⟩

theorem next {e : SelectEntry} {x : Bool} {scene₁ : Scene ω} {t k : Task ω Unit}
    (hattempted : (e.step.attempt h timeouts device label).Attempted e.attempts scene scene₁)
    (htried : e.Tried) (hresult : e.result = some (.ok x)) (hrun : t scene = k scene₁)
    (hk : LoggedAt h timeouts device label (e.step.next x) k scene₁) :
    LoggedAt h timeouts device label (some e.step) t scene := by
  obtain ⟨log, hleads, hfollows⟩ := hk
  unfold LoggedAt
  rw [hrun]
  exact ⟨e :: log, .cons hattempted hleads, .next htried hresult hfollows⟩

theorem failed {e : SelectEntry} {cause : Fault} {scene₁ : Scene ω} {t : Task ω Unit}
    (hattempted : (e.step.attempt h timeouts device label).Attempted e.attempts scene scene₁)
    (htried : e.Tried) (hresult : e.result = some (.error cause))
    (hrun : t scene = (.error (e.step.failure label cause), scene₁)) :
    LoggedAt h timeouts device label (some e.step) t scene := by
  unfold LoggedAt
  rw [hrun]
  exact ⟨[e], .cons hattempted (.nil _), .failed htried hresult⟩

private theorem retried {s : SelectStep} (hs : s ≠ .sleep) {a : Act ω β} {g : β → Bool} {k : β → Task ω Unit}
    (hattempt : s.attempt h timeouts device label = Act.task (a >>= fun x => pure (g x)))
    (hk : ∀ x outside, LoggedAt h timeouts device label (s.next (g x)) (k x) { scene with outside }) :
    LoggedAt h timeouts device label (some s) ((retryOnce (s.doing label) a).task >>= k) scene := by
  have hok {scene₀ : Scene ω} {x : β} {o : ω} (hrun : a scene₀.outside = (.ok x, o)) :
      s.attempt h timeouts device label scene₀ = (.ok (g x), { scene₀ with outside := o }) := by
    rw [hattempt]
    exact Act.task_of_run (Act.bind_ok hrun _)
  have herror {scene₀ : Scene ω} {fault : Fault} {o : ω} (hrun : a scene₀.outside = (.error fault, o)) :
      s.attempt h timeouts device label scene₀ = (.error fault, { scene₀ with outside := o }) := by
    rw [hattempt]
    exact Act.task_of_run (Act.bind_error hrun _)
  rcases hfirst : a scene.outside with ⟨fault | x, o₁⟩
  · rcases hsecond : a o₁ with ⟨fault' | x, o₂⟩
    · have hrun : retryOnce (s.doing label) a scene.outside = (.error (s.failure label fault'), o₂) := by
        simp [retryOnce, hfirst, hsecond, SelectStep.failure, hs]
      exact failed (e := ⟨s, [.error fault, .error fault']⟩) (.cons (herror hfirst) (.one (herror hsecond)))
        (SelectEntry.tried_twice hs _ _) rfl (Act.bind_error (Act.task_of_run hrun) k)
    · have hrun : retryOnce (s.doing label) a scene.outside = (.ok x, o₂) := by
        simp [retryOnce, hfirst, hsecond]
      exact next (e := ⟨s, [.error fault, .ok (g x)]⟩) (.cons (herror hfirst) (.one (hok hsecond)))
        (SelectEntry.tried_twice hs _ _) rfl (Act.bind_ok (Act.task_of_run hrun) k) (hk x o₂)
  · have hrun : retryOnce (s.doing label) a scene.outside = (.ok x, o₁) := by
      simp [retryOnce, hfirst]
    exact next (e := ⟨s, [.ok (g x)]⟩) (.one (hok hfirst)) (SelectEntry.tried_once hs _) rfl
      (Act.bind_ok (Act.task_of_run hrun) k) (hk x o₁)

theorem paused {k : Task ω Unit}
    (hk : ∀ scene₁ : Scene ω, scene₁.left < scene.left → LoggedAt h timeouts device label (some .find) k scene₁) :
    LoggedAt h timeouts device label (some .sleep) (pause timeouts.pollInterval >>= fun _ => k) scene := by
  rcases hrun : pause timeouts.pollInterval scene with ⟨fault | x, scene₁⟩
  · refine failed (e := ⟨.sleep, [.error fault]⟩) (.one (Act.bind_error hrun _)) ⟨_, rfl⟩ rfl ?_
    rw [SelectStep.failure_sleep]
    exact Act.bind_error hrun _
  · exact next (e := ⟨.sleep, [.ok true]⟩) (.one (Act.bind_ok hrun _)) ⟨_, rfl⟩ rfl (Act.bind_ok hrun _)
      (hk scene₁ (pause_left_lt hrun))

end Task.LoggedAt

namespace Handheld

variable (h : Handheld ω α) (device label : String)

private theorem pick_task : (h.pick device label).task =
    (retryOnce (SelectStep.toEnd.doing label) (h.use device (h.scrollToEnd · watchFaceList))).task >>= fun _ =>
    (retryOnce (SelectStep.scrollTo.doing label)
      (h.use device (h.scrollTo · watchFaceList (watchFaceEntry label)))).task >>= fun _ =>
    (retryOnce (SelectStep.click.doing label)
      (h.use device (h.click · (watchFaceTarget label)))).task >>= fun _ => pure () := by
  simp only [pick, Act.task_bind, bind_pure_unit]
  rfl

private theorem lookForList_task : (h.lookForList device).task =
    (retryOnce (SelectStep.find.doing label) (h.use device (h.isVisible · watchFacesTab))).task >>= fun visible =>
    if visible then pure (some ())
    else
      (retryOnce (SelectStep.start.doing label) (h.launch device companionLauncher)).task >>= fun _ =>
      (retryOnce (SelectStep.more.doing label) (h.use device (h.click · moreButton))).task >>= fun _ =>
      pure none := by
  unfold lookForList
  rw [Act.task_bind]
  refine bind_congr fun visible => ?_
  cases visible with
  | true => rfl
  | false =>
    rw [if_neg Bool.false_ne_true, if_neg Bool.false_ne_true]
    simp only [Act.task_bind]
    rfl

variable [Sleeper ω] (timeouts : Timeouts)

def seek : Task ω Unit := do
  poll timeouts.pollInterval fun _ => h.lookForList device
  (h.pick device label).task

private theorem seek_eq : h.seek device label timeouts =
    (retryOnce (SelectStep.find.doing label) (h.use device (h.isVisible · watchFacesTab))).task >>= fun visible =>
    if visible then (h.pick device label).task
    else
      (retryOnce (SelectStep.start.doing label) (h.launch device companionLauncher)).task >>= fun _ =>
      (retryOnce (SelectStep.more.doing label) (h.use device (h.click · moreButton))).task >>= fun _ =>
      pause timeouts.pollInterval >>= fun _ => h.seek device label timeouts := by
  change (poll timeouts.pollInterval (fun _ => h.lookForList device) >>= fun _ => (h.pick device label).task) = _
  rw [poll_const, h.lookForList_task device label]
  simp only [bind_assoc]
  refine bind_congr fun visible => ?_
  cases visible with
  | true => rfl
  | false =>
    rw [if_neg Bool.false_ne_true, if_neg Bool.false_ne_true]
    simp only [bind_assoc, pure_bind, Option.elim_none]
    rfl

private theorem seek_logged (scene : Scene ω) :
    Task.LoggedAt h timeouts device label (some .find) (h.seek device label timeouts) scene := by
  -- every look in vain takes a pause, so the patience for further pauses bounds the looks
  induction hleft : scene.left using Nat.strongRecOn generalizing scene with
  | _ left ih =>
    rw [seek_eq]
    refine .retried (s := .find) (g := id) (by decide) (congrArg Act.task (bind_pure _).symm) fun visible outside => ?_
    cases visible with
    | true =>
      rw [pick_task]
      refine .retried (s := .toEnd) (by decide) rfl fun _ outside => ?_
      refine .retried (s := .scrollTo) (by decide) rfl fun _ outside => ?_
      exact .retried (s := .click) (by decide) rfl fun _ outside => .done _
    | false =>
      refine .retried (s := .start) (by decide) rfl fun _ outside => ?_
      refine .retried (s := .more) (by decide) rfl fun _ outside => ?_
      refine .paused fun scene₁ hlt => ?_
      exact ih scene₁.left (hleft ▸ hlt) scene₁ rfl

end Handheld

/-- However a selection of a watch face goes, it is a sequence of steps that keep to their order, and nothing else is
done. It looks for the tab as long as this is not visible, attempts no step more than twice, and ends at the first
step that failed. No other sequence of steps keeps to that order from the same scene. -/
theorem Handheld.select_in_order [Sleeper ω] (h : Handheld ω α) (timeouts : Timeouts) (device label : String)
    (scene : Scene ω) :
    ∃ log, SelectLog.Leads h timeouts device (plainLabel label) log scene
        (h.select timeouts device label scene).2 ∧
      SelectLog.Orderly (plainLabel label) log (h.select timeouts device label scene).1 ∧
      ∀ log' outcome scene', SelectLog.Leads h timeouts device (plainLabel label) log' scene scene' →
        SelectLog.Orderly (plainLabel label) log' outcome →
        log' = log ∧ (outcome, scene') = h.select timeouts device label scene := by
  have hlogged : Task.LoggedAt h timeouts device (plainLabel label) (some .wake)
      (h.select timeouts device label) scene :=
    .retried (s := .wake) (by decide) rfl fun _ outside => h.seek_logged device (plainLabel label) timeouts _
  obtain ⟨log, hleads, hfollows⟩ := hlogged
  refine ⟨log, hleads, hfollows.orderly, fun log' outcome scene' hleads' horderly' => ?_⟩
  obtain ⟨hlog, houtcome, hscene⟩ := horderly'.follows.unique hfollows hleads' hleads
  exact ⟨hlog, Prod.ext houtcome hscene⟩

end WatchTrial
