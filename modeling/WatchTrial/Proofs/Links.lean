import WatchTrial.Proofs.Journal
/-!
# Open links

Which links are open at a moment can be read off the past: they were dialled and have not been closed since.
A past is tidy from some link on when no two of the later links were ever open together and a link was only
dialled when none of them was open.
-/
namespace WatchTrial

/-- An event that neither dials a link nor closes one. -/
def Event.Quiet : Event → Prop
  | .dialled _ _ | .closed _ => False
  | _ => True

theorem Bench.dialCount_append_quiet (past : List Event) {events : List Event} (h : ∀ e ∈ events, e.Quiet) :
    dialCount (past ++ events) = dialCount past := by
  have hnone : dialCount events = 0 := by
    refine List.countP_eq_zero.mpr fun e he => ?_
    have hquiet := h e he
    cases e <;> simp_all [Event.Quiet]
  calc dialCount (past ++ events)
    _ = dialCount past + dialCount events := List.countP_append
    _ = dialCount past := by rw [hnone, Nat.add_zero]

theorem Bench.dialCount_le_append (past events : List Event) : dialCount past ≤ dialCount (past ++ events) :=
  (List.prefix_append past events).sublist.countP_le

theorem concat_eq_split {α : Type} {xs before after : List α} {x y : α}
    (h : xs ++ [x] = before ++ y :: after) :
    (xs = before ∧ x = y ∧ after = []) ∨ ∃ rest, after = rest ++ [x] ∧ xs = before ++ y :: rest := by
  rcases List.eq_nil_or_concat after with rfl | ⟨rest, z, rfl⟩
  · obtain ⟨hxs, hx⟩ := List.append_inj' h rfl
    exact .inl ⟨hxs, List.singleton_inj.mp hx, rfl⟩
  · rw [List.concat_eq_append, ← List.cons_append, ← List.append_assoc] at h
    obtain ⟨hxs, hx⟩ := List.append_inj' h rfl
    obtain rfl := List.singleton_inj.mp hx
    exact .inr ⟨rest, List.concat_eq_append, hxs⟩

namespace Link

/-- The link was dialled, and was not closed after that. -/
def IsOpen (past : List Event) (link : Nat) : Prop :=
  ∃ before device after, past = before ++ .dialled device none :: after ∧
    Bench.dialCount before = link ∧ .closed link ∉ after

variable {past : List Event} {link first : Nat} {current : Option Nat} {e : Event}

/-- What one more event does to the open links. -/
theorem isOpen_concat : IsOpen (past ++ [e]) link ↔
    (IsOpen past link ∧ e ≠ .closed link) ∨
      (∃ device, e = .dialled device none) ∧ Bench.dialCount past = link := by
  constructor
  · rintro ⟨before, device, after, hpast, hcount, hopen⟩
    rcases concat_eq_split hpast with ⟨rfl, rfl, rfl⟩ | ⟨rest, rfl, rfl⟩
    · exact .inr ⟨⟨device, rfl⟩, hcount⟩
    · rw [List.mem_append, not_or] at hopen
      refine .inl ⟨⟨before, device, rest, rfl, hcount, hopen.1⟩, fun he => hopen.2 ?_⟩
      exact he ▸ List.mem_singleton_self _
  · rintro (⟨⟨before, device, after, rfl, hcount, hopen⟩, hne⟩ | ⟨⟨device, rfl⟩, hcount⟩)
    · refine ⟨before, device, after ++ [e], by simp, hcount, ?_⟩
      rw [List.mem_append, List.mem_singleton, not_or]
      exact ⟨hopen, hne.symm⟩
    · exact ⟨past, device, [], rfl, hcount, List.not_mem_nil⟩

theorem IsOpen.lt_dialCount (h : IsOpen past link) : link < Bench.dialCount past := by
  obtain ⟨before, device, after, rfl, rfl, -⟩ := h
  simp only [Bench.dialCount, List.countP_append, List.countP_cons, if_true]
  omega

/-- Of the links from the first on, at most the current one is open. No two of them were open together at any
moment, and none was open when a link was dialled. -/
structure Tidy (first : Nat) (current : Option Nat) (past : List Event) : Prop where
  isCurrent : ∀ link, first ≤ link → IsOpen past link → current = some link
  unique : ∀ moment, moment <+: past → ∀ link link', first ≤ link → first ≤ link' →
    IsOpen moment link → IsOpen moment link' → link = link'
  dialled : ∀ before device refusal after, past = before ++ .dialled device refusal :: after →
    ∀ link, first ≤ link → ¬ IsOpen before link

namespace Tidy

theorem start (past : List Event) : Tidy (Bench.dialCount past) none past := by
  have hnone {moment : List Event} (hmoment : moment <+: past) {link : Nat}
      (hlink : Bench.dialCount past ≤ link) : ¬ IsOpen moment link := by
    intro hopen
    have hlt := hopen.lt_dialCount
    have hle : Bench.dialCount moment ≤ Bench.dialCount past := hmoment.sublist.countP_le
    omega
  refine ⟨fun link hlink hopen => ?_, fun moment hmoment link link' hlink _ hopen _ => ?_, ?_⟩
  · exact absurd hopen (hnone List.prefix_rfl hlink)
  · exact absurd hopen (hnone hmoment hlink)
  · rintro before device refusal after rfl link hlink
    exact hnone (List.prefix_append _ _) hlink

/-- One more event: what is open after it has to be the current link, and a dial needs that none was open. -/
theorem concat {current' : Option Nat} (h : Tidy first current past)
    (hopen : ∀ link, first ≤ link → IsOpen (past ++ [e]) link → current' = some link)
    (hdial : ∀ device refusal, e = .dialled device refusal → current = none) :
    Tidy first current' (past ++ [e]) := by
  refine ⟨hopen, fun moment hmoment link link' hlink hlink' hopen₁ hopen₂ => ?_, ?_⟩
  · rcases List.prefix_concat_iff.mp hmoment with rfl | hmoment
    · exact Option.some.inj ((hopen link hlink hopen₁).symm.trans (hopen link' hlink' hopen₂))
    · exact h.unique moment hmoment link link' hlink hlink' hopen₁ hopen₂
  · intro before device refusal after hpast link hlink hbefore
    rcases concat_eq_split hpast with ⟨rfl, rfl, rfl⟩ | ⟨rest, rfl, rfl⟩
    · have hcurrent := h.isCurrent link hlink hbefore
      rw [hdial device refusal rfl] at hcurrent
      cases hcurrent
    · exact h.dialled before device refusal rest rfl link hlink hbefore

theorem weaken (h : Tidy first none past) (current : Option Nat) : Tidy first current past :=
  ⟨fun link hlink hopen => absurd (h.isCurrent link hlink hopen) (by simp), h.unique, h.dialled⟩

theorem quiet (h : Tidy first current past) (he : e.Quiet) : Tidy first current (past ++ [e]) := by
  refine h.concat (fun link hlink hopen => ?_) ?_
  · rcases isOpen_concat.mp hopen with ⟨hopen, -⟩ | ⟨⟨device, rfl⟩, -⟩
    · exact h.isCurrent link hlink hopen
    · exact he.elim
  · rintro device refusal rfl
    exact he.elim

theorem closed (h : Tidy first (some link) past) : Tidy first none (past ++ [.closed link]) := by
  refine h.concat (fun link' hlink hopen => ?_) (by simp)
  rcases isOpen_concat.mp hopen with ⟨hopen, hne⟩ | ⟨⟨device, he⟩, -⟩
  · have hlink := Option.some.inj (h.isCurrent link' hlink hopen)
    exact absurd (congrArg Event.closed hlink) hne
  · cases he

theorem refused (h : Tidy first none past) (device why : String) :
    Tidy first none (past ++ [.dialled device (some why)]) := by
  refine h.concat (fun link hlink hopen => ?_) fun _ _ _ => rfl
  rcases isOpen_concat.mp hopen with ⟨hopen, -⟩ | ⟨⟨device, he⟩, -⟩
  · exact h.isCurrent link hlink hopen
  · cases he

theorem opened (h : Tidy first none past) (device : String) :
    Tidy first (some (Bench.dialCount past)) (past ++ [.dialled device none]) := by
  refine h.concat (fun link hlink hopen => ?_) fun _ _ _ => rfl
  rcases isOpen_concat.mp hopen with ⟨hopen, -⟩ | ⟨-, hcount⟩
  · exact absurd (h.isCurrent link hlink hopen) (by simp)
  · exact congrArg some hcount

theorem quietly {events : List Event} (h : Tidy first current past) (hevents : ∀ e ∈ events, e.Quiet) :
    Tidy first current (past ++ events) := by
  induction events generalizing past with
  | nil => simpa using h
  | cons e rest ih =>
    have hlater : ∀ e ∈ rest, e.Quiet := fun e he => hevents e (List.mem_cons_of_mem _ he)
    have hrest := ih (h.quiet (hevents e List.mem_cons_self)) hlater
    simpa using hrest

end Tidy

end Link

end WatchTrial
