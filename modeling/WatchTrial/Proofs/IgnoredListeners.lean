import WatchTrial.Proofs.DumpBlocks
/-!
# What a filter takes away

A filter is asked for every row of a dump in the middle of the reading, and yet only takes registrations away: the
ones that it ignores. How the lines are read, and which are faults, is the same for all filters. What leaked between
two dumps is then filtered like a dump is, so nothing leaks because of a filter, and what ignored listeners hold
or release goes unnoticed.
-/
namespace WatchTrial

namespace ListenerFilter

variable {f g : ListenerFilter} {listener : String}

/-- A filter names every prefix and every listener that another one names. -/
structure Extends (g f : ListenerFilter) : Prop where
  prefixes : ∀ start ∈ f.prefixes.getD [], start ∈ g.prefixes.getD []
  exact : ∀ name ∈ f.exact.getD [], name ∈ g.exact.getD []

private theorem ignores_iff : f.ignores listener = true ↔ listener = "" ∨ listener ∈ f.exact.getD [] ∨
    ∃ start ∈ f.prefixes.getD [], start ≠ "" ∧ start.toList <+: listener.toList := by
  simp [ignores, or_assoc]

theorem Extends.ignores (h : g.Extends f) (hignores : f.ignores listener = true) : g.ignores listener = true := by
  rw [ignores_iff] at hignores ⊢
  rcases hignores with hempty | hname | ⟨start, hstart, hstarts⟩
  · exact .inl hempty
  · exact .inr (.inl (h.exact _ hname))
  · exact .inr (.inr ⟨start, h.prefixes _ hstart, hstarts⟩)

private theorem extends_none : f.Extends none where
  prefixes _ h := by cases h
  exact _ h := by cases h

end ListenerFilter

private theorem Snapshot.elements_eq_filter {s t : Snapshot} {kept : Registration → Bool}
    (h : ∀ r, r ∈ s.elements ↔ r ∈ t.elements ∧ kept r = true) : s.elements = t.elements.filter kept :=
  s.ascending.eq_of_mem_iff (t.ascending.filter kept) fun r => by rw [h, List.mem_filter]

namespace Dump

variable {f g : ListenerFilter} {r : Registration} {text : String}

/-- What leaked between two dumps. -/
def leaks (filter : ListenerFilter) (before after : String) : Snapshot :=
  (read filter after).1.difference (read filter before).1

/-- Two dumps have the same registrations, apart from those of ignored listeners. -/
def AgreeOn (filter : ListenerFilter) (text text' : String) : Prop :=
  ∀ r : Registration, filter.ignores r.listener = false →
    (r ∈ (read .none text).1.elements ↔ r ∈ (read .none text').1.elements)

private theorem Block.registers_extends (h : g.Extends f) (block : Block) :
    block.Registers g r ↔ block.Registers f r ∧ g.ignores r.listener = false := by
  have hignores : g.ignores r.listener = false → f.ignores r.listener = false := by
    rw [← Bool.not_eq_true, ← Bool.not_eq_true]
    exact mt h.ignores
  constructor
  · rintro ⟨head, rows, htable, hlistener, hkept, htype, hrow⟩
    exact ⟨⟨head, rows, htable, hlistener, hignores hkept, htype, hrow⟩, hkept⟩
  · rintro ⟨⟨head, rows, htable, hlistener, -, htype, hrow⟩, hkept⟩
    exact ⟨head, rows, htable, hlistener, hkept, htype, hrow⟩

private theorem mem_read_extends (h : g.Extends f) :
    r ∈ (read g text).1.elements ↔ r ∈ (read f text).1.elements ∧ g.ignores r.listener = false := by
  simp only [mem_read_iff, Block.registers_extends h]
  constructor
  · rintro ⟨block, hblock, hregisters, hkept⟩
    exact ⟨⟨block, hblock, hregisters⟩, hkept⟩
  · rintro ⟨⟨block, hblock, hregisters⟩, hkept⟩
    exact ⟨block, hblock, hregisters, hkept⟩

private theorem mem_leaks_extends (h : g.Extends f) {before after : String} :
    r ∈ (leaks g before after).elements ↔
      r ∈ (leaks f before after).elements ∧ g.ignores r.listener = false := by
  simp only [leaks, Snapshot.mem_difference, mem_read_extends h, not_and]
  constructor
  · rintro ⟨⟨hafter, hkept⟩, hbefore⟩
    exact ⟨⟨hafter, fun hmem => hbefore hmem hkept⟩, hkept⟩
  · rintro ⟨⟨hafter, hbefore⟩, hkept⟩
    exact ⟨⟨hafter, hkept⟩, fun hmem => absurd hmem hbefore⟩

private theorem read_agree {text' : String} (h : AgreeOn f text text') : (read f text).1 = (read f text').1 := by
  refine Snapshot.eq_of_mem_iff fun r => ?_
  have hnone : f.Extends .none := ListenerFilter.extends_none
  rw [mem_read_extends hnone, mem_read_extends hnone]
  exact and_congr_left (h r)

/-- A filter takes from a dump, and from what leaked between two dumps, exactly the registrations of the listeners
that it ignores, and it does not change the faults. A filter that names more can only take away leaks, and two pairs
of dumps that differ in the registrations of ignored listeners have the same leaks. -/
theorem read_filtered (f : ListenerFilter) :
    (∀ text, (read f text).1.elements = (read .none text).1.elements.filter (! f.ignores ·.listener) ∧
      ∀ g, (read f text).2 = (read g text).2) ∧
    (∀ before after, (leaks f before after).elements =
      (leaks .none before after).elements.filter (! f.ignores ·.listener)) ∧
    (∀ g : ListenerFilter, g.Extends f → ∀ before after,
      (leaks g before after).elements = (leaks f before after).elements.filter (! g.ignores ·.listener)) ∧
    (∀ before before' after after', AgreeOn f before before' → AgreeOn f after after' →
      leaks f before after = leaks f before' after') := by
  have hleaks (g f : ListenerFilter) (h : g.Extends f) (before after : String) :
      (leaks g before after).elements = (leaks f before after).elements.filter (! g.ignores ·.listener) :=
    Snapshot.elements_eq_filter fun r => by rw [mem_leaks_extends h, Bool.not_eq_true']
  have hnone : f.Extends .none := ListenerFilter.extends_none
  refine ⟨fun text => ⟨Snapshot.elements_eq_filter fun r => ?_, fun g => ?_⟩, hleaks f .none hnone,
    fun g h => hleaks g f h, fun before before' after after' hbefore hafter => ?_⟩
  · rw [mem_read_extends hnone, Bool.not_eq_true']
  · rw [read_faults, read_faults]
  · rw [leaks, leaks, read_agree hbefore, read_agree hafter]

theorem read_filtered_grown :
    let before := "Connection Number: 0\ncom.google.fit | pid\nLight | x"
    let after := "Connection Number: 0\norg.a | pid\nGyro | x\nConnection Number: 1\norg.b | pid\nLight | x"
    let grown : ListenerFilter := ⟨some ["org.b", "com.android", "com.google"], some ["ick"]⟩
    grown.Extends .platform ∧ AgreeOn .platform before "" ∧
      (leaks grown before after).elements =
        (leaks .platform before after).elements.filter (! grown.ignores ·.listener) ∧
      leaks .platform before after = leaks .platform "" after ∧
      (leaks .platform before after).elements = [⟨"Gyro", "org.a"⟩, ⟨"Light", "org.b"⟩] := by
  intro before after grown
  have hgrown : grown.Extends .platform := ⟨by decide, by decide⟩
  have hbefore : AgreeOn .platform before "" := by
    have hheld : (read .none before).1.elements = [⟨"Light", "com.google.fit"⟩] := by decide +kernel
    have hempty : (read .none "").1.elements = [] := by decide +kernel
    have hignores : ListenerFilter.platform.ignores "com.google.fit" = true := by decide +kernel
    intro r hkept
    rw [hheld, hempty]
    refine iff_of_false (fun hr => ?_) List.not_mem_nil
    rw [List.mem_singleton.mp hr] at hkept
    exact Bool.noConfusion (hkept.symm.trans hignores)
  obtain ⟨-, -, hgrow, hagree⟩ := read_filtered .platform
  exact ⟨hgrown, hbefore, hgrow grown hgrown before after,
    hagree before "" after after hbefore fun _ _ => Iff.rfl, by decide +kernel⟩

end Dump

end WatchTrial
