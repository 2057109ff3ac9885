import Mathlib.Data.Finset.Dedup
import Mathlib.Data.Finset.Card
import Mathlib.Data.List.Sort
import Mathlib.Tactic.TFAE
import WatchTrial.Proofs.ByteOrder
import WatchTrial.Sensor.Snapshot
/-!
# Snapshots as sets

A snapshot is known by its members: its list of elements is the one strictly ascending list of them, its size
counts them, and a difference removes members. Snapshots are compared by their sizes and one difference, which
is enough because a finite set has no proper subset of its own size.
-/
namespace WatchTrial

/-- Registrations are ordered by the bytes of the listener, then by those of the sensor type. -/
theorem Registration.before_iff_bytes {a b : Registration} :
    a.Before b ↔ Text.bytes a.listener < Text.bytes b.listener ∨
      a.listener = b.listener ∧ Text.bytes a.sensorType < Text.bytes b.sensorType := by
  rw [Before, Text.lt_iff_bytes_lt, Text.lt_iff_bytes_lt]

instance : Std.Irrefl Registration.Before := ⟨Registration.Before.irrefl⟩

instance : IsTrans Registration Registration.Before := ⟨fun _ _ _ => .trans⟩

namespace Snapshot

variable {s t : Snapshot} {r : Registration} {rows rows' : List Registration}

theorem mem_ofList : r ∈ (ofList rows).elements ↔ r ∈ rows := Ascending.mem_ofList

theorem mem_difference : r ∈ (s.difference t).elements ↔ r ∈ s.elements ∧ r ∉ t.elements := by
  simp [difference, contains]

theorem nodup (s : Snapshot) : s.elements.Nodup := s.ascending.nodup

theorem size_eq_card (s : Snapshot) : s.size = s.elements.toFinset.card :=
  (List.toFinset_card_of_nodup s.nodup).symm

theorem size_eq_zero_iff : s.size = 0 ↔ ∀ r, r ∉ s.elements := by
  rw [size, List.length_eq_zero_iff, List.eq_nil_iff_forall_not_mem]

theorem elements_eq_of_mem_iff (h : ∀ r, r ∈ s.elements ↔ r ∈ t.elements) : s.elements = t.elements :=
  s.ascending.eq_of_mem_iff t.ascending h

theorem eq_of_mem_iff (h : ∀ r, r ∈ s.elements ↔ r ∈ t.elements) : s = t := by
  obtain ⟨elements, ascending⟩ := s
  obtain rfl : elements = t.elements := elements_eq_of_mem_iff h
  rfl

theorem contains_iff : s.contains r = true ↔ r ∈ s.elements := by
  rw [contains, List.contains_iff_mem]

private theorem same_iff_subset : s.same t = true ↔ s.size = t.size ∧ ∀ r ∈ s.elements, r ∈ t.elements := by
  rw [same, Bool.and_eq_true, beq_iff_eq, beq_iff_eq, size_eq_zero_iff]
  simp only [mem_difference, not_and, not_not]

/-- Comparing sizes and one difference tells whether two snapshots have the same members. -/
theorem same_iff_mem_iff : s.same t = true ↔ ∀ r, r ∈ s.elements ↔ r ∈ t.elements := by
  rw [same_iff_subset]
  constructor
  · rintro ⟨hsize, hmem⟩
    have hsubset : s.elements.toFinset ⊆ t.elements.toFinset := by
      intro r hr
      exact List.mem_toFinset.mpr (hmem r (List.mem_toFinset.mp hr))
    have hcard : t.elements.toFinset.card ≤ s.elements.toFinset.card := by
      rw [← size_eq_card, ← size_eq_card, hsize]
    have heq := Finset.eq_of_subset_of_card_le hsubset hcard
    intro r
    rw [← List.mem_toFinset, heq, List.mem_toFinset]
  · intro h
    exact ⟨congrArg List.length (elements_eq_of_mem_iff h), fun r hr => (h r).mp hr⟩

private theorem same_iff_eq : s.same t = true ↔ s = t := by
  rw [same_iff_mem_iff]
  exact ⟨eq_of_mem_iff, fun h r => by rw [h]⟩

private theorem ofList_eq_iff : ofList rows = ofList rows' ↔ ∀ r, r ∈ rows ↔ r ∈ rows' := by
  rw [← same_iff_eq, same_iff_mem_iff]
  simp only [mem_ofList]

private theorem size_ofList (rows : List Registration) : (ofList rows).size = rows.toFinset.card := by
  rw [size_eq_card]
  congr 1
  ext r
  rw [List.mem_toFinset, List.mem_toFinset, mem_ofList]

/-- What a difference leaves and what it takes away are the whole snapshot. -/
theorem size_difference_add (s t : Snapshot) :
    (s.difference t).size + (s.difference (s.difference t)).size = s.size := by
  have hshared : (s.difference (s.difference t)).elements = s.elements.filter (t.contains ·) := by
    refine List.filter_congr fun r hr => ?_
    rw [Bool.eq_iff_iff, Bool.not_eq_true', ← Bool.not_eq_true, contains_iff, contains_iff, mem_difference]
    simp [hr]
  rw [size, size, size, hshared, Nat.add_comm]
  exact (List.length_eq_length_filter_add _).symm

/-- A snapshot behaves as the set of the registrations it was made of. Two snapshots are found equal just when
they are made of the same registrations, in whatever order and however often these come. -/
theorem known_by_members (xs ys : List Registration) :
    let s := ofList xs
    let t := ofList ys
    [s.same t = true, ∀ r, r ∈ xs ↔ r ∈ ys, s.elements = t.elements, s = t].TFAE ∧
    Equivalence (fun s t : Snapshot => s.same t = true) ∧
    s.elements.Pairwise (fun r r' =>
      Text.bytes r.listener < Text.bytes r'.listener ∨
        r.listener = r'.listener ∧ Text.bytes r.sensorType < Text.bytes r'.sensorType) ∧
    (∀ r, r ∈ s.elements ↔ s.contains r = true) ∧
    (∀ r, s.contains r = true ↔ r ∈ xs) ∧
    s.elements.length = s.size ∧
    s.size = xs.toFinset.card ∧
    (∀ r, (s.difference t).contains r = true ↔ r ∈ xs ∧ r ∉ ys) ∧
    s.size = (s.difference t).size + (s.difference (s.difference t)).size := by
  intro s t
  refine ⟨?_, ?_, ?_, ?_, ?_, rfl, size_ofList xs, ?_, (size_difference_add s t).symm⟩
  · tfae_have 1 ↔ 4 := same_iff_eq
    tfae_have 2 ↔ 4 := ofList_eq_iff.symm
    tfae_have 3 → 4 := fun h => eq_of_mem_iff fun r => by rw [h]
    tfae_have 4 → 3 := fun h => congrArg elements h
    tfae_finish
  · simp only [same_iff_eq]
    exact eq_equivalence
  · exact s.ascending.imp Registration.before_iff_bytes.mp
  · exact fun r => contains_iff.symm
  · exact fun r => contains_iff.trans mem_ofList
  · intro r
    rw [contains_iff, mem_difference, mem_ofList, mem_ofList]

end Snapshot

end WatchTrial
