import WatchTrial.Proofs.Raising
/-!
# Fault trees

A mark is looked for in all parts of a fault, while the kind of a fault is that of the first part which is a
failure. The two still agree: a kind that has a mark is found again as this mark, and nothing that is put around
a fault hides a mark of it.
-/
namespace WatchTrial.Fault

mutual

/-- The parts of a fault, from the outside in and causes from left to right. -/
def parts : Fault → List Fault
  | plain text => [plain text]
  | mark m => [mark m]
  | failure kind doing none => [failure kind doing none]
  | failure kind doing (some cause) => failure kind doing (some cause) :: cause.parts
  | context about cause => context about cause :: cause.parts
  | joined causes => joined causes :: partsOfAll causes

def partsOfAll : List Fault → List Fault
  | [] => []
  | cause :: rest => cause.parts ++ partsOfAll rest

end

theorem mem_parts_self : ∀ fault : Fault, fault ∈ fault.parts
  | plain _ | mark _ | failure _ _ none | failure _ _ (some _) | context _ _ | joined _ => by simp [parts]

mutual

private theorem parts_subset : ∀ {part : Fault} (fault : Fault), part ∈ fault.parts → part.parts ⊆ fault.parts
  | _, plain _, h | _, mark _, h | _, failure _ _ none, h => by
    rw [parts, List.mem_singleton] at h
    rw [h]
    exact List.Subset.refl _
  | _, failure _ _ (some cause), h | _, context _ cause, h => by
    rw [parts] at h
    rcases List.mem_cons.mp h with rfl | h
    · exact List.Subset.refl _
    · exact List.subset_cons_of_subset _ (parts_subset cause h)
  | _, joined causes, h => by
    rw [parts] at h
    rcases List.mem_cons.mp h with rfl | h
    · exact List.Subset.refl _
    · exact List.subset_cons_of_subset _ (partsOfAll_subset causes h)

private theorem partsOfAll_subset : ∀ {part : Fault} (causes : List Fault), part ∈ partsOfAll causes →
    part.parts ⊆ partsOfAll causes
  | _, [], h => by cases h
  | _, cause :: rest, h => by
    rw [partsOfAll] at h ⊢
    rcases List.mem_append.mp h with h | h
    · exact List.subset_append_of_subset_left _ (parts_subset cause h)
    · exact List.subset_append_of_subset_right _ (partsOfAll_subset rest h)

end

/-- The kind of a failure, whatever its cause. -/
def ownKind? : Fault → Option Kind
  | failure kind _ _ => some kind
  | _ => none

/-- The mark of a fault, whatever its cause. -/
def ownMark? : Fault → Option Mark
  | mark m => some m
  | failure kind _ _ => kind.mark?
  | _ => none

/-- Every failure in the fault is of one of the five kinds that have a mark. -/
def OfMarkedKinds (fault : Fault) : Prop :=
  ∀ part ∈ fault.parts, ∀ kind, part.ownKind? = some kind → kind.mark?.isSome = true

mutual

/-- Looking for a mark looks at every part. -/
theorem carries_iff_part (sought : Mark) : ∀ fault : Fault,
    fault.carries sought = true ↔ ∃ part ∈ fault.parts, part.ownMark? = some sought
  | plain _ => by simp [carries, parts, ownMark?]
  | mark _ => by simp [carries, parts, ownMark?]
  | failure _ _ none => by simp [carries, parts, ownMark?]
  | failure _ _ (some cause) => by
    simp only [carries, parts, List.mem_cons, Bool.or_eq_true, beq_iff_eq, carries_iff_part sought cause,
      exists_eq_or_imp, ownMark?]
  | context _ cause => by
    simp only [carries, parts, List.mem_cons, carries_iff_part sought cause, exists_eq_or_imp, ownMark?,
      reduceCtorEq, false_or]
  | joined causes => by
    simp only [carries, parts, List.mem_cons, anyCarries_iff_part sought causes, exists_eq_or_imp, ownMark?,
      reduceCtorEq, false_or]

private theorem anyCarries_iff_part (sought : Mark) : ∀ causes : List Fault,
    anyCarries sought causes = true ↔ ∃ part ∈ partsOfAll causes, part.ownMark? = some sought
  | [] => by simp [anyCarries, partsOfAll]
  | cause :: rest => by
    simp only [anyCarries, partsOfAll, List.mem_append, Bool.or_eq_true, carries_iff_part sought cause,
      anyCarries_iff_part sought rest, or_and_right, exists_or]

end

mutual

/-- The kind is that of the first part which is a failure. -/
theorem kind?_eq_findSome? : ∀ fault : Fault, fault.kind? = fault.parts.findSome? ownKind?
  | plain _ => rfl
  | mark _ => rfl
  | failure _ _ none => rfl
  | failure _ _ (some _) => rfl
  | context _ cause => kind?_eq_findSome? cause
  | joined causes => firstKind?_eq_findSome? causes

private theorem firstKind?_eq_findSome? : ∀ causes : List Fault,
    firstKind? causes = (partsOfAll causes).findSome? ownKind?
  | [] => rfl
  | cause :: rest => by
    rw [firstKind?, partsOfAll, List.findSome?_append, kind?_eq_findSome? cause, firstKind?_eq_findSome? rest]
    cases cause.parts.findSome? ownKind? <;> rfl

end

variable {fault : Fault} {sought : Mark}

private theorem exists_part_of_kindOf (h : fault.kindOf ≠ .unknown) :
    ∃ part ∈ fault.parts, part.ownKind? = some fault.kindOf := by
  cases hkind : fault.kind? with
  | none => exact absurd (by rw [kindOf, hkind]; rfl) h
  | some kind =>
    have hfirst : fault.parts.findSome? ownKind? = some kind := by rw [← kind?_eq_findSome?, hkind]
    obtain ⟨part, hpart, hown⟩ := List.exists_of_findSome?_eq_some hfirst
    exact ⟨part, hpart, by rw [hown, kindOf, hkind]; rfl⟩

private theorem carries_of_kindOf {kind : Kind} (hkind : fault.kindOf = kind) (hmark : kind.mark? = some sought) :
    fault.carries sought = true := by
  cases h : fault.carries sought with
  | true => rfl
  | false => exact absurd hkind (kindOf_ne hmark h)

theorem carries_of_part {part : Fault} (hpart : part ∈ fault.parts) (h : part.carries sought = true) :
    fault.carries sought = true := by
  obtain ⟨own, hown, hmark⟩ := (carries_iff_part sought part).mp h
  exact (carries_iff_part sought fault).mpr ⟨own, parts_subset fault hpart hown, hmark⟩

private theorem anyCarries_of_mem {causes : List Fault} (hmem : fault ∈ causes) (h : fault.carries sought = true) :
    anyCarries sought causes = true := by
  induction causes with
  | nil => cases hmem
  | cons cause rest ih =>
    rw [anyCarries, Bool.or_eq_true]
    rcases List.mem_cons.mp hmem with rfl | hrest
    · exact .inl h
    · exact .inr (ih hrest)

private theorem join?_carries {branches : List (Option Fault)} (hmem : some fault ∈ branches)
    (h : fault.carries sought = true) :
    ∃ joined, join? (branches.filterMap id) = some joined ∧ joined.carries sought = true := by
  have hbranch : fault ∈ branches.filterMap id := List.mem_filterMap.mpr ⟨some fault, hmem, rfl⟩
  cases hall : branches.filterMap id with
  | nil => rw [hall] at hbranch; cases hbranch
  | cons first rest =>
    rw [hall] at hbranch
    exact ⟨joined (first :: rest), rfl, anyCarries_of_mem hbranch h⟩

private theorem setupFailed_carries_iff (doing : String) (fault : Fault) (sought : Mark) :
    (setupFailed doing fault).carries sought = true ↔ sought = .setupFailed ∨ fault.carries sought = true := by
  simp only [setupFailed, carries, Kind.mark?, Bool.or_eq_true, beq_iff_eq, Option.some.injEq,
    eq_comm (b := sought)]

private theorem retryable_iff : fault.retryable = true ↔
    fault.kindOf = .connectionLost ∨ fault.kindOf = .commandFailed := by
  unfold retryable
  split <;> simp_all

/-- A mark is found in a fault when one of its parts has it, and the kind of a fault is that of the first part
which is a failure. So a kind that is known is found as a mark, what may pass is a lost link or a failed command,
and neither words in front of a fault nor faults beside it hide a mark. A trial that was not set up is marked as
such and else as its cause is, and is never tried again. -/
theorem classified_as_marked (fault : Fault) :
    (∀ sought, fault.carries sought = true ↔ ∃ part ∈ fault.parts, part.ownMark? = some sought) ∧
    fault.kindOf = (fault.parts.findSome? ownKind?).getD .unknown ∧
    (fault.OfMarkedKinds → fault.kindOf ≠ .unknown →
      ∃ sought, fault.kindOf.mark? = some sought ∧ fault.carries sought = true) ∧
    (fault.retryable = true →
      fault.carries .connectionLost = true ∨ fault.carries .commandFailed = true) ∧
    (∀ sought, fault.carries sought = true →
      (∀ about, (context about fault).carries sought = true) ∧
      ∀ branches : List (Option Fault), some fault ∈ branches →
        ∃ joined, join? (branches.filterMap id) = some joined ∧ joined.carries sought = true) ∧
    ∀ doing,
      (∀ sought, (setupFailed doing fault).carries sought = true ↔
        sought = .setupFailed ∨ fault.carries sought = true) ∧
      (setupFailed doing fault).kindOf = .setupFailed ∧ (setupFailed doing fault).retryable = false := by
  refine ⟨fun sought => carries_iff_part sought fault, ?_, ?_, ?_, ?_, ?_⟩
  · rw [kindOf, kind?_eq_findSome?]
  · intro hkinds hknown
    obtain ⟨part, hpart, hown⟩ := exists_part_of_kindOf hknown
    obtain ⟨sought, hmark⟩ := Option.isSome_iff_exists.mp (hkinds part hpart _ hown)
    exact ⟨sought, hmark, carries_of_kindOf rfl hmark⟩
  · intro h
    rcases retryable_iff.mp h with hlost | hfailed
    · exact .inl (carries_of_kindOf hlost rfl)
    · exact .inr (carries_of_kindOf hfailed rfl)
  · exact fun sought h => ⟨fun about => h, fun branches hmem => join?_carries hmem h⟩
  · exact fun doing => ⟨setupFailed_carries_iff doing fault, rfl, rfl⟩

/-- A lost link beside a cancelled run: the link decides the kind although it comes second. -/
theorem classified_as_marked_beside :
    let fault := context "cleanup" (joined [canceled, connectionLost "wake" (plain "EOF")])
    fault.OfMarkedKinds ∧ fault.kindOf ≠ .unknown ∧ fault.retryable = true ∧
      (∃ sought, fault.kindOf.mark? = some sought ∧ fault.carries sought = true) ∧
      (fault.carries .connectionLost = true ∨ fault.carries .commandFailed = true) ∧
      fault.carries .canceled = true ∧
      ∃ joined, join? ([none, some fault].filterMap id) = some joined ∧ joined.carries .canceled = true := by
  intro fault
  have hkinds : fault.OfMarkedKinds := by
    intro part hpart kind hkind
    simp only [fault, connectionLost, canceled, parts, partsOfAll, List.mem_cons, List.mem_append,
      List.not_mem_nil, or_false] at hpart
    rcases hpart with rfl | rfl | rfl | rfl | rfl <;> cases hkind
    rfl
  have hknown : fault.kindOf ≠ .unknown := by decide
  obtain ⟨-, -, hmarked, hretryable, hkept, -⟩ := classified_as_marked fault
  exact ⟨hkinds, hknown, rfl, hmarked hkinds hknown, hretryable rfl, rfl,
    (hkept .canceled rfl).2 [none, some fault] (by simp)⟩

end WatchTrial.Fault
