import Mathlib.Data.List.Basic
import Mathlib.Order.Defs.Unbundled
import WatchTrial.Storage.Files
/-!
# What file operations change

The place that a path leads to is known from its text alone; what the files decide is whether the way there
is free. An operation changes what stands at a few places: a write at the place of its path, a new directory
at the places on the way to it. Directories never go away, so a way that was free stays free.
-/
namespace WatchTrial.Files

/-- The place that names lead to from another place. -/
def placeFrom : Place → List String → Place
  | start, [] => start
  | start, name :: rest =>
    if name = "" ∨ name = "." then placeFrom start rest
    else if name = ".." then placeFrom (parent start) rest
    else placeFrom (start ++ [name]) rest

def startOf (path : String) : Place := if path.toList.head? == some '/' then ["/"] else []

def namesOf (path : String) : List String := (Path.components path.toList).map String.ofList

/-- The place that a path leads to. -/
def placeOf (path : String) : Place := placeFrom (startOf path) (namesOf path)

/-- Whatever stands somewhere stands in a directory. -/
def Sound (files : Files) : Prop := ∀ place, files.at? place ≠ none → files.at? (parent place) = some .directory

section Lookup

variable {files : Files} {place p : Place} {entry : Entry}

theorem at?_of_isAnchor (h : isAnchor place = true) : files.at? place = some .directory := if_pos h

private theorem not_isAnchor_of_ne_directory (h : files.at? place ≠ some .directory) : isAnchor place = false :=
  Bool.eq_false_iff.mpr fun hanchor => h (at?_of_isAnchor hanchor)

private theorem lookup_filter_ne {entries : List (Place × Entry)} :
    (entries.filter (·.1 != place)).lookup p = if p = place then none else entries.lookup p := by
  induction entries with
  | nil => simp
  | cons first rest ih =>
    obtain ⟨place', entry'⟩ := first
    by_cases hfirst : place' = place
    · subst hfirst
      rw [List.filter_cons_of_neg (by simp), ih]
      by_cases hp : p = place'
      · simp [hp]
      · rw [if_neg hp, if_neg hp, List.lookup_cons, beq_eq_false_iff_ne.mpr hp]
    · rw [List.filter_cons_of_pos (by simpa using hfirst), List.lookup_cons, List.lookup_cons, ih]
      by_cases hp : p = place'
      · simp [hp, hfirst]
      · rw [beq_eq_false_iff_ne.mpr hp]

private theorem at?_filter_ne (hplace : isAnchor place = false) :
    (⟨files.entries.filter (·.1 != place)⟩ : Files).at? p = if p = place then none else files.at? p := by
  unfold at?
  by_cases hp : p = place
  · simp [hp, hplace, lookup_filter_ne]
  · simp [hp, lookup_filter_ne]

private theorem at?_put (hplace : isAnchor place = false) :
    (files.put place entry).at? p = if p = place then some entry else files.at? p := by
  have hcons : (files.put place entry).at? p = if p = place then some entry
      else (⟨files.entries.filter (·.1 != place)⟩ : Files).at? p := by
    unfold put at?
    by_cases hp : p = place
    · subst hp
      rw [if_pos rfl, if_neg (by simp [hplace]), List.lookup_cons_self]
    · rw [if_neg hp, List.lookup_cons, beq_eq_false_iff_ne.mpr hp]
  rw [hcons, at?_filter_ne hplace]
  split <;> rfl

private theorem parent_ne (hplace : isAnchor place = false) : parent place ≠ place := by
  have hroot : (place == ["/"]) = false := by
    simp only [isAnchor, Bool.or_eq_false_iff] at hplace
    exact hplace.2
  have hne : place ≠ [] := by
    rintro rfl
    simp [isAnchor] at hplace
  unfold parent
  rw [hroot, hplace]
  intro heq
  have hlength := congrArg List.length heq
  have hpos : 0 < place.length := List.length_pos_iff.mpr hne
  simp only [Bool.false_eq_true, if_false, List.length_dropLast] at hlength
  omega

private theorem isAnchor_parent (h : isAnchor place = true) : isAnchor (parent place) = true := by
  unfold parent
  split
  · exact h
  next hroot =>
    simp only [isAnchor, Bool.or_eq_true] at h ⊢
    refine .inl ?_
    rcases h with h | h
    · simpa using h
    · exact absurd h hroot

end Lookup

section Ways

variable {files : Files} {start place : Place} {path : String}

theorem placeFrom_cons (start : Place) (name : String) (rest : List String) :
    placeFrom start (name :: rest) = placeFrom (placeFrom start [name]) rest := by
  simp only [placeFrom]
  split
  · rfl
  · split <;> rfl

theorem placeFrom_append (start : Place) (names names' : List String) :
    placeFrom start (names ++ names') = placeFrom (placeFrom start names) names' := by
  induction names generalizing start with
  | nil => rfl
  | cons name rest ih => rw [List.cons_append, placeFrom_cons, ih, ← placeFrom_cons]

theorem placeFrom_name {name : String} (h : name ∉ ["", ".", ".."]) (start : Place) :
    placeFrom start [name] = start ++ [name] := by
  simp only [List.mem_cons, List.not_mem_nil, or_false, not_or] at h
  simp [placeFrom, h]

private theorem walk_cons_ok_iff {name : String} {rest : List String} :
    files.walk start (name :: rest) = .ok place ↔
      files.at? start = some .directory ∧ name.utf8ByteSize ≤ nameLimit ∧
        files.walk (placeFrom start [name]) rest = .ok place := by
  rw [walk]
  cases hstart : files.at? start with
  | none => simp
  | some entry =>
    cases entry with
    | file content => simp
    | directory =>
      by_cases hskip : name = "" ∨ name = "."
      · have hshort : name.utf8ByteSize ≤ nameLimit := by rcases hskip with rfl | rfl <;> decide
        simp [hskip, placeFrom, hshort]
      · by_cases hup : name = ".."
        · subst hup
          have hshort : "..".utf8ByteSize ≤ nameLimit := by decide
          simp [placeFrom, hshort]
        · by_cases hlong : nameLimit < name.utf8ByteSize
          · simp [hskip, hup, hlong, Nat.not_le.mpr hlong]
          · simp [hskip, hup, hlong, placeFrom, Nat.not_lt.mp hlong]

theorem walk_ok_iff {names : List String} : files.walk start names = .ok place ↔
    place = placeFrom start names ∧ (∀ name ∈ names, name.utf8ByteSize ≤ nameLimit) ∧
      ∀ k < names.length, files.at? (placeFrom start (names.take k)) = some .directory := by
  induction names generalizing start with
  | nil => simp [walk, placeFrom, eq_comm]
  | cons name rest ih =>
    rw [walk_cons_ok_iff, ih, placeFrom_cons start name rest]
    constructor
    · rintro ⟨hstart, hname, hplace, hshort, hway⟩
      refine ⟨hplace, List.forall_mem_cons.mpr ⟨hname, hshort⟩, fun k hk => ?_⟩
      cases k with
      | zero => exact hstart
      | succ k =>
        rw [List.take_succ_cons, placeFrom_cons]
        exact hway k (Nat.lt_of_succ_lt_succ hk)
    · rintro ⟨hplace, hshort, hway⟩
      obtain ⟨hname, hshort⟩ := List.forall_mem_cons.mp hshort
      refine ⟨hway 0 (Nat.zero_lt_succ _), hname, hplace, hshort, fun k hk => ?_⟩
      have hnext := hway (k + 1) (Nat.succ_lt_succ hk)
      rwa [List.take_succ_cons, placeFrom_cons] at hnext

/-- The text of a path that a file system accepts. -/
def Acceptable (path : String) : Prop :=
  '\x00' ∉ path.toList ∧ path ≠ "" ∧ path.utf8ByteSize ≤ pathLimit

theorem resolve_ok_iff : files.resolve path = .ok place ↔
    Acceptable path ∧ files.walk (startOf path) (namesOf path) = .ok place := by
  unfold resolve Acceptable
  by_cases hvalid : '\x00' ∈ path.toList
  · simp [hvalid]
  · by_cases hempty : path = ""
    · simp [hempty]
    · by_cases hlong : pathLimit < path.utf8ByteSize
      · simp [hvalid, hempty, hlong, Nat.not_le.mpr hlong]
      · rw [if_neg hvalid, if_neg hempty, if_neg hlong]
        simp only [hvalid, hempty, Nat.not_lt.mp hlong, ne_eq, not_false_eq_true, true_and]
        rfl

private theorem placeOf_of_resolve (h : files.resolve path = .ok place) : place = placeOf path :=
  (walk_ok_iff.mp (resolve_ok_iff.mp h).2).1

theorem find_ok_iff {entry : Entry} : files.find path = .ok (place, entry) ↔
    files.resolve path = .ok place ∧ files.at? place = some entry := by
  unfold find
  constructor
  · intro h
    split at h
    · cases h
    next hresolve =>
      split at h
      next hentry =>
        obtain ⟨rfl, rfl⟩ := Prod.mk.inj (Except.ok.inj h)
        exact ⟨hresolve, hentry⟩
      · cases h
  · rintro ⟨hresolve, hentry⟩
    simp only [hresolve, hentry]

theorem read_ok_iff {content : ByteArray} : files.read path = .ok content ↔
    ∃ place, files.find path = .ok (place, .file content) := by
  unfold read
  split <;> simp_all

theorem parent_concat {name : String} (h : isAnchor (place ++ [name]) = false) :
    parent (place ++ [name]) = place := by
  have hroot : (place ++ [name] == ["/"]) = false := by
    simp only [isAnchor, Bool.or_eq_false_iff] at h
    exact h.2
  rw [parent, hroot, h]
  simp

theorem ne_empty_of_read {content : ByteArray} (h : files.read path = .ok content) : path ≠ "" := by
  obtain ⟨place, hfind⟩ := read_ok_iff.mp h
  exact (resolve_ok_iff.mp (find_ok_iff.mp hfind).1).1.2.1

private theorem parent_of_walk (hsound : files.Sound) {names : List String}
    (hstart : files.at? (parent start) = some .directory) (h : files.walk start names = .ok place) :
    files.at? (parent place) = some .directory := by
  induction names generalizing start with
  | nil =>
    cases h
    exact hstart
  | cons name rest ih =>
    obtain ⟨hdirectory, -, hrest⟩ := walk_cons_ok_iff.mp h
    have hup := hsound start (by simp [hdirectory])
    refine ih ?_ hrest
    simp only [placeFrom]
    split
    · exact hstart
    · split
      · exact hsound _ (by simp [hup])
      · cases hanchor : isAnchor (start ++ [name]) with
        | true => exact at?_of_isAnchor (isAnchor_parent hanchor)
        | false => rw [parent_concat hanchor, hdirectory]

private theorem isAnchor_startOf (path : String) : isAnchor (startOf path) = true := by
  unfold startOf
  split <;> decide

private theorem parent_of_resolve (hsound : files.Sound) (h : files.resolve path = .ok place) :
    files.at? (parent place) = some .directory :=
  parent_of_walk hsound (at?_of_isAnchor (isAnchor_parent (isAnchor_startOf path))) (resolve_ok_iff.mp h).2

end Ways

/-- Files changed at the places `T` only, and directories were made at the places `D` only. -/
structure Kept (T D : Place → Prop) (files files' : Files) : Prop where
  directory : ∀ p, files.at? p = some .directory → files'.at? p = some .directory
  entry : ∀ p, ¬ T p → files.at? p ≠ none → files'.at? p = files.at? p
  absent : ∀ p, ¬ T p → ¬ D p → files.at? p = none → files'.at? p = none
  sound : files.Sound → files'.Sound

instance (T D : Place → Prop) : IsPreorder Files (Kept T D) where
  refl _ := ⟨fun _ h => h, fun _ _ _ => rfl, fun _ _ _ h => h, fun h => h⟩
  trans a b c h h' :=
    { directory := fun p hp => h'.directory p (h.directory p hp)
      entry := fun p hT hp => by
        have heq := h.entry p hT hp
        rw [← heq] at hp ⊢
        exact h'.entry p hT hp
      absent := fun p hT hD hp => h'.absent p hT hD (h.absent p hT hD hp)
      sound := fun hs => h'.sound (h.sound hs) }

namespace Kept

variable {T T' D D' : Place → Prop} {files files' : Files} {place p : Place} {path : String}

theorem mono (h : Kept T D files files') (hT : ∀ p, T p → T' p) (hD : ∀ p, D p → D' p) :
    Kept T' D' files files' where
  directory := h.directory
  entry p hp := h.entry p (mt (hT p) hp)
  absent p hp hp' := h.absent p (mt (hT p) hp) (mt (hD p) hp')
  sound := h.sound

theorem at?_eq (h : Kept T D files files') (hT : ¬ T p) (hD : ¬ D p) : files'.at? p = files.at? p := by
  by_cases hp : files.at? p = none
  · rw [hp, h.absent p hT hD hp]
  · exact h.entry p hT hp

theorem walk (h : Kept T D files files') {start : Place} {names : List String}
    (hwalk : files.walk start names = .ok place) : files'.walk start names = .ok place := by
  rw [walk_ok_iff] at hwalk ⊢
  obtain ⟨hplace, hshort, hway⟩ := hwalk
  exact ⟨hplace, hshort, fun k hk => h.directory _ (hway k hk)⟩

theorem resolve (h : Kept T D files files') (hresolve : files.resolve path = .ok place) :
    files'.resolve path = .ok place := by
  rw [resolve_ok_iff] at hresolve ⊢
  exact ⟨hresolve.1, h.walk hresolve.2⟩

theorem find (h : Kept T D files files') {entry : Entry} (hfind : files.find path = .ok (place, entry))
    (hplace : ¬ T place) : files'.find path = .ok (place, entry) := by
  obtain ⟨hresolve, hentry⟩ := find_ok_iff.mp hfind
  refine find_ok_iff.mpr ⟨h.resolve hresolve, ?_⟩
  rw [h.entry place hplace (by simp [hentry]), hentry]

theorem read (h : Kept T D files files') {content : ByteArray} (hread : files.read path = .ok content)
    (hplace : ¬ T (placeOf path)) : files'.read path = .ok content := by
  obtain ⟨place, hfind⟩ := read_ok_iff.mp hread
  have hwhere := placeOf_of_resolve (find_ok_iff.mp hfind).1
  exact read_ok_iff.mpr ⟨place, h.find hfind (hwhere ▸ hplace)⟩

end Kept

section Operations

variable {files files' : Files} {path : String} {place : Place} {entry : Entry}

theorem sound_empty : Files.empty.Sound := by
  intro place hplace
  have hanchor : isAnchor place = true := by
    by_contra hanchor
    simp [at?, hanchor, Files.empty] at hplace
  exact at?_of_isAnchor (isAnchor_parent hanchor)

theorem Sound.put (hsound : files.Sound) (hplace : isAnchor place = false)
    (hparent : files.at? (parent place) = some .directory)
    (hentry : files.at? place = some .directory → entry = .directory) : (files.put place entry).Sound := by
  intro p hp
  rw [at?_put hplace] at hp ⊢
  -- what stood in the new entry stood in a directory, so the entry is one; the new entry itself stands in its parent
  by_cases hup : parent p = place
  · rw [if_pos hup]
    by_cases hsame : p = place
    · exact absurd (hsame ▸ hup) (parent_ne hplace)
    · rw [if_neg hsame] at hp
      have hdirectory := hsound p hp
      rw [hup] at hdirectory
      rw [hentry hdirectory]
  · rw [if_neg hup]
    by_cases hsame : p = place
    · rw [hsame]
      exact hparent
    · rw [if_neg hsame] at hp
      exact hsound p hp

theorem write_ok {content : ByteArray} (h : files.write path content = .ok files') :
    Kept (· = placeOf path) (fun _ => False) files files' ∧ files'.read path = .ok content ∧
      files'.at? (placeOf path) = some (.file content) := by
  obtain ⟨place, hresolve, hfile, rfl⟩ : ∃ place, files.resolve path = .ok place ∧
      files.at? place ≠ some .directory ∧ files' = files.put place (.file content) := by
    unfold write at h
    simp only at h
    split at h
    · cases h
    next place hresolve =>
      refine ⟨place, hresolve, ?_⟩
      split at h
      · cases h
      next hfile =>
        cases h
        exact ⟨by simp [hfile], rfl⟩
      next hnone =>
        split at h
        · cases h
        · split at h <;> cases h
          exact ⟨by simp [hnone], rfl⟩
  obtain rfl := placeOf_of_resolve hresolve
  have hplace := not_isAnchor_of_ne_directory hfile
  have hkept : Kept (· = placeOf path) (fun _ => False) files (files.put (placeOf path) (.file content)) :=
    { directory := fun p hp => by
        rw [at?_put hplace, if_neg, hp]
        rintro rfl
        exact hfile hp
      entry := fun p hp _ => by rw [at?_put hplace, if_neg hp]
      absent := fun p hp _ hnone => by rw [at?_put hplace, if_neg hp, hnone]
      sound := fun hsound => hsound.put hplace (parent_of_resolve hsound hresolve) fun h => absurd h hfile }
  have hat : (files.put (placeOf path) (.file content)).at? (placeOf path) = some (.file content) := by
    rw [at?_put hplace, if_pos rfl]
  exact ⟨hkept, read_ok_iff.mpr ⟨placeOf path, find_ok_iff.mpr ⟨hkept.resolve hresolve, hat⟩⟩, hat⟩

theorem remove_kept (files : Files) (path : String) :
    Kept (· = placeOf path) (fun _ => False) files (files.remove path) := by
  unfold remove
  split
  next place content hfind =>
    obtain ⟨hresolve, hfile⟩ := find_ok_iff.mp hfind
    obtain rfl := placeOf_of_resolve hresolve
    have hne : files.at? (placeOf path) ≠ some .directory := by simp [hfile]
    have hplace := not_isAnchor_of_ne_directory hne
    exact
      { directory := fun p hp => by
          rw [at?_filter_ne hplace, if_neg, hp]
          rintro rfl
          simp [hfile] at hp
        entry := fun p hp _ => by rw [at?_filter_ne hplace, if_neg hp]
        absent := fun p hp _ hnone => by rw [at?_filter_ne hplace, if_neg hp, hnone]
        sound := fun hsound p hp => by
          rw [at?_filter_ne hplace] at hp ⊢
          have hsame : p ≠ placeOf path := by
            rintro rfl
            simp at hp
          rw [if_neg hsame] at hp
          have hup := hsound p hp
          rw [if_neg, hup]
          intro heq
          rw [heq, hfile] at hup
          cases hup }
  · exact refl_of _ files

/-- A new directory changes its own place only, and nothing stood there before. -/
theorem makeDirectory_ok (h : files.makeDirectory path = .ok files') :
    Kept (fun _ => False) (· = placeOf path) files files' := by
  unfold makeDirectory at h
  split at h
  · cases h
  next place hresolve =>
    obtain rfl := placeOf_of_resolve hresolve
    split at h
    · cases h
      exact refl_of _ _
    · cases h
    next hnone =>
      cases h
      have hne : files.at? (placeOf path) ≠ some .directory := by simp [hnone]
      have hplace := not_isAnchor_of_ne_directory hne
      exact
        { directory := fun p hp => by
            rw [at?_put hplace]
            split
            · rfl
            · exact hp
          entry := fun p _ hp => by
            rw [at?_put hplace, if_neg]
            rintro rfl
            exact hp hnone
          absent := fun p _ hp hnone => by rw [at?_put hplace, if_neg hp, hnone]
          sound := fun hsound => hsound.put hplace (parent_of_resolve hsound hresolve) fun _ => rfl }

/-- New directories change their own places only, also if not all of them could be made. -/
theorem makeEach_kept (files : Files) (paths : List String) :
    Kept (fun _ => False) (fun p => ∃ path ∈ paths, p = placeOf path) files (files.makeEach paths).1 := by
  induction paths generalizing files with
  | nil => exact refl_of _ _
  | cons path rest ih =>
    unfold makeEach
    split
    next made hmade =>
      have hfirst : Kept (fun _ => False) (fun p => ∃ path' ∈ path :: rest, p = placeOf path') files made :=
        (makeDirectory_ok hmade).mono (fun _ h => h) fun p hp => ⟨path, List.mem_cons_self, hp⟩
      refine trans_of _ hfirst ((ih made).mono (fun _ h => h) ?_)
      rintro p ⟨path', hmem, hp⟩
      exact ⟨path', List.mem_cons_of_mem _ hmem, hp⟩
    · exact refl_of _ _

/-- The place is one of the directories that a file lies in. -/
def Above (path : String) (place : Place) : Prop :=
  ∃ directory ∈ directoriesTo (Path.dir path), place = placeOf directory

end Operations

end WatchTrial.Files
