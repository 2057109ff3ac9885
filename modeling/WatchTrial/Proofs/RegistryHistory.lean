import Mathlib.Data.List.Induction
import WatchTrial.Gesture.Player
import WatchTrial.Proofs.ByteOrder
/-!
# Registries after any registrations

A registry only changes by registrations, of gestures that can be played and of gestures that cannot. Its two tables
can be seen as one, with one entry for each name, and a registration writes that entry. What reads the registry does
not look at both tables alike: the question for a name reads both, the listings and playing a gesture only that of the
handlers. They agree because a name of the other table has a handler that refuses it. So in whatever order the
registrations came, the last one of a name settles whether it is played and how.
-/
namespace WatchTrial.Registry

variable {ω : Type}

inductive Entry (ω : Type) where
  | playable (play : Player ω → Task ω Unit)
  | unplayable

/-- Registers a gesture that can be played, or one that cannot. -/
def record (r : Registry ω) : String × Entry ω → Registry ω
  | (name, .playable play) => r.register name play
  | (name, .unplayable) => r.registerUnplayable name

section OneTable

variable {r : Registry ω} {name : String}

/-- The two tables as one. -/
def known? (r : Registry ω) (name : String) : Option (Entry ω) :=
  r.handlers[name]?.map fun play => if r.unplayable.contains name then .unplayable else .playable play

/-- The names that cannot be played are refused by their handlers. -/
def Sound (r : Registry ω) : Prop :=
  ∀ name ∈ r.unplayable, r.handlers[name]? = some (refuse name)

theorem Sound.empty : Sound (Registry.empty : Registry ω) := by
  intro name hname
  simp [Registry.empty] at hname

theorem Sound.record (h : Sound r) (call : String × Entry ω) : Sound (r.record call) := by
  obtain ⟨called, entry⟩ := call
  intro name hname
  cases entry with
  | playable play =>
    -- the handler of the called name is a new one, and this name is unplayable no more
    obtain ⟨hne, hbefore⟩ : called ≠ name ∧ name ∈ r.unplayable := by
      simpa [Registry.record, register] using hname
    simpa [Registry.record, register, Std.TreeMap.getElem?_insert, hne] using h name hbefore
  | unplayable =>
    by_cases hsame : called = name
    · simp [Registry.record, registerUnplayable, hsame]
    · have hbefore : name ∈ r.unplayable := by
        simpa [Registry.record, registerUnplayable, hsame] using hname
      simpa [Registry.record, registerUnplayable, Std.TreeMap.getElem?_insert, hsame] using h name hbefore

private theorem known?_empty (name : String) : (Registry.empty : Registry ω).known? name = none := by
  simp [known?, Registry.empty]

/-- A registration writes the entry of its name, and no other. -/
theorem known?_record (r : Registry ω) (call : String × Entry ω) (name : String) :
    (r.record call).known? name = if call.1 = name then some call.2 else r.known? name := by
  obtain ⟨called, entry⟩ := call
  cases entry <;> by_cases hsame : called = name <;>
    simp [known?, record, register, registerUnplayable, Std.TreeMap.getElem?_insert, Std.TreeSet.contains_erase,
      Std.TreeSet.contains_insert, hsame]

private theorem known?_isSome : (r.known? name).isSome = r.handlers.contains name := by
  rw [known?, Option.isSome_map, Std.TreeMap.contains_eq_isSome_getElem?]

private theorem known?_eq_playable_iff {play : Player ω → Task ω Unit} :
    r.known? name = some (.playable play) ↔ r.lookup name = some play ∧ name ∉ r.unplayable := by
  unfold known? lookup
  rw [← Std.TreeSet.contains_iff_mem]
  cases r.handlers[name]? <;> cases r.unplayable.contains name <;> simp

private theorem known?_eq_unplayable_iff (h : Sound r) : r.known? name = some .unplayable ↔ name ∈ r.unplayable := by
  have hhandler := h name
  unfold known?
  rw [← Std.TreeSet.contains_iff_mem] at hhandler ⊢
  cases hcontains : r.unplayable.contains name with
  | false => cases r.handlers[name]? <;> simp
  | true => simp [hhandler hcontains]

theorem supports_iff : r.supports name = true ↔ ∃ play, r.known? name = some (.playable play) := by
  simp only [known?_eq_playable_iff, exists_and_right, supports, lookup, Bool.and_eq_true, Bool.not_eq_true',
    ← Option.isSome_iff_exists, ← Std.TreeMap.contains_eq_isSome_getElem?, ← Std.TreeSet.contains_iff_mem,
    Bool.not_eq_true]

theorem execute_of_known {play : Player ω → Task ω Unit} (h : r.known? name = some (.playable play))
    (p : Player ω) : r.execute p name = play p := by
  unfold execute
  rw [(known?_eq_playable_iff.mp h).1]

private theorem Sound.execute_refused (h : Sound r) (hname : r.supports name = false) (p : Player ω) :
    r.execute p name = throw (.unsupportedEvent name) := by
  unfold execute
  cases hplay : r.lookup name with
  | none => rfl
  | some play =>
    have hmem : name ∈ r.unplayable := by
      refine Classical.byContradiction fun hnot => ?_
      rw [supports_iff.mpr ⟨play, known?_eq_playable_iff.mpr ⟨hplay, hnot⟩⟩] at hname
      cases hname
    cases hplay.symm.trans (h name hmem)
    rfl

theorem mem_names_iff : name ∈ r.names ↔ ∃ entry, r.known? name = some entry := by
  rw [names, Text.mem_ascending, Std.TreeMap.mem_keys, ← Std.TreeMap.contains_iff_mem, ← known?_isSome,
    Option.isSome_iff_exists]

private theorem names_pairwise (r : Registry ω) : r.names.Pairwise fun a b => Text.bytes a < Text.bytes b := by
  refine (Text.pairwise_ascending _).imp ?_
  intro a b hlt
  exact Text.lt_iff_bytes_lt.mp hlt

end OneTable

section History

/-- The entry is from the last registration of the name. -/
def Latest (history : List (String × Entry ω)) (name : String) (entry : Entry ω) : Prop :=
  ∃ before after, history = before ++ (name, entry) :: after ∧ ∀ later ∈ after, later.1 ≠ name

/-- The last registration of the name was of a gesture that can be played. -/
def Playable (history : List (String × Entry ω)) (name : String) : Prop :=
  ∃ play, Latest history name (.playable play)

variable {history : List (String × Entry ω)} {name : String} {entry : Entry ω}

private theorem Latest.mem (h : Latest history name entry) : (name, entry) ∈ history := by
  obtain ⟨before, after, rfl, -⟩ := h
  simp

private theorem latest_of_nodup (h : (history.map Prod.fst).Nodup) (hentry : (name, entry) ∈ history) :
    Latest history name entry := by
  obtain ⟨before, after, rfl⟩ := List.append_of_mem hentry
  refine ⟨before, after, rfl, ?_⟩
  rintro later hlater rfl
  rw [List.map_append, List.map_cons] at h
  exact (List.nodup_cons.mp (List.nodup_append.mp h).2.1).1 (List.mem_map.mpr ⟨later, hlater, rfl⟩)

private theorem latest_nil : ¬ Latest ([] : List (String × Entry ω)) name entry := by
  rintro ⟨before, after, h, -⟩
  simp at h

private theorem latest_concat {call : String × Entry ω} :
    Latest (history ++ [call]) name entry ↔ if call.1 = name then call.2 = entry else Latest history name entry := by
  constructor
  · rintro ⟨before, after, hsplit, hafter⟩
    rcases List.eq_nil_or_concat after with rfl | ⟨rest, last, rfl⟩
    · obtain ⟨-, hcall⟩ := List.append_inj' hsplit rfl
      rw [List.singleton_inj.mp hcall, if_pos rfl]
    · rw [List.concat_eq_append, ← List.cons_append, ← List.append_assoc] at hsplit
      obtain ⟨rfl, hcall⟩ := List.append_inj' hsplit rfl
      rw [List.singleton_inj.mp hcall, if_neg (hafter last (by simp))]
      exact ⟨before, rest, rfl, fun later hlater => hafter later (by simp [hlater])⟩
  · intro h
    split at h
    next hsame =>
      subst hsame h
      exact ⟨history, [], rfl, by simp⟩
    next hother =>
      obtain ⟨before, after, rfl, hafter⟩ := h
      refine ⟨before, after ++ [call], by simp, fun later hlater => ?_⟩
      rcases List.mem_append.mp hlater with hlater | hlater
      · exact hafter later hlater
      · rw [List.mem_singleton.mp hlater]
        exact hother

private theorem sound_foldl_record {r : Registry ω} (h : Sound r) (history : List (String × Entry ω)) :
    Sound (history.foldl record r) := by
  induction history generalizing r with
  | nil => exact h
  | cons call rest ih => exact ih (h.record call)

/-- Whatever was registered, the tables as one have the last entry of each name. -/
theorem known?_foldl_record (history : List (String × Entry ω)) (name : String) (entry : Entry ω) :
    (history.foldl record Registry.empty).known? name = some entry ↔ Latest history name entry := by
  induction history using List.reverseRecOn with
  | nil => simp [known?_empty, latest_nil]
  | append_singleton history call ih =>
    rw [List.foldl_append, List.foldl_cons, List.foldl_nil, known?_record, latest_concat]
    split
    · exact Option.some_inj
    · exact ih

private theorem exists_latest_iff : (∃ entry, Latest history name entry) ↔ ∃ entry, (name, entry) ∈ history := by
  refine ⟨fun ⟨entry, h⟩ => ⟨entry, h.mem⟩, ?_⟩
  induction history using List.reverseRecOn with
  | nil => simp
  | append_singleton history call ih =>
    rintro ⟨entry, hentry⟩
    simp only [latest_concat]
    split
    · exact ⟨call.2, rfl⟩
    next hother =>
      refine ih ⟨entry, ?_⟩
      rcases List.mem_append.mp hentry with hentry | hentry
      · exact hentry
      · exact absurd (congrArg Prod.fst (List.mem_singleton.mp hentry)).symm hother

end History

inductive Origin where
  | empty
  | standard

def Origin.registry [Sleeper ω] : Origin → Registry ω
  | empty => Registry.empty
  | standard => Registry.standard

def Origin.history [Sleeper ω] : Origin → List (String × Entry ω)
  | empty => []
  | standard =>
    Gesture.all.map (fun g => (g.name, .playable (Player.perform · g))) ++
      Gesture.unplayable.map (fun name => (name, .unplayable))

private theorem Origin.registry_eq [Sleeper ω] (origin : Origin) :
    (origin.registry : Registry ω) = origin.history.foldl record Registry.empty := by
  cases origin <;> rfl

theorem standard_known? [Sleeper ω] (g : Gesture) :
    (standard : Registry ω).known? g.name = some (.playable (Player.perform · g)) := by
  have hnames : (Origin.standard.history : List (String × Entry ω)).map Prod.fst =
      Gesture.all.map Gesture.name ++ Gesture.unplayable := by
    simp [Origin.history, Function.comp_def]
  have hall : g ∈ Gesture.all := by cases g <;> decide
  rw [show (standard : Registry ω) = _ from Origin.standard.registry_eq, known?_foldl_record]
  refine latest_of_nodup (hnames ▸ by decide) (List.mem_append_left _ ?_)
  exact List.mem_map.mpr ⟨g, hall, rfl⟩

/-- What the standard registry supports are the standard gestures, each under its name. -/
theorem standard_execute [Sleeper ω] {name : String} (h : (standard : Registry ω).supports name = true) :
    ∃ g : Gesture, g.name = name ∧ ∀ p, (standard : Registry ω).execute p name = p.perform g := by
  obtain ⟨play, hplay⟩ := supports_iff.mp h
  have hlatest : Latest Origin.standard.history name (.playable play) := by
    rw [← known?_foldl_record, ← Origin.standard.registry_eq]
    exact hplay
  rcases List.mem_append.mp hlatest.mem with hmem | hmem
  · obtain ⟨g, -, hg⟩ := List.mem_map.mp hmem
    cases hg
    exact ⟨g, rfl, execute_of_known hplay⟩
  · simp at hmem

/-- After any registrations, on an empty or on the standard registry, a name can be played exactly when its last
registration says so, and then as this says. The two tables agree: one has the names that were ever registered, the
other those whose last registration was of a gesture that cannot be played. All names are listed once, in the order of
their bytes, and so are those that can be played. A script is accepted exactly when all its names can be played;
otherwise the first that cannot is the one complained about, and playing such a name does nothing else than complain. -/
theorem settled_by_last_registration [Sleeper ω] (origin : Origin) (calls : List (String × Entry ω)) :
    let r : Registry ω := calls.foldl record origin.registry
    let history := origin.history ++ calls
    (∀ name, r.supports name = true ↔ Playable history name) ∧
    (∀ name, (name ∈ r.handlers ↔ ∃ entry, (name, entry) ∈ history) ∧
      (name ∈ r.unplayable ↔ Latest history name .unplayable)) ∧
    (r.names.Pairwise (fun a b => Text.bytes a < Text.bytes b) ∧
      ∀ name, name ∈ r.names ↔ ∃ entry, (name, entry) ∈ history) ∧
    (r.supportedNames.Sublist r.names ∧ ∀ name, name ∈ r.supportedNames ↔ Playable history name) ∧
    (∀ script, (r.validate script = .ok () ↔ ∀ name ∈ script, Playable history name) ∧
      ((∃ fault, r.validate script = .error fault) ↔ ∃ name ∈ script, ¬ Playable history name)) ∧
    (∀ before name after, (∀ earlier ∈ before, Playable history earlier) → ¬ Playable history name →
      r.validate (before ++ name :: after) = .error (.unsupportedEvent name)) ∧
    (∀ p name, ¬ Playable history name →
      ∀ scene, r.execute p name scene = (.error (.unsupportedEvent name), scene)) ∧
    (∀ p name play, Latest history name (.playable play) → r.execute p name = play p) := by
  intro r history
  have hr : r = history.foldl record Registry.empty := by
    rw [List.foldl_append, ← origin.registry_eq]
  have hsound : Sound r := hr ▸ sound_foldl_record .empty history
  have hentry (name : String) (entry : Entry ω) : r.known? name = some entry ↔ Latest history name entry := by
    rw [hr, known?_foldl_record]
  have hknown (name : String) : (∃ entry, r.known? name = some entry) ↔ ∃ entry, (name, entry) ∈ history := by
    simp only [hentry, exists_latest_iff]
  have hsupports (name : String) : r.supports name = true ↔ Playable history name := by
    simp only [supports_iff, hentry, Playable]
  have hunsupported (name : String) : r.supports name = false ↔ ¬ Playable history name := by
    rw [← hsupports, Bool.not_eq_true]
  have haccepted (script : List String) : r.validate script = .ok () ↔ ∀ name ∈ script, Playable history name := by
    simp only [validate_ok_iff, hsupports]
  have hrejected (script : List String) :
      (∃ fault, r.validate script = .error fault) ↔ ∃ name ∈ script, ¬ Playable history name := by
    have hnot : (∃ fault, r.validate script = .error fault) ↔ ¬ r.validate script = .ok () := by
      cases r.validate script <;> simp
    rw [hnot, haccepted]
    simp
  refine ⟨hsupports, fun name => ⟨?_, ?_⟩, ⟨names_pairwise r, ?_⟩, ⟨List.filter_sublist, ?_⟩, fun script =>
    ⟨haccepted script, hrejected script⟩, ?_, ?_, ?_⟩
  · rw [← hknown, ← Option.isSome_iff_exists, known?_isSome, Std.TreeMap.contains_iff_mem]
  · rw [← known?_eq_unplayable_iff hsound, hentry]
  · intro name
    rw [mem_names_iff, hknown]
  · intro name
    rw [supportedNames, List.mem_filter, hsupports, and_iff_right_iff_imp]
    rintro ⟨play, hlatest⟩
    rw [mem_names_iff]
    exact ⟨_, (hentry name _).mpr hlatest⟩
  · intro before name after hbefore hname
    apply validate_first
    · intro earlier hearlier
      exact (hsupports earlier).mpr (hbefore earlier hearlier)
    · exact (hunsupported name).mpr hname
  · intro p name hname scene
    rw [hsound.execute_refused ((hunsupported name).mpr hname)]
    rfl
  · intro p name play hlatest
    exact execute_of_known ((hentry name _).mpr hlatest) p

example (play : Player ω → Task ω Unit) :
    let r := ((empty : Registry ω).registerUnplayable "palm").register "palm" play
    r.supports "palm" = true ∧ (r.registerUnplayable "palm").supports "palm" = false := ⟨rfl, rfl⟩

end WatchTrial.Registry
