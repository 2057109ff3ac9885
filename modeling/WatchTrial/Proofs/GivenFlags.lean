import Mathlib.Tactic.ByContra
import WatchTrial.CommandLine.Flag
import WatchTrial.Text.Blank
/-!
# The flags that a command line gives

Which flags a command line gives, and which values, is told by its words alone. The reading of a line gives them one
after the other: it finds nothing wrong just when the words have the forms of this grammar and every value can be read.
-/
namespace WatchTrial.CommandLine

variable {σ : Type}

/-- A flag with the value that it is given. -/
structure Giving (σ : Type) where
  flag : Flag σ
  value : String

namespace Flag

def giveAll (givings : List (Giving σ)) (options : σ) : Except String σ :=
  givings.foldlM (fun options g => g.flag.set g.value options) options

def valuesOf (givings : List (Giving σ)) (name : String) : List String :=
  (givings.filter (·.flag.name == name)).map (·.value)

/-- A name that can be written after two hyphens. -/
def IsName (name : List Char) : Prop :=
  '=' ∉ name ∧ ∃ c rest, name = c :: rest ∧ c ≠ '-'

/-- A value that is written after an equals sign. -/
def IsEquated (rest : List Char) : Prop := ∃ c value, rest = '=' :: c :: value

/-- Letters that give flags, and a flag among them whose value comes next. The value of a letter may follow it
directly. From `test.` on, nothing is read. -/
inductive ByLetters (flags : List (Flag σ)) : List Char → List (Giving σ) → Option (Flag σ) → Prop
  | nil : ByLetters flags [] [] none
  | ignored (rest : List Char) : ByLetters flags ("test.".toList ++ rest) [] none
  | equated {f : Flag σ} {c d : Char} {value : List Char} (hf : flags.find? (·.letter == some c) = some f) :
      ByLetters flags (c :: '=' :: d :: value) [⟨f, String.ofList (d :: value)⟩] none
  | switch {f : Flag σ} {c : Char} {rest : List Char} {givings : List (Giving σ)} {next : Option (Flag σ)}
      (hf : flags.find? (·.letter == some c) = some f) (hswitch : f.isSwitch = true) (hrest : ¬ IsEquated rest)
      (hread : ¬ "test.".toList <+: c :: rest) (h : ByLetters flags rest givings next) :
      ByLetters flags (c :: rest) (⟨f, "true"⟩ :: givings) next
  | value {f : Flag σ} {c : Char} {rest : List Char} (hf : flags.find? (·.letter == some c) = some f)
      (hswitch : f.isSwitch = false) (hrest : ¬ IsEquated rest) (hread : ¬ "test.".toList <+: c :: rest)
      (hne : rest ≠ []) : ByLetters flags (c :: rest) [⟨f, String.ofList rest⟩] none
  | awaiting {f : Flag σ} {c : Char} (hf : flags.find? (·.letter == some c) = some f)
      (hswitch : f.isSwitch = false) : ByLetters flags [c] [] (some f)

/-- A word that gives flags, and a flag in it whose value is the next word. -/
inductive ByWord (flags : List (Flag σ)) : List Char → List (Giving σ) → Option (Flag σ) → Prop
  | equated {f : Flag σ} {name value : List Char} (hname : IsName name)
      (hf : flags.find? (·.name == String.ofList name) = some f) :
      ByWord flags ('-' :: '-' :: (name ++ '=' :: value)) [⟨f, String.ofList value⟩] none
  | switch {f : Flag σ} {name : List Char} (hname : IsName name)
      (hf : flags.find? (·.name == String.ofList name) = some f) (hswitch : f.isSwitch = true) :
      ByWord flags ('-' :: '-' :: name) [⟨f, "true"⟩] none
  | awaiting {f : Flag σ} {name : List Char} (hname : IsName name)
      (hf : flags.find? (·.name == String.ofList name) = some f) (hswitch : f.isSwitch = false) :
      ByWord flags ('-' :: '-' :: name) [] (some f)
  | letters {c : Char} {rest : List Char} {givings : List (Giving σ)} {next : Option (Flag σ)} (hc : c ≠ '-')
      (h : ByLetters flags (c :: rest) givings next) : ByWord flags ('-' :: c :: rest) givings next

/-- A word that has no flags: it does not start with a hyphen, or is nothing else. -/
def IsPlain (word : String) : Prop := word.toList = ['-'] ∨ word.toList.head? ≠ some '-'

/-- The flags that a line gives, after a flag that may still await its value, and the other words of the line. -/
inductive Gives (flags : List (Flag σ)) : Option (Flag σ) → List String → List (Giving σ) → List String → Prop
  | nil : Gives flags none [] [] []
  | ended (line : List String) : Gives flags none ("--" :: line) [] line
  | plain {word : String} {line words : List String} {givings : List (Giving σ)} (hplain : IsPlain word)
      (h : Gives flags none line givings words) : Gives flags none (word :: line) givings (word :: words)
  | flagged {word : String} {line words : List String} {givings more : List (Giving σ)} {next : Option (Flag σ)}
      (hword : ByWord flags word.toList givings next) (h : Gives flags next line more words) :
      Gives flags none (word :: line) (givings ++ more) words
  | value {f : Flag σ} {word : String} {line words : List String} {givings : List (Giving σ)}
      (h : Gives flags none line givings words) :
      Gives flags (some f) (word :: line) (⟨f, word⟩ :: givings) words

section Giving

variable {flags : List (Flag σ)} {f : Flag σ} {v : String} {r r' : Reading σ} {options options' : σ}
  {givings more : List (Giving σ)}

private theorem giveAll_nil (options : σ) : giveAll [] options = .ok options := rfl

private theorem giveAll_cons (h : f.set v options = .ok options') :
    giveAll (⟨f, v⟩ :: givings) options = giveAll givings options' := by
  rw [giveAll, List.foldlM_cons, h]
  rfl

theorem exists_of_giveAll_cons (h : giveAll (⟨f, v⟩ :: givings) options = .ok options') :
    ∃ middle, f.set v options = .ok middle ∧ giveAll givings middle = .ok options' := by
  cases hset : f.set v options with
  | ok middle => exact ⟨middle, rfl, by rwa [giveAll_cons hset] at h⟩
  | error why =>
    rw [giveAll, List.foldlM_cons, hset] at h
    cases h

theorem giveAll_append (h : giveAll givings options = .ok options') :
    giveAll (givings ++ more) options = giveAll more options' := by
  rw [giveAll, List.foldlM_append]
  rw [giveAll] at h
  rw [h]
  rfl

theorem exists_of_giveAll_append (h : giveAll (givings ++ more) options = .ok options') :
    ∃ middle, giveAll givings options = .ok middle := by
  cases hmiddle : giveAll givings options with
  | ok middle => exact ⟨middle, rfl⟩
  | error why =>
    rw [giveAll] at hmiddle
    rw [giveAll, List.foldlM_append, hmiddle] at h
    cases h

/-- Flags were given between two states of a reading; a flag awaits its value then, if there is one. -/
structure Took (r : Reading σ) (givings : List (Giving σ)) (next : Option (Flag σ)) (r' : Reading σ) : Prop where
  options : giveAll givings r.options = .ok r'.options
  given : r'.given = (givings.map (·.flag.name)).reverse ++ r.given
  awaits : r'.awaits.map Prod.fst = next
  words : r'.words = r.words
  ended : r'.ended = r.ended
  fault : r'.fault = r.fault

theorem Took.nil (h : r.awaits = none) : Took r [] none r := ⟨rfl, rfl, by simp [h], rfl, rfl, rfl⟩

private theorem Took.awaiting (f : Flag σ) (fault : FlagFault) :
    Took r [] (some f) { r with awaits := some (f, fault) } :=
  ⟨rfl, rfl, rfl, rfl, rfl, rfl⟩

theorem Took.append {next next' : Option (Flag σ)} {r₁ : Reading σ} (h : Took r givings next r₁)
    (hmore : Took r₁ more next' r') : Took r (givings ++ more) next' r' where
  options := by rw [giveAll_append h.options, hmore.options]
  given := by rw [hmore.given, h.given, List.map_append, List.reverse_append, List.append_assoc]
  awaits := hmore.awaits
  words := hmore.words.trans h.words
  ended := hmore.ended.trans h.ended
  fault := hmore.fault.trans h.fault

private theorem took_give (h : f.set v r.options = .ok options) : Took r [⟨f, v⟩] none (f.give v r) := by
  have hgive : f.give v r = { r with options, given := f.name :: r.given, awaits := none } := by simp [give, h]
  rw [hgive]
  exact ⟨giveAll_cons h, rfl, rfl, rfl, rfl, rfl⟩

private theorem took_give_of_fault (h : (f.give v r).fault = none) : Took r [⟨f, v⟩] none (f.give v r) := by
  cases hset : f.set v r.options with
  | ok options => exact took_give hset
  | error why => simp [give, hset] at h

end Giving

section Letters

variable {flags : List (Flag σ)} {f : Flag σ} {c : Char} {cs rest : List Char} {r : Reading σ} {options : σ}
  {givings : List (Giving σ)} {next : Option (Flag σ)}

private theorem readLetters_ignored (h : "test.".toList <+: cs) : readLetters flags r cs = r := by
  cases cs with
  | nil => rfl
  | cons c rest => rw [readLetters, if_pos (List.isPrefixOf_iff_prefix.mpr h)]

private theorem readLetters_unknown (hread : ¬ "test.".toList <+: c :: rest)
    (hf : flags.find? (·.letter == some c) = none) : (readLetters flags r (c :: rest)).fault ≠ none := by
  rw [readLetters, if_neg (mt List.isPrefixOf_iff_prefix.mp hread), hf]
  exact Option.some_ne_none _

private theorem readLetters_equated {d : Char} {value : List Char} (hf : flags.find? (·.letter == some c) = some f) :
    readLetters flags r (c :: '=' :: d :: value) = f.give (String.ofList (d :: value)) r := by
  have hread : ¬ "test.".toList <+: c :: '=' :: d :: value := by simp
  rw [readLetters, if_neg (mt List.isPrefixOf_iff_prefix.mp hread), hf]
  rfl

private theorem readLetters_known (hf : flags.find? (·.letter == some c) = some f) (hrest : ¬ IsEquated rest)
    (hread : ¬ "test.".toList <+: c :: rest) : readLetters flags r (c :: rest) =
      if f.isSwitch then
        if (f.give "true" r).fault.isSome then f.give "true" r else readLetters flags (f.give "true" r) rest
      else if rest.isEmpty then { r with awaits := some (f, .letterNeedsValue c (String.singleton c)) }
      else f.give (String.ofList rest) r := by
  rw [readLetters, if_neg (mt List.isPrefixOf_iff_prefix.mp hread), hf]
  dsimp only
  split
  next d value => exact absurd ⟨d, value, rfl⟩ hrest
  next => rfl

private theorem ByLetters.took (h : ByLetters flags cs givings next)
    (hoptions : giveAll givings r.options = .ok options)
    (hfault : r.fault = none) (hawaits : r.awaits = none) : Took r givings next (readLetters flags r cs) := by
  induction h generalizing r with
  | nil => exact .nil hawaits
  | ignored rest =>
    rw [readLetters_ignored (List.prefix_append _ rest)]
    exact .nil hawaits
  | equated hf =>
    obtain ⟨middle, hset, -⟩ := exists_of_giveAll_cons hoptions
    rw [readLetters_equated hf]
    exact took_give hset
  | switch hf hswitch hrest hread h ih =>
    obtain ⟨middle, hset, hmore⟩ := exists_of_giveAll_cons hoptions
    have hgive := took_give hset
    have hstill := hgive.fault.trans hfault
    rw [← List.singleton_append, giveAll_append hgive.options] at hoptions
    rw [readLetters_known hf hrest hread, if_pos hswitch, if_neg (by simp [hstill])]
    exact hgive.append (ih hoptions hstill (Option.map_eq_none_iff.mp hgive.awaits))
  | value hf hswitch hrest hread hne =>
    obtain ⟨middle, hset, -⟩ := exists_of_giveAll_cons hoptions
    rw [readLetters_known hf hrest hread, if_neg (by simp [hswitch]), if_neg (by simpa using hne)]
    exact took_give hset
  | awaiting hf hswitch =>
    rw [readLetters_known hf (by simp [IsEquated]) (by simp), if_neg (by simp [hswitch])]
    exact .awaiting _ _

private theorem exists_byLetters (hread : (readLetters flags r cs).fault = none) (hfault : r.fault = none)
    (hawaits : r.awaits = none) :
    ∃ givings next, ByLetters flags cs givings next ∧ Took r givings next (readLetters flags r cs) := by
  induction cs generalizing r with
  | nil => exact ⟨[], none, .nil, .nil hawaits⟩
  | cons c rest ih =>
    by_cases hignored : "test.".toList <+: c :: rest
    · obtain ⟨tail, htail⟩ := hignored
      rw [readLetters_ignored ⟨tail, htail⟩]
      exact ⟨[], none, htail ▸ .ignored tail, .nil hawaits⟩
    · cases hf : flags.find? (·.letter == some c) with
      | none => exact absurd hread (readLetters_unknown hignored hf)
      | some f =>
        by_cases hequated : IsEquated rest
        · obtain ⟨d, value, rfl⟩ := hequated
          rw [readLetters_equated hf] at hread ⊢
          exact ⟨_, none, .equated hf, took_give_of_fault hread⟩
        · rw [readLetters_known hf hequated hignored] at hread ⊢
          by_cases hswitch : f.isSwitch = true
          · -- the letters behind a switch are read on
            rw [if_pos hswitch] at hread ⊢
            split at hread
            next hwrong => exact absurd hread (Option.isSome_iff_ne_none.mp hwrong)
            next hstill =>
              have hgive := took_give_of_fault (Option.not_isSome_iff_eq_none.mp hstill)
              obtain ⟨givings, next, hrest, htook⟩ :=
                ih hread (hgive.fault.trans hfault) (Option.map_eq_none_iff.mp hgive.awaits)
              rw [if_neg hstill]
              exact ⟨_, next, .switch hf hswitch hequated hignored hrest, hgive.append htook⟩
          · -- the value of any other flag is the rest of the word, or the next word
            have hvalue : f.isSwitch = false := Bool.eq_false_iff.mpr hswitch
            rw [if_neg hswitch] at hread ⊢
            cases rest with
            | nil => exact ⟨[], some f, .awaiting hf hvalue, .awaiting f _⟩
            | cons d value =>
              rw [if_neg (by simp)] at hread ⊢
              exact ⟨_, none, .value hf hvalue hequated hignored (List.cons_ne_nil d value), took_give_of_fault hread⟩

end Letters

section Words

variable {flags : List (Flag σ)} {f : Flag σ} {name rest : List Char} {c : Char} {word : String} {r : Reading σ}
  {options : σ} {givings : List (Giving σ)} {next : Option (Flag σ)}

private theorem readLong_equated (hname : '=' ∉ name) (hf : flags.find? (·.name == String.ofList name) = some f)
    (value : List Char) : readLong flags r (name ++ '=' :: value) = f.give (String.ofList value) r := by
  simp only [readLong, Text.span_append hname, hf]

private theorem readLong_bare (hname : '=' ∉ name) (hf : flags.find? (·.name == String.ofList name) = some f) :
    readLong flags r name = if f.isSwitch then f.give "true" r
      else { r with awaits := some (f, .needsValue (String.ofList name)) } := by
  simp only [readLong, Text.span_of_not_mem hname, hf]

private theorem readLong_unknown {chars : List Char} (hname : chars.takeWhile (· != '=') = name)
    (hf : flags.find? (·.name == String.ofList name) = none) : (readLong flags r chars).fault ≠ none := by
  simp [readLong, hname, hf]

/-- The reading of a line goes on, and the next word is not the value of a flag. -/
structure IsOpen (r : Reading σ) : Prop where
  fault : r.fault = none
  awaits : r.awaits = none
  ended : r.ended = false

private theorem readWord_value {fault : FlagFault} (hfault : r.fault = none) (hawaits : r.awaits = some (f, fault))
    (word : String) : readWord flags r word = f.give word r := by
  simp [readWord, hfault, hawaits]

private theorem readWord_end (h : IsOpen r) : readWord flags r "--" = { r with ended := true } := by
  simp [readWord, h.fault, h.awaits, h.ended]

private theorem readWord_plain (h : IsOpen r) (hplain : IsPlain word) :
    readWord flags r word = { r with words := word :: r.words } := by
  rcases hplain with hword | hword
  · simp [readWord, h.fault, h.awaits, h.ended, hword]
  · cases hchars : word.toList with
    | nil => simp [readWord, h.fault, h.awaits, h.ended, hchars]
    | cons d rest =>
      have hd : d ≠ '-' := by simpa [hchars] using hword
      simp [readWord, h.fault, h.awaits, h.ended, hchars, hd]

private theorem readWord_malformed (h : IsOpen r) (hword : word.toList = '-' :: '-' :: c :: rest)
    (hc : c = '-' ∨ c = '=') :
    (readWord flags r word).fault ≠ none := by
  simp [readWord, h.fault, h.awaits, h.ended, hword, hc]

private theorem readWord_long (h : IsOpen r) (hword : word.toList = '-' :: '-' :: c :: rest)
    (hc : ¬ (c = '-' ∨ c = '=')) :
    readWord flags r word = readLong flags r (c :: rest) := by
  simp [readWord, h.fault, h.awaits, h.ended, hword, hc]

private theorem readWord_letters (h : IsOpen r) (hword : word.toList = '-' :: c :: rest) (hc : c ≠ '-') :
    readWord flags r word = readLetters flags r (c :: rest) := by
  simp [readWord, h.fault, h.awaits, h.ended, hword, hc]

theorem IsName.head (h : IsName (c :: rest)) : ¬ (c = '-' ∨ c = '=') := by
  obtain ⟨hequals, d, tail, heq, hd⟩ := h
  obtain ⟨rfl, rfl⟩ := List.cons.inj heq
  rintro (rfl | rfl)
  · exact hd rfl
  · exact hequals List.mem_cons_self

private theorem ByWord.took (h : ByWord flags word.toList givings next)
    (hoptions : giveAll givings r.options = .ok options)
    (hopen : IsOpen r) : Took r givings next (readWord flags r word) := by
  generalize hword : word.toList = chars at h
  cases h with
  | equated hname hf =>
    obtain ⟨c, rest, rfl, -⟩ := hname.2
    obtain ⟨middle, hset, -⟩ := exists_of_giveAll_cons hoptions
    rw [List.cons_append] at hword
    rw [readWord_long hopen hword hname.head, ← List.cons_append, readLong_equated hname.1 hf]
    exact took_give hset
  | switch hname hf hswitch =>
    obtain ⟨c, rest, rfl, -⟩ := hname.2
    obtain ⟨middle, hset, -⟩ := exists_of_giveAll_cons hoptions
    rw [readWord_long hopen hword hname.head, readLong_bare hname.1 hf, if_pos hswitch]
    exact took_give hset
  | awaiting hname hf hswitch =>
    obtain ⟨c, rest, rfl, -⟩ := hname.2
    rw [readWord_long hopen hword hname.head, readLong_bare hname.1 hf, if_neg (by simp [hswitch])]
    exact .awaiting _ _
  | letters hc h =>
    rw [readWord_letters hopen hword hc]
    exact h.took hoptions hopen.fault hopen.awaits

private theorem exists_byWord_of_long (hread : (readLong flags r (c :: rest)).fault = none)
    (hc : ¬ (c = '-' ∨ c = '=')) :
    ∃ givings next, ByWord flags ('-' :: '-' :: c :: rest) givings next ∧
      Took r givings next (readLong flags r (c :: rest)) := by
  obtain ⟨hhyphen, hequals⟩ := not_or.mp hc
  by_cases hmem : '=' ∈ c :: rest
  · obtain ⟨name, value, heq, hname⟩ := List.eq_append_cons_of_mem hmem
    have hplain : IsName name := by
      cases name with
      | nil => exact absurd (List.cons.inj heq).1 hequals
      | cons d tail => exact ⟨hname, d, tail, rfl, (List.cons.inj heq).1 ▸ hhyphen⟩
    rw [heq] at hread ⊢
    cases hf : flags.find? (·.name == String.ofList name) with
    | none => exact absurd hread (readLong_unknown (Text.span_append hname value).1 hf)
    | some f =>
      rw [readLong_equated hname hf] at hread ⊢
      exact ⟨_, none, .equated hplain hf, took_give_of_fault hread⟩
  · have hplain : IsName (c :: rest) := ⟨hmem, c, rest, rfl, hhyphen⟩
    cases hf : flags.find? (·.name == String.ofList (c :: rest)) with
    | none => exact absurd hread (readLong_unknown (Text.span_of_not_mem hmem).1 hf)
    | some f =>
      rw [readLong_bare hmem hf] at hread ⊢
      by_cases hswitch : f.isSwitch = true
      · rw [if_pos hswitch] at hread ⊢
        exact ⟨_, none, .switch hplain hf hswitch, took_give_of_fault hread⟩
      · rw [if_neg hswitch] at hread ⊢
        exact ⟨[], some f, .awaiting hplain hf (Bool.eq_false_iff.mpr hswitch), .awaiting f _⟩

private theorem readWord_cases (hread : (readWord flags r word).fault = none) (hopen : IsOpen r) :
    word = "--" ∨ IsPlain word ∨
      ∃ givings next, ByWord flags word.toList givings next ∧ Took r givings next (readWord flags r word) := by
  by_cases hplain : IsPlain word
  · exact .inr (.inl hplain)
  · obtain ⟨hother, hhyphen⟩ := not_or.mp hplain
    cases hword : word.toList with
    | nil => simp [hword] at hhyphen
    | cons d rest =>
      obtain rfl : d = '-' := by simpa [hword] using hhyphen
      cases rest with
      | nil => exact absurd hword hother
      | cons c rest =>
        by_cases hc : c = '-'
        · subst hc
          cases rest with
          | nil => exact .inl (String.toList_inj.mp hword)
          | cons c rest =>
            by_cases hmalformed : c = '-' ∨ c = '='
            · exact absurd hread (readWord_malformed hopen hword hmalformed)
            · rw [readWord_long hopen hword hmalformed] at hread ⊢
              exact .inr (.inr (exists_byWord_of_long hread hmalformed))
        · rw [readWord_letters hopen hword hc] at hread ⊢
          obtain ⟨givings, next, hletters, htook⟩ := exists_byLetters hread hopen.fault hopen.awaits
          exact .inr (.inr ⟨givings, next, .letters hc hletters, htook⟩)

end Words

section Lines

variable {flags : List (Flag σ)} {line words : List String} {r r' : Reading σ} {options options' : σ}
  {givings : List (Giving σ)} {next : Option (Flag σ)}

/-- The rest of a line was read without finding anything wrong. -/
structure TookLine (r : Reading σ) (givings : List (Giving σ)) (words : List String) (r' : Reading σ) : Prop where
  options : giveAll givings r.options = .ok r'.options
  given : r'.given = (givings.map (·.flag.name)).reverse ++ r.given
  words : r'.words = words.reverse ++ r.words
  awaits : r'.awaits = none
  fault : r'.fault = none

private theorem Took.tookLine {more : List (Giving σ)} {r₁ : Reading σ} (h : Took r givings next r₁)
    (hline : TookLine r₁ more words r') : TookLine r (givings ++ more) words r' where
  options := by rw [giveAll_append h.options, hline.options]
  given := by rw [hline.given, h.given, List.map_append, List.reverse_append, List.append_assoc]
  words := by rw [hline.words, h.words]
  awaits := hline.awaits
  fault := hline.fault

theorem TookLine.plain {word : String} (h : TookLine { r with words := word :: r.words } givings words r') :
    TookLine r givings (word :: words) r' :=
  { h with words := by simp [h.words] }

private theorem foldl_readWord_ended (h : r.ended = true) (hfault : r.fault = none) (hawaits : r.awaits = none)
    (line : List String) :
    line.foldl (readWord flags) r = { r with words := line.reverse ++ r.words } := by
  induction line generalizing r with
  | nil => rfl
  | cons word line ih =>
    have hword : readWord flags r word = { r with words := word :: r.words } := by
      simp [readWord, h, hfault, hawaits]
    rw [List.foldl_cons, hword, @ih { r with words := word :: r.words } h hfault hawaits]
    simp

private theorem foldl_readWord_fault (h : r.fault ≠ none) (line : List String) : line.foldl (readWord flags) r = r := by
  induction line with
  | nil => rfl
  | cons word line ih =>
    have hword : readWord flags r word = r := by simp [readWord, Option.isSome_iff_ne_none.mpr h]
    rw [List.foldl_cons, hword, ih]

/-- A line that gives flags is read as the flags that it gives. -/
theorem Gives.took (h : Gives flags next line givings words) (hoptions : giveAll givings r.options = .ok options)
    (hfault : r.fault = none) (hended : r.ended = false) (hawaits : r.awaits.map Prod.fst = next) :
    TookLine r givings words (line.foldl (readWord flags) r) := by
  induction h generalizing r with
  | nil =>
    exact ⟨rfl, rfl, rfl, Option.map_eq_none_iff.mp hawaits, hfault⟩
  | ended line =>
    have hnone := Option.map_eq_none_iff.mp hawaits
    rw [List.foldl_cons, readWord_end ⟨hfault, hnone, hended⟩,
      foldl_readWord_ended (r := { r with ended := true }) rfl hfault hnone]
    exact ⟨rfl, rfl, rfl, hnone, hfault⟩
  | plain hplain h ih =>
    have hopen : IsOpen r := ⟨hfault, Option.map_eq_none_iff.mp hawaits, hended⟩
    rw [List.foldl_cons, readWord_plain hopen hplain]
    exact TookLine.plain (ih hoptions hfault hended hawaits)
  | flagged hword h ih =>
    have hopen : IsOpen r := ⟨hfault, Option.map_eq_none_iff.mp hawaits, hended⟩
    obtain ⟨middle, hmiddle⟩ := exists_of_giveAll_append hoptions
    have htook := hword.took hmiddle hopen
    rw [giveAll_append htook.options] at hoptions
    exact htook.tookLine (ih hoptions (htook.fault.trans hfault) (htook.ended.trans hended) htook.awaits)
  | value h ih =>
    obtain ⟨⟨f, fault⟩, hnext, rfl⟩ := Option.map_eq_some_iff.mp hawaits
    obtain ⟨middle, hset, -⟩ := exists_of_giveAll_cons hoptions
    have htook := took_give hset
    rw [← List.singleton_append, giveAll_append htook.options] at hoptions
    rw [List.foldl_cons, readWord_value hfault hnext]
    exact htook.tookLine (ih hoptions (htook.fault.trans hfault) (htook.ended.trans hended) htook.awaits)

/-- A line in which nothing is wrong gives flags. -/
theorem exists_gives (hread : (line.foldl (readWord flags) r).fault = none)
    (hvalue : (line.foldl (readWord flags) r).awaits = none) (hfault : r.fault = none) (hended : r.ended = false) :
    ∃ givings words, Gives flags (r.awaits.map Prod.fst) line givings words ∧
      TookLine r givings words (line.foldl (readWord flags) r) := by
  induction line generalizing r with
  | nil =>
    have hnone : r.awaits = none := hvalue
    rw [hnone]
    exact ⟨[], [], .nil, rfl, rfl, rfl, hnone, hfault⟩
  | cons word line ih =>
    rw [List.foldl_cons] at hread hvalue ⊢
    have hstep : (readWord flags r word).fault = none := by
      by_contra hwrong
      rw [foldl_readWord_fault hwrong] at hread
      exact hwrong hread
    cases hawaits : r.awaits with
    | some awaited =>
      obtain ⟨f, fault⟩ := awaited
      rw [readWord_value hfault hawaits] at hread hvalue hstep ⊢
      have htook := took_give_of_fault hstep
      obtain ⟨givings, words, hline, htookLine⟩ := ih hread hvalue hstep (htook.ended.trans hended)
      rw [htook.awaits] at hline
      exact ⟨_, words, .value hline, htook.tookLine htookLine⟩
    | none =>
      have hopen : IsOpen r := ⟨hfault, hawaits, hended⟩
      rcases readWord_cases hstep hopen with rfl | hplain | ⟨givings, next, hword, htook⟩
      · rw [readWord_end hopen, foldl_readWord_ended (r := { r with ended := true }) rfl hfault hawaits]
        exact ⟨[], line, .ended line, rfl, rfl, rfl, hawaits, hfault⟩
      · rw [readWord_plain hopen hplain] at hread hvalue hstep ⊢
        obtain ⟨givings, words, hline, htookLine⟩ := ih hread hvalue hstep hended
        rw [hawaits] at hline
        exact ⟨givings, word :: words, .plain hplain hline, TookLine.plain htookLine⟩
      · obtain ⟨more, words, hline, htookLine⟩ := ih hread hvalue hstep (htook.ended.trans hended)
        rw [htook.awaits] at hline
        exact ⟨givings ++ more, words, .flagged hword hline, htook.tookLine htookLine⟩

private theorem readOn_options (flags : List (Flag σ)) (r : Reading σ) (line : List String) :
    (readOn flags r line).options =
      (line.foldl (readWord flags) { options := r.options, given := r.given }).options ∧
    (readOn flags r line).given =
      (line.foldl (readWord flags) { options := r.options, given := r.given }).given := by
  unfold readOn
  dsimp only
  split <;> exact ⟨rfl, rfl⟩

private theorem readOn_fault_iff (flags : List (Flag σ)) (r : Reading σ) (line : List String) :
    (readOn flags r line).fault = none ↔
      (line.foldl (readWord flags) { options := r.options, given := r.given }).fault = none ∧
        (line.foldl (readWord flags) { options := r.options, given := r.given }).awaits = none := by
  unfold readOn
  generalize line.foldl (readWord flags) { options := r.options, given := r.given } = read
  cases hfault : read.fault with
  | some fault => simp [hfault]
  | none => cases hawaits : read.awaits <;> simp [hfault, hawaits]

/-- The flags that a line gives are those that its reading takes, if their values can be read. -/
theorem Gives.readAll (h : Gives flags none line givings words) (hoptions : giveAll givings options = .ok options') :
    (Flag.readAll flags options line).fault = none ∧ (Flag.readAll flags options line).words = words ∧
      giveAll givings options = .ok (Flag.readAll flags options line).options ∧
      (Flag.readAll flags options line).given = (givings.map (·.flag.name)).reverse := by
  have htook : TookLine { options } givings words _ := h.took hoptions rfl rfl rfl
  obtain ⟨hread, hgiven⟩ := readOn_options flags { options } line
  refine ⟨(readOn_fault_iff flags { options } line).mpr ⟨htook.fault, htook.awaits⟩, ?_, ?_, ?_⟩
  · simp [Flag.readAll, readOn, htook.fault, htook.awaits, htook.words]
  · rw [Flag.readAll, hread, htook.options]
  · rw [Flag.readAll, hgiven, htook.given, List.append_nil]

theorem exists_gives_of_readAll (h : (Flag.readAll flags options line).fault = none) :
    ∃ givings words, Gives flags none line givings words ∧ ∃ options', giveAll givings options = .ok options' := by
  obtain ⟨hfault, hawaits⟩ := (readOn_fault_iff flags { options } line).mp h
  obtain ⟨givings, words, hgives, htook⟩ := exists_gives hfault hawaits rfl rfl
  exact ⟨givings, words, hgives, _, htook.options⟩

theorem ByLetters.known {cs : List Char} (h : ByLetters flags cs givings next) :
    (∀ g ∈ givings, g.flag ∈ flags) ∧ ∀ f ∈ next, f ∈ flags := by
  induction h with
  | nil | ignored => simp
  | equated hf | value hf | awaiting hf => simpa using List.mem_of_find?_eq_some hf
  | switch hf hswitch hrest hread h ih =>
    exact ⟨List.forall_mem_cons.mpr ⟨List.mem_of_find?_eq_some hf, ih.1⟩, ih.2⟩

theorem ByWord.known {word : List Char} (h : ByWord flags word givings next) :
    (∀ g ∈ givings, g.flag ∈ flags) ∧ ∀ f ∈ next, f ∈ flags := by
  cases h with
  | equated hname hf | switch hname hf | awaiting hname hf => simpa using List.mem_of_find?_eq_some hf
  | letters hc h => exact h.known

theorem Gives.known (h : Gives flags next line givings words) (hnext : ∀ f ∈ next, f ∈ flags) :
    ∀ g ∈ givings, g.flag ∈ flags := by
  induction h with
  | nil | ended => simp
  | plain hplain h ih => exact ih hnext
  | flagged hword h ih =>
    intro g hg
    rcases List.mem_append.mp hg with hg | hg
    · exact hword.known.1 g hg
    · exact ih hword.known.2 g hg
  | value h ih => exact List.forall_mem_cons.mpr ⟨hnext _ rfl, ih (by simp)⟩

end Lines

section Advances

variable {flags : List (Flag σ)} {f : Flag σ} {r r' r'' : Reading σ}

/-- What a reading did was to give some of the flags their values. -/
def Gave (flags : List (Flag σ)) (r r' : Reading σ) : Prop :=
  ∃ givings : List (Giving σ), (∀ g ∈ givings, g.flag ∈ flags) ∧ giveAll givings r.options = .ok r'.options ∧
    r'.given = (givings.map (·.flag.name)).reverse ++ r.given

theorem Gave.trans (h : Gave flags r r') (h' : Gave flags r' r'') : Gave flags r r'' := by
  obtain ⟨givings, hknown, hoptions, hgiven⟩ := h
  obtain ⟨more, hmore, hoptions', hgiven'⟩ := h'
  refine ⟨givings ++ more, ?_, ?_, ?_⟩
  · intro g hg
    exact (List.mem_append.mp hg).elim (hknown g) (hmore g)
  · rw [giveAll_append hoptions, hoptions']
  · rw [hgiven', hgiven, List.map_append, List.reverse_append, List.append_assoc]

/-- A flag that awaits its value is one of the flags, too. -/
def Advances (flags : List (Flag σ)) (r r' : Reading σ) : Prop :=
  Gave flags r r' ∧ ∀ awaited ∈ r'.awaits, awaited.1 ∈ flags

theorem Advances.same (hoptions : r'.options = r.options) (hgiven : r'.given = r.given)
    (hawaits : ∀ awaited ∈ r'.awaits, awaited.1 ∈ flags) : Advances flags r r' :=
  ⟨⟨[], by simp, by rw [hoptions, giveAll_nil], hgiven⟩, hawaits⟩

theorem Advances.refl (h : ∀ awaited ∈ r.awaits, awaited.1 ∈ flags) : Advances flags r r := .same rfl rfl h

theorem Advances.trans (h : Advances flags r r') (h' : Advances flags r' r'') : Advances flags r r'' :=
  ⟨h.1.trans h'.1, h'.2⟩

private theorem advances_give (hf : f ∈ flags) (v : String) : Advances flags r (f.give v r) := by
  unfold give
  split
  next options hset => exact ⟨⟨[⟨f, v⟩], by simpa using hf, giveAll_cons hset, rfl⟩, by simp⟩
  next => exact .same rfl rfl (by simp)

private theorem advances_readLetters (cs : List Char) (h : ∀ awaited ∈ r.awaits, awaited.1 ∈ flags) :
    Advances flags r (readLetters flags r cs) := by
  fun_induction readLetters flags r cs with
  | case1 | case2 => exact .refl h
  | case3 => exact .same rfl rfl h
  | case4 _ _ _ hf | case5 _ _ _ _ _ hf => exact advances_give (List.mem_of_find?_eq_some hf) _
  | case6 r _ _ _ f hf _ _ _ _ ih =>
    have hgive : Advances flags r (f.give "true" r) := advances_give (List.mem_of_find?_eq_some hf) _
    exact hgive.trans (ih hgive.2)
  | case7 _ _ _ _ f hf _ hempty =>
    rw [if_pos hempty]
    exact .same rfl rfl (by simpa using List.mem_of_find?_eq_some hf)
  | case8 _ _ _ _ f hf _ hempty =>
    rw [if_neg hempty]
    exact advances_give (List.mem_of_find?_eq_some hf) _

private theorem advances_readLong (word : List Char) (h : ∀ awaited ∈ r.awaits, awaited.1 ∈ flags) :
    Advances flags r (readLong flags r word) := by
  fun_cases readLong flags r word with
  | case1 => exact .same rfl rfl h
  | case2 _ f hf => exact advances_give (List.mem_of_find?_eq_some hf) _
  | case3 _ f hf => exact advances_give (List.mem_of_find?_eq_some hf) _
  | case4 _ f hf => exact .same rfl rfl (by simpa using List.mem_of_find?_eq_some hf)

private theorem advances_readWord (word : String) (h : ∀ awaited ∈ r.awaits, awaited.1 ∈ flags) :
    Advances flags r (readWord flags r word) := by
  fun_cases readWord flags r word with
  | case1 => exact .refl h
  | case2 hfault f fault hawaits => exact advances_give (h _ hawaits) word
  | case6 => exact advances_readLong _ h
  | case7 => exact advances_readLetters _ h
  | _ => exact .same rfl rfl h

private theorem advances_foldl (line : List String) (h : ∀ awaited ∈ r.awaits, awaited.1 ∈ flags) :
    Advances flags r (line.foldl (readWord flags) r) := by
  induction line generalizing r with
  | nil => exact .refl h
  | cons word line ih =>
    have hword := advances_readWord word h
    exact hword.trans (ih hword.2)

/-- Whatever is wrong with a line, reading it only gives flags their values. -/
theorem gave_readOn (flags : List (Flag σ)) (r : Reading σ) (line : List String) :
    Gave flags r (readOn flags r line) := by
  obtain ⟨hoptions, hgiven⟩ := readOn_options flags r line
  unfold Gave
  rw [hoptions, hgiven]
  exact (advances_foldl (r := { options := r.options, given := r.given }) line (by simp)).1

end Advances

theorem mem_insert {f g : Flag σ} {flags : List (Flag σ)} : f ∈ g.insert flags ↔ f = g ∨ f ∈ flags := by
  induction flags with
  | nil => simp [insert]
  | cons first rest ih =>
    rw [insert]
    split
    · simp
    · simp [ih, or_left_comm]

end Flag

end WatchTrial.CommandLine
