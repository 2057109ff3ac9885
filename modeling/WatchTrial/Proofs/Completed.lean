import Mathlib.Data.List.Nodup
import WatchTrial.Face.Progress
import WatchTrial.Proofs.CleanedPaths
/-!
# Completed packages

The pattern for completed packages is a star before a fixed ending, in a directory. A star is searched byte by
byte, but what it finds are the names with that ending and no slash. So a package is completed just when
something stands in the directory under its name with the ending.
-/
namespace WatchTrial

namespace Glob

section Reading

variable {cs lead ending : List Char}

private theorem hasMeta_eq_false_iff :
    hasMeta cs = false ↔ ∀ c ∈ cs, c ≠ '*' ∧ c ≠ '?' ∧ c ≠ '[' ∧ c ≠ '\\' := by
  simp [hasMeta, and_assoc]

private theorem readItems_plain (h : hasMeta cs = false) {fuel : Nat} (hfuel : cs.length < fuel) :
    readItems fuel cs = some (cs.map .literal) := by
  induction cs generalizing fuel with
  | nil =>
    cases fuel with
    | zero => exact absurd hfuel (Nat.not_lt_zero _)
    | succ fuel => rfl
  | cons c rest ih =>
    cases fuel with
    | zero => exact absurd hfuel (Nat.not_lt_zero _)
    | succ fuel =>
      obtain ⟨⟨-, hone, hclass, hescape⟩, hrest⟩ := List.forall_mem_cons.mp (hasMeta_eq_false_iff.mp h)
      have hmore := ih (hasMeta_eq_false_iff.mpr hrest) (Nat.lt_of_succ_lt_succ hfuel)
      rw [readItems.eq_def]
      simp [hmore]

private theorem cutStar_plain (h : hasMeta cs = false) {rest : List Char} (hrest : rest = [] ∨ rest.head? = some '*') :
    cutStar false (cs ++ rest) = (cs, rest) := by
  induction cs with
  | nil =>
    rcases hrest with rfl | hrest
    · rfl
    · obtain ⟨tail, rfl⟩ := List.head?_eq_some_iff.mp hrest
      simp [cutStar]
  | cons c tail ih =>
    obtain ⟨⟨hstar, -, hclass, hescape⟩, htail⟩ := List.forall_mem_cons.mp (hasMeta_eq_false_iff.mp h)
    have hmore := ih (hasMeta_eq_false_iff.mpr htail)
    rw [List.cons_append, cutStar.eq_def]
    simp [hstar, hclass, hescape, hmore]

private theorem dropWhile_star (h : hasMeta cs = false) (hne : cs ≠ []) (rest : List Char) :
    (cs ++ rest).dropWhile (· == '*') = cs ++ rest := by
  cases cs with
  | nil => exact absurd rfl hne
  | cons c tail =>
    have hc := (List.forall_mem_cons.mp (hasMeta_eq_false_iff.mp h)).1.1
    rw [List.cons_append, List.dropWhile_cons_of_neg (by simpa using hc)]

private theorem readChunks_star (h : hasMeta ending = false) (fuel : Nat) :
    readChunks (fuel + 2) ('*' :: ending) = [⟨true, some (ending.map .literal)⟩] := by
  have hdropped : ('*' :: ending).dropWhile (· == '*') = ending := by
    rw [List.dropWhile_cons_of_pos (by rfl)]
    by_cases hne : ending = []
    · rw [hne]
      rfl
    · simpa using dropWhile_star h hne []
  have hcut : cutStar false ending = (ending, []) := by simpa using cutStar_plain h (.inl rfl)
  rw [readChunks]
  simp only [hdropped, hcut, readItems_plain h (Nat.lt_succ_self _)]
  rfl

private theorem read_star (hlead : hasMeta lead = false) (h : hasMeta ending = false) :
    read (lead ++ '*' :: ending) =
      (if lead = [] then [] else [⟨false, some (lead.map .literal)⟩]) ++ [⟨true, some (ending.map .literal)⟩] := by
  cases lead with
  | nil => exact readChunks_star h ending.length
  | cons c rest =>
    have hfuel : (c :: rest ++ '*' :: ending).length = rest.length + ending.length + 2 := by
      simp +arith
    have hdropped := dropWhile_star hlead (List.cons_ne_nil c rest) ('*' :: ending)
    have hcut := cutStar_plain hlead (.inr (rfl : ('*' :: ending).head? = some '*'))
    have hstar : (c == '*') = false := by
      simpa using (List.forall_mem_cons.mp (hasMeta_eq_false_iff.mp hlead)).1.1
    rw [List.cons_append] at hdropped hcut hfuel ⊢
    rw [read, hfuel, readChunks]
    simp only [hdropped, hcut, readItems_plain hlead (Nat.lt_succ_self _), hstar, readChunks_star h]
    rfl

private theorem fits_read_star (hlead : hasMeta lead = false) (h : hasMeta ending = false) :
    (fits (read (lead ++ '*' :: ending)) "").isNone = false := by
  rw [read_star hlead h]
  cases lead with
  | nil => cases ending <;> rfl
  | cons d more => rfl

end Reading

section Searching

variable {ending : List Char} {s : Symbol} {name rest : List Symbol}

def Ends (ending : List Char) (name : List Symbol) : Prop :=
  ∃ before, name = before ++ ending.map .whole ∧ .whole '/' ∉ before

/-- The symbols end with these characters, after something else. -/
def EndsLater (ending : List Char) (name : List Symbol) : Prop :=
  ∃ s tail, name = s :: tail ∧ s ≠ .whole '/' ∧ Ends ending tail

private theorem ends_iff : Ends ending name ↔ name = ending.map .whole ∨ EndsLater ending name := by
  constructor
  · rintro ⟨before, rfl, hslash⟩
    cases before with
    | nil => exact .inl rfl
    | cons s before =>
      obtain ⟨hs, hbefore⟩ := not_or.mp (mt List.mem_cons.mpr hslash)
      exact .inr ⟨s, _, rfl, Ne.symm hs, before, rfl, hbefore⟩
  · rintro (rfl | ⟨s, _, rfl, hs, before, rfl, hslash⟩)
    · exact ⟨[], rfl, List.not_mem_nil⟩
    · refine ⟨s :: before, rfl, fun h => ?_⟩
      rcases List.mem_cons.mp h with h | h
      · exact hs h.symm
      · exact hslash h

private theorem ends_strays (n : Nat) : Ends ending (List.replicate n .stray ++ name) ↔ Ends ending name := by
  induction n with
  | zero => rfl
  | succ n ih =>
    rw [List.replicate_succ, List.cons_append, ends_iff, ← ih]
    constructor
    · rintro (heq | ⟨_, _, heq, -, h⟩)
      · cases ending <;> cases heq
      · exact (List.cons.inj heq).2 ▸ h
    · exact fun h => .inr ⟨.stray, _, rfl, by simp, h⟩

private theorem matchItems_literals :
    matchItems (ending.map .literal) name = some rest ↔ name = ending.map .whole ++ rest := by
  induction ending generalizing name with
  | nil => simp [matchItems, eq_comm]
  | cons c cs ih =>
    cases name with
    | nil => simp [matchItems]
    | cons s name =>
      cases s with
      | stray => simp [matchItems, Item.admits]
      | whole d =>
        by_cases hc : c = d
        · simp [matchItems, Item.admits, hc, ih]
        · simp [matchItems, Item.admits, hc, Ne.symm hc]

private theorem byteCount_skipByte (s : Symbol) (name : List Symbol) :
    byteCount (skipByte (s :: name)) + 1 = byteCount (s :: name) := by
  cases s with
  | stray =>
    simp only [byteCount, skipByte, ← List.sum_eq_foldl, List.map_cons, List.sum_cons]
    omega
  | whole c =>
    have hsize := c.utf8Size_pos
    simp only [byteCount, skipByte, ← List.sum_eq_foldl, List.map_append, List.map_replicate, List.map_cons,
      List.sum_append, List.sum_replicate_nat, List.sum_cons]
    omega

private theorem ends_skipByte : Ends ending (skipByte (s :: name)) ↔ Ends ending name := by
  cases s with
  | stray => rfl
  | whole c => exact ends_strays _

private theorem searchItems_literals {fuel : Nat} (hfuel : byteCount name ≤ fuel) :
    searchItems true (ending.map .literal) fuel name = some rest ↔ rest = [] ∧ EndsLater ending name := by
  induction fuel generalizing name with
  | zero =>
    cases name with
    | nil => simp [searchItems, EndsLater]
    | cons s tail =>
      have hcount := byteCount_skipByte s tail
      omega
  | succ fuel ih =>
    cases name with
    | nil => simp [searchItems, EndsLater]
    | cons s tail =>
      by_cases hs : s = .whole '/'
      · simp [searchItems, EndsLater, hs]
      · have hcount := byteCount_skipByte s tail
        have hshorter : byteCount (skipByte (s :: tail)) ≤ fuel := by omega
        -- a skipped byte may leave stray ones of its character, but no ending starts with these
        have hlater : EndsLater ending (s :: tail) ↔
            skipByte (s :: tail) = ending.map .whole ∨ EndsLater ending (skipByte (s :: tail)) := by
          rw [← ends_iff, ends_skipByte]
          exact ⟨fun ⟨_, _, heq, _, h⟩ => (List.cons.inj heq).2 ▸ h, fun h => ⟨s, tail, rfl, hs, h⟩⟩
        rw [searchItems]
        · rcases hmatch : matchItems (ending.map .literal) (skipByte (s :: tail)) with _ | found
          · -- the ending is not here, so it is searched further on
            have hhere : skipByte (s :: tail) ≠ ending.map .whole := by
              intro heq
              rw [heq, matchItems_literals.mpr (List.append_nil _).symm] at hmatch
              cases hmatch
            rw [hlater, or_iff_right hhere]
            exact ih hshorter
          · have hfound := matchItems_literals.mp hmatch
            cases found with
            | nil =>
              rw [List.append_nil] at hfound
              simp [hlater, hfound, eq_comm]
            | cons first more =>
              have hhere : skipByte (s :: tail) ≠ ending.map .whole := by
                intro heq
                rw [heq] at hfound
                simp at hfound
              rw [hlater, or_iff_right hhere]
              exact ih hshorter
        · exact List.cons_ne_nil _ _
        · rintro tail' heq
          exact hs (List.cons.inj heq).1

private theorem fits_star (ending : List Char) (text : String) :
    ∃ fitting, fits [⟨true, some (ending.map .literal)⟩] text = some fitting ∧
      (fitting = true ↔ ∃ before, text.toList = before ++ ending ∧ '/' ∉ before) := by
  have hplain : (∃ before, text.toList = before ++ ending ∧ '/' ∉ before) ↔
      Ends ending (text.toList.map .whole) := by
    constructor
    · rintro ⟨before, heq, hslash⟩
      exact ⟨before.map .whole, by rw [heq, List.map_append], by simpa using hslash⟩
    · rintro ⟨symbols, heq, hslash⟩
      obtain ⟨before, last, htext, rfl, hlast⟩ := List.map_eq_append_iff.mp heq
      obtain rfl : last = ending := List.map_injective_iff.mpr (fun _ _ => Symbol.whole.inj) hlast
      exact ⟨before, htext, by simpa using hslash⟩
  by_cases hne : ending = []
  · -- a star with nothing behind it
    subst hne
    refine ⟨! (text.toList.map Symbol.whole).contains (.whole '/'), rfl, ?_⟩
    simp
  have hitems : (ending.map Item.literal).isEmpty = false := by simpa using hne
  rw [hplain, ends_iff]
  unfold fits
  generalize text.toList.map Symbol.whole = name
  rw [matchChunks]
  simp only [hitems, Bool.and_false, Bool.false_eq_true, if_false, if_true, List.isEmpty_nil, matchChunks,
    Bool.not_true, Bool.or_false]
  by_cases hhere : name = ending.map .whole
  · rw [matchItems_literals.mpr (hhere.trans (List.append_nil _).symm)]
    exact ⟨true, rfl, iff_of_true rfl (.inl hhere)⟩
  · -- what matches at the start does not reach the end, so the search decides
    rw [or_iff_right hhere]
    have hsearch (answer : Option Bool)
        (hnone : searchItems true (ending.map .literal) (byteCount name) name = none → answer = some false)
        (hsome : ∀ rest, searchItems true (ending.map .literal) (byteCount name) name = some rest →
          answer = some rest.isEmpty) :
        ∃ fitting, answer = some fitting ∧ (fitting = true ↔ EndsLater ending name) := by
      rcases hfound : searchItems true (ending.map .literal) (byteCount name) name with _ | rest
      · refine ⟨false, hnone hfound, iff_of_false (by simp) fun hlater => ?_⟩
        rw [(searchItems_literals (Nat.le_refl _)).mpr ⟨rfl, hlater⟩] at hfound
        cases hfound
      · obtain ⟨rfl, hlater⟩ := (searchItems_literals (Nat.le_refl _)).mp hfound
        exact ⟨true, hsome [] hfound, iff_of_true rfl hlater⟩
    rcases hmatch : matchItems (ending.map .literal) name with _ | rest
    · exact hsearch _ (fun h => by rw [h]) fun rest h => by rw [h]
    · cases rest with
      | nil => exact absurd ((matchItems_literals.mp hmatch).trans (List.append_nil _)) hhere
      | cons s rest =>
        refine hsearch _ (fun h => ?_) fun rest h => ?_
        · rw [h]
          rfl
        · rw [h]
          rfl

end Searching

section Expanding

variable {files : Files} {pattern : List Chunk} {names : List String} {dir name : String} {ending : List Char}

private theorem filterFitting_eq (h : ∀ name ∈ names, ∃ fitting, fits pattern name = some fitting) :
    filterFitting pattern names = some (names.filter (fits pattern · == some true)) := by
  induction names with
  | nil => rfl
  | cons first rest ih =>
    obtain ⟨⟨fitting, hfits⟩, hrest⟩ := List.forall_mem_cons.mp h
    cases fitting <;> simp [filterFitting, hfits, ih hrest]

private theorem dirPart_lead {dir file : List Char} (hdir : dir ≠ []) (hfile : '/' ∉ file) :
    dirPart (Path.lead dir ++ file) = dir := by
  have hkept : ((Path.lead dir ++ file).reverse.dropWhile (· != '/')).reverse = Path.lead dir := by
    rw [List.reverse_append, List.dropWhile_append_of_pos (Path.forall_ne_slash hfile)]
    rcases Path.lead_cases dir with hlead | hlead
    · simp [hlead]
    · obtain ⟨start, heq⟩ := List.getLast?_eq_some_iff.mp hlead
      simp [heq]
  rw [dirPart, hkept]
  by_cases hdot : dir = ['.']
  · simp [Path.lead, hdot]
  · by_cases hroot : dir = ['/']
    · simp [Path.lead, hroot]
    · obtain ⟨c, cs, rfl⟩ := List.exists_cons_of_ne_nil hdir
      rw [Path.lead, if_neg hdot, if_neg hroot]
      split
      next heq => simp at heq
      next heq => simp at heq
      next => exact List.dropLast_concat

private theorem filePart_lead (dir : List Char) {file : List Char} (hfile : '/' ∉ file) :
    filePart (Path.lead dir ++ file) = file := by
  rw [filePart, List.reverse_append, List.takeWhile_append_of_pos (Path.forall_ne_slash hfile)]
  rcases Path.lead_cases dir with hlead | hlead
  · simp [hlead]
  · obtain ⟨start, heq⟩ := List.getLast?_eq_some_iff.mp hlead
    simp [heq]

/-- A star before an ending, in a directory with a clean path, stands for entries of that directory. -/
theorem expand_star (files : Files) (hclean : Path.cleanChars dir.toList = dir.toList)
    (hplain : hasMeta dir.toList = false) (hending : hasMeta ending = false) (hslash : '/' ∉ ending) :
    expand files (Path.join dir (String.ofList ('*' :: ending))) =
      matchesIn files dir (String.ofList ('*' :: ending)) := by
  have hdir : dir.toList ≠ [] := hclean ▸ Path.cleanChars_ne_nil _
  have hstar : '/' ∉ '*' :: ending := by simpa using hslash
  have hname : Path.IsName ('*' :: ending) := ⟨List.cons_ne_nil _ _, by simp, by simp, hstar⟩
  have hlead : hasMeta (Path.lead dir.toList) = false := by
    unfold Path.lead
    split
    · rfl
    · split
      · rfl
      · rw [hasMeta_eq_false_iff] at hplain ⊢
        simpa [or_imp, forall_and] using hplain
  have hmeta : hasMeta (Path.lead dir.toList ++ '*' :: ending) = true := by simp [hasMeta]
  unfold expand
  rw [Path.toList_join_name hclean hname, expandChars, fits_read_star hlead hending, hmeta, dirPart_lead hdir hstar,
    filePart_lead dir.toList hstar]
  dsimp only
  rw [hplain, String.ofList_toList]
  rfl

/-- The entries of a directory that a star before an ending stands for, each once. -/
theorem matchesIn_star (files : Files) (dir : String) (hending : hasMeta ending = false) :
    ∃ found : List String, matchesIn files dir (String.ofList ('*' :: ending)) = some (found.map (Path.join dir)) ∧
      found.Nodup ∧ ∀ name, name ∈ found ↔ ∃ place before, files.find dir = .ok (place, .directory) ∧ '/' ∉ before ∧
        name = String.ofList (before ++ ending) ∧ name ∈ files.namesIn place := by
  have hnone : hasMeta [] = false := rfl
  have hread : read ('*' :: ending) = [⟨true, some (ending.map .literal)⟩] := read_star hnone hending
  unfold matchesIn
  rw [String.toList_ofList, hread]
  split
  next place hfind =>
    have hfitting := filterFitting_eq fun name (_ : name ∈ files.namesIn place) =>
      (fits_star ending name).imp fun _ => And.left
    have hnodup : (files.namesIn place).Nodup := (Text.pairwise_ascending _).imp String.ne_of_lt
    refine ⟨_, by rw [hfitting]; rfl, hnodup.filter _, fun name => ?_⟩
    obtain ⟨fitting, hfits, hiff⟩ := fits_star ending name
    rw [List.mem_filter, hfits, beq_iff_eq, Option.some.injEq, hiff]
    constructor
    · rintro ⟨hin, before, htext, hslash⟩
      refine ⟨place, before, hfind, hslash, ?_, hin⟩
      rw [← htext, String.ofList_toList]
    · rintro ⟨place', before, hfind', hslash, rfl, hin⟩
      cases hfind.symm.trans hfind'
      exact ⟨hin, before, String.toList_ofList, hslash⟩
  next hother =>
    refine ⟨[], rfl, List.nodup_nil, fun name => iff_of_false List.not_mem_nil ?_⟩
    rintro ⟨place, before, hfind, -⟩
    exact hother place hfind

end Expanding

end Glob

namespace Files

variable {files : Files} {place : Place} {name : String} {entry : Entry}

private theorem mem_namesIn_iff : name ∈ files.namesIn place ↔ ∃ entry, (place ++ [name], entry) ∈ files.entries := by
  rw [namesIn, Text.mem_ascending, List.mem_filterMap]
  constructor
  · rintro ⟨⟨p, entry⟩, hmem, hp⟩
    dsimp only at hp
    split at hp
    next hbelow =>
      obtain ⟨rest, rfl⟩ := List.isPrefixOf_iff_prefix.mp hbelow.2
      obtain ⟨last, rfl⟩ : ∃ last, rest = [last] := by
        refine List.length_eq_one_iff.mp ?_
        have hlength := hbelow.1
        rw [List.length_append] at hlength
        omega
      obtain rfl : last = name := by simpa using hp
      exact ⟨entry, hmem⟩
    · cases hp
  · rintro ⟨entry, hmem⟩
    exact ⟨_, hmem, by simp⟩

theorem mem_namesIn (hanchor : isAnchor (place ++ [name]) = false) :
    name ∈ files.namesIn place ↔ files.at? (place ++ [name]) ≠ none := by
  have hlookup : files.at? (place ++ [name]) = files.entries.lookup (place ++ [name]) := by
    rw [at?, hanchor]
    rfl
  rw [hlookup, mem_namesIn_iff, Ne, List.lookup_eq_none_iff]
  constructor
  · rintro ⟨entry, hmem⟩ hnone
    simpa using hnone _ hmem
  · intro hfound
    push Not at hfound
    obtain ⟨⟨p, entry⟩, hmem, hp⟩ := hfound
    obtain rfl : place ++ [name] = p := by simpa using hp
    exact ⟨entry, hmem⟩

def Named (files : Files) : Prop :=
  ∀ place name entry, (place ++ [name], entry) ∈ files.entries → Path.IsName name.toList

private theorem named_empty : empty.Named := fun _ _ _ hmem => absurd hmem List.not_mem_nil

theorem Named.put (h : files.Named) (hname : Path.IsName name.toList) (place : Place) (entry : Entry) :
    (files.put (place ++ [name]) entry).Named := by
  intro place' name' entry' hmem
  rcases List.mem_cons.mp hmem with heq | hmem
  · obtain ⟨-, rfl⟩ := List.append_singleton_inj.mp (Prod.mk.inj heq).1
    exact hname
  · exact h place' name' entry' (List.mem_filter.mp hmem).1

end Files

private theorem Text.pairwise_sort {xs : List String} (h : xs.Nodup) : (sort xs).Pairwise (· < ·) := by
  have hle : (sort xs).Pairwise fun a b => decide (a ≤ b) := by
    apply List.pairwise_mergeSort
    · intro a b c hab hbc
      simp only [decide_eq_true_eq] at hab hbc ⊢
      exact String.le_trans hab hbc
    · intro a b
      simpa using String.le_total a b
  have hne : (sort xs).Nodup := (List.mergeSort_perm xs _).nodup_iff.mpr h
  exact (hle.and hne).imp fun h => Std.lt_of_le_of_ne (of_decide_eq_true h.1) h.2

namespace Progress

variable {dir ending : String}

private theorem package_of_path (hclean : Path.cleanChars dir.toList = dir.toList) {before : List Char}
    (hname : Path.IsName (before ++ ending.toList)) :
    Text.dropEnding ending.toList
      (Path.baseChars (Path.join dir (String.ofList (before ++ ending.toList))).toList) = before := by
  rw [Path.toList_join_name hclean hname, Path.baseChars_name (Path.lead_cases _) hname.1 hname.2.2.2,
    Text.dropEnding_append]

theorem mem_completed (files : Files) (hclean : Path.cleanChars dir.toList = dir.toList)
    (hplain : Glob.hasMeta dir.toList = false) (hending : Glob.hasMeta ending.toList = false)
    (hslash : '/' ∉ ending.toList)
    (hnames : ∀ place before, files.find dir = .ok (place, .directory) → '/' ∉ before →
      String.ofList (before ++ ending.toList) ∈ files.namesIn place → Path.IsName (before ++ ending.toList)) :
    ∃ done, completed files dir ending = .ok done ∧ done.Pairwise (· < ·) ∧ ∀ q, q ∈ done ↔
      (q ≠ "" ∧ '/' ∉ q.toList) ∧
        ∃ place, files.find dir = .ok (place, .directory) ∧ q ++ ending ∈ files.namesIn place := by
  have hpattern : "*" ++ ending = String.ofList ('*' :: ending.toList) := by
    rw [← String.toList_inj]
    simp
  obtain ⟨found, hfound, hnodup, hmem⟩ := Glob.matchesIn_star files dir hending
  let package (name : String) : String :=
    String.ofList (Text.dropEnding ending.toList (Path.baseChars (Path.join dir name).toList))
  -- what is found is the package with the ending
  have hpackage : ∀ name ∈ found, '/' ∉ (package name).toList ∧ name = package name ++ ending := by
    intro name hname
    obtain ⟨place, before, hfind, hbefore, rfl, hin⟩ := (hmem name).mp hname
    have hbase : package (String.ofList (before ++ ending.toList)) = String.ofList before :=
      congrArg String.ofList (package_of_path hclean (hnames place before hfind hbefore hin))
    rw [hbase, String.toList_ofList, String.ofList_append, String.ofList_toList]
    exact ⟨hbefore, rfl⟩
  have hpackages : (found.map package).Nodup := by
    refine hnodup.map_on fun name hname name' hname' heq => ?_
    rw [(hpackage name hname).2, heq, ← (hpackage name' hname').2]
  have hcompleted : completed files dir ending = .ok (Text.sort ((found.map package).filter (· != ""))) := by
    unfold completed
    rw [hpattern, Glob.expand_star files hclean hplain hending hslash, hfound]
    simp only [List.map_map]
    rfl
  refine ⟨_, hcompleted, Text.pairwise_sort (hpackages.filter _), fun q => ?_⟩
  rw [Text.sort, List.mem_mergeSort, List.mem_filter, List.mem_map]
  constructor
  · rintro ⟨⟨name, hname, rfl⟩, hempty⟩
    obtain ⟨hbefore, heq⟩ := hpackage name hname
    obtain ⟨place, -, hfind, -, -, hin⟩ := (hmem name).mp hname
    exact ⟨⟨by simpa using hempty, hbefore⟩, place, hfind, heq ▸ hin⟩
  · rintro ⟨⟨hempty, hbefore⟩, place, hfind, hin⟩
    have hname : q ++ ending ∈ found := (hmem _).mpr ⟨place, q.toList, hfind, hbefore, by simp, hin⟩
    have heq : q = package (q ++ ending) := by
      have hchars := congrArg String.toList (hpackage _ hname).2
      exact String.toList_inj.mp (by simpa using hchars)
    exact ⟨⟨_, hname, heq.symm⟩, by simpa using hempty⟩

private theorem completed_of_clean {files : Files} {done : List String} (hdir : dir ≠ "")
    (h : completed files (Path.clean dir) ending = .ok done) : completed files dir ending = .ok done := by
  unfold completed at h ⊢
  rw [Path.join_clean hdir] at h
  cases hfound : Glob.expand files (Path.join dir ("*" ++ ending)) with
  | none =>
    rw [hfound] at h
    cases h
  | some found => rwa [hfound] at h

/-- In a directory that exists, however its path is written, the completed packages are just the names whose name with
the ending is taken there. The directory, when its path is cleaned, and the ending may not have a character with a
meaning in patterns: they become a part of the pattern as they are. -/
theorem completed_exactly (files : Files) (hsound : files.Sound) (hnamed : files.Named) (dir ending : String)
    (place : Place) (hdir : files.find dir = .ok (place, .directory))
    (hplain : Glob.hasMeta (Path.clean dir).toList = false) (hending : Glob.hasMeta ending.toList = false)
    (hslash : '/' ∉ ending.toList) :
    ∃ done, completed files dir ending = .ok done ∧ done.Pairwise (· < ·) ∧
      ∀ pkg, pkg ∈ done ↔ pkg ≠ "" ∧ ∃ entry, (place ++ [pkg ++ ending], entry) ∈ files.entries := by
  have hclean : Path.cleanChars (Path.clean dir).toList = (Path.clean dir).toList := by
    rw [Path.clean, String.toList_ofList, Path.cleanChars_cleanChars]
  have hfind := Files.find_clean hsound hdir
  have hne : dir ≠ "" := (Files.resolve_ok_iff.mp (Files.find_ok_iff.mp hdir).1).1.2.1
  have hnames : ∀ place before, files.find (Path.clean dir) = .ok (place, .directory) → '/' ∉ before →
      String.ofList (before ++ ending.toList) ∈ files.namesIn place → Path.IsName (before ++ ending.toList) := by
    intro place before _ _ hin
    obtain ⟨entry, hentry⟩ := Files.mem_namesIn_iff.mp hin
    simpa using hnamed place _ entry hentry
  obtain ⟨done, hdone, hsorted, hmem⟩ := mem_completed files hclean hplain hending hslash hnames
  refine ⟨done, completed_of_clean hne hdone, hsorted, fun pkg => ?_⟩
  rw [hmem, and_assoc]
  refine and_congr_right fun _ => ⟨?_, ?_⟩
  · rintro ⟨-, place', hfind', hin⟩
    cases hfind.symm.trans hfind'
    exact Files.mem_namesIn_iff.mp hin
  · rintro ⟨entry, hentry⟩
    have hname := hnamed place _ entry hentry
    rw [String.toList_append] at hname
    have hin := Files.mem_namesIn_iff.mpr ⟨entry, hentry⟩
    exact ⟨fun hmem => hname.2.2.2 (List.mem_append_left _ hmem), place, hfind, hin⟩

/-- Two files and a directory with the same ending, one of them with nothing before it. -/
def pictures : Files :=
  (((Files.empty.put ["shots"] .directory).put ["shots", "p.png"] (.file .empty)).put
    ["shots", ".png"] (.file .empty)).put ["shots", "b.png"] .directory

theorem completed_exactly_pictures : ∃ done, completed pictures "./shots//" ".png" = .ok done ∧
    done.Pairwise (· < ·) ∧ "b" ∈ done ∧ "p" ∈ done ∧ "" ∉ done := by
  have hsound : pictures.Sound :=
    (((Files.sound_empty.put rfl rfl fun _ => rfl).put rfl rfl (by intro h; cases h)).put rfl rfl
      (by intro h; cases h)).put rfl rfl fun _ => rfl
  have hnamed : pictures.Named :=
    (((Files.named_empty.put (by decide) [] _).put (by decide) ["shots"] _).put (by decide) ["shots"] _).put
      (by decide) ["shots"] _
  obtain ⟨done, hdone, hsorted, hmem⟩ :=
    completed_exactly pictures hsound hnamed "./shots//" ".png" ["shots"] rfl rfl rfl (by decide)
  refine ⟨done, hdone, hsorted, (hmem "b").mpr ⟨by decide, .directory, ?_⟩,
    (hmem "p").mpr ⟨by decide, .file .empty, ?_⟩, fun hempty => ((hmem "").mp hempty).1 rfl⟩
  · exact List.mem_cons_self
  · exact List.mem_cons_of_mem _ (List.mem_cons_of_mem _ List.mem_cons_self)

def patterns : Files :=
  ⟨[(["we[i]rd"], .directory), (["we[i]rd", "a.png"], .file .empty), (["weird"], .directory),
    (["weird", "b.png"], .file .empty), (["we[ird"], .directory), (["we[ird", "c.png"], .file .empty)]⟩

/-- The one is passed over for another, and the other is no pattern at all. -/
theorem completed_elsewhere :
    patterns.find "we[i]rd" = .ok (["we[i]rd"], .directory) ∧ patterns.namesIn ["we[i]rd"] = ["a.png"] ∧
    (completed patterns "we[i]rd" ".png").toOption = some ["b"] ∧
    patterns.find "we[ird" = .ok (["we[ird"], .directory) ∧ patterns.namesIn ["we[ird"] = ["c.png"] ∧
    completed patterns "we[ird" ".png" = .error (.context "scan we[ird" (.plain "syntax error in pattern")) :=
  ⟨rfl, rfl, by decide +kernel, rfl, rfl, rfl⟩

end Progress

end WatchTrial
