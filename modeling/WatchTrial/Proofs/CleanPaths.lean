import Mathlib.Data.List.Basic
import WatchTrial.Proofs.Frame.Files
/-!
# Clean paths

A clean path goes up from the working directory, or not at all, before it goes down. So a file in a directory
with a clean path lies just below the place of that directory, all places on the way are directories, and no
directory that is made on the way is a file of the last one.
-/
namespace WatchTrial

namespace Path

def IsName (c : List Char) : Prop := c ≠ [] ∧ c ≠ ['.'] ∧ c ≠ ['.', '.'] ∧ '/' ∉ c

instance : DecidablePred IsName := fun c =>
  inferInstanceAs (Decidable (c ≠ [] ∧ c ≠ ['.'] ∧ c ≠ ['.', '.'] ∧ '/' ∉ c))

theorem isName_of_length {c : List Char} (hlong : 2 < c.length) (hslash : '/' ∉ c) : IsName c := by
  refine ⟨?_, ?_, ?_, hslash⟩ <;> rintro rfl <;> simp at hlong

section Components

variable {a b c path : List Char} {cs : List (List Char)}

theorem components_append (a b : List Char) : components (a ++ '/' :: b) = components a ++ components b :=
  List.splitOn_append_cons_self a b

theorem components_of_not_mem (h : '/' ∉ c) : components c = [c] := List.splitOn_eq_singleton h

private theorem components_join (h : ∀ c ∈ cs, '/' ∉ c) (hne : cs ≠ []) : components (joinComponents cs) = cs :=
  List.splitOn_intercalate '/' h hne

theorem slash_not_mem (h : c ∈ components path) : '/' ∉ c := by
  induction hlength : path.length using Nat.strongRecOn generalizing path with
  | ind n ih =>
    by_cases hpath : '/' ∈ path
    · obtain ⟨a, b, rfl, ha⟩ := List.eq_append_cons_of_mem hpath
      rw [components_append, components_of_not_mem ha] at h
      rcases List.mem_cons.mp h with rfl | h
      · exact ha
      · have hshorter : b.length < n := by
          simp only [List.length_append, List.length_cons] at hlength
          omega
        exact ih b.length hshorter h rfl
    · rw [components_of_not_mem hpath] at h
      obtain rfl := List.mem_singleton.mp h
      exact hpath

theorem forall_ne_slash (h : '/' ∉ c) : ∀ x ∈ c.reverse, (x != '/') = true :=
  fun _ hx => bne_iff_ne.mpr (ne_of_mem_of_not_mem (List.mem_reverse.mp hx) h)

private theorem joinComponents_concat (hne : cs ≠ []) (c : List Char) :
    joinComponents (cs ++ [c]) = joinComponents cs ++ '/' :: c := by
  induction cs with
  | nil => exact absurd rfl hne
  | cons first rest ih =>
    cases rest with
    | nil => simp [joinComponents, List.intercalate_cons_cons]
    | cons second rest =>
      have hrest := ih (List.cons_ne_nil _ _)
      simp only [joinComponents, List.cons_append, List.intercalate_cons_cons] at hrest ⊢
      rw [hrest]
      simp

end Components

section Clean

variable {rooted : Bool} {done : List (List Char)} {c name dir path : List Char}

/-- Cleaned components, the last one first. Steps up come before all names, and not at all from the root. -/
def Settled (rooted : Bool) : List (List Char) → Prop
  | [] => True
  | c :: rest =>
    c ≠ [] ∧ c ≠ ['.'] ∧ '/' ∉ c ∧ (c = ['.', '.'] → rooted = false ∧ ∀ c' ∈ rest, c' = ['.', '.']) ∧
      Settled rooted rest

theorem Settled.push (h : Settled rooted done) (hc : '/' ∉ c) : Settled rooted (push rooted done c) := by
  unfold Path.push
  split
  · exact h
  next hkept =>
    obtain ⟨hempty, hdot⟩ := not_or.mp hkept
    split
    next hup =>
      subst hup
      cases done with
      | nil =>
        cases rooted with
        | true => trivial
        | false => exact ⟨hempty, hdot, hc, fun _ => ⟨rfl, by simp⟩, trivial⟩
      | cons last rest =>
        -- a step up takes back the name before it, but is added to a step up
        by_cases hlast : last = ['.', '.']
        · obtain ⟨hrooted, hrest⟩ := h.2.2.2.1 hlast
          simp only [hlast, if_true]
          refine ⟨hempty, hdot, hc, fun _ => ⟨hrooted, List.forall_mem_cons.mpr ⟨rfl, hrest⟩⟩, hlast ▸ h⟩
        · simp only [hlast, if_false]
          exact h.2.2.2.2
    next hup => exact ⟨hempty, hdot, hc, fun h => absurd h hup, h⟩

theorem Settled.foldl {cs : List (List Char)} (h : Settled rooted done) (hcs : ∀ c ∈ cs, '/' ∉ c) :
    Settled rooted (cs.foldl (Path.push rooted) done) := by
  induction cs generalizing done with
  | nil => exact h
  | cons c rest ih =>
    obtain ⟨hc, hrest⟩ := List.forall_mem_cons.mp hcs
    exact ih (h.push hc) hrest

theorem Settled.of_mem (h : Settled rooted done) : ∀ c ∈ done, c ≠ [] ∧ '/' ∉ c := by
  induction done with
  | nil => simp
  | cons first rest ih => exact List.forall_mem_cons.mpr ⟨⟨h.1, h.2.2.1⟩, ih h.2.2.2.2⟩

def isRooted (path : List Char) : Bool := path.head? == some '/'

/-- The components of a path that cleaning leaves, the last one first. -/
def settle (path : List Char) : List (List Char) := (components path).foldl (push (isRooted path)) []

theorem settled_settle (path : List Char) : Settled (isRooted path) (settle path) :=
  have hnone : Settled (isRooted path) [] := trivial
  hnone.foldl fun _ => slash_not_mem

def render : (rooted : Bool) → List (List Char) → List Char
  | true, cs => '/' :: joinComponents cs
  | false, [] => ['.']
  | false, cs => joinComponents cs

/-- The components of the text of cleaned components are these, after an empty one for the root. -/
theorem components_render {cs : List (List Char)} (hslash : ∀ c ∈ cs, '/' ∉ c) (hne : cs ≠ []) :
    components (render rooted cs) = if rooted then [] :: cs else cs := by
  cases rooted with
  | true =>
    change components ([] ++ '/' :: joinComponents cs) = _
    rw [components_append, components_join hslash hne]
    rfl
  | false =>
    have hrender : render false cs = joinComponents cs := by
      cases cs with
      | nil => exact absurd rfl hne
      | cons c rest => rfl
    rw [hrender, components_join hslash hne]
    rfl

theorem cleanChars_eq (path : List Char) : cleanChars path = render (isRooted path) (settle path).reverse := by
  unfold cleanChars settle isRooted
  generalize (path.head? == some '/') = rooted
  dsimp only
  generalize ((components path).foldl (push rooted) []).reverse = cs
  cases rooted with
  | true => rfl
  | false => cases cs <;> rfl

theorem cleanChars_ne_nil (path : List Char) : cleanChars path ≠ [] := by
  rw [cleanChars_eq]
  have hparts := (settled_settle path).of_mem
  generalize settle path = done at hparts
  cases isRooted path with
  | true => exact List.cons_ne_nil _ _
  | false =>
    cases hcs : done.reverse with
    | nil => exact List.cons_ne_nil _ _
    | cons first rest =>
      have hfirst : first ≠ [] := (hparts first (List.mem_reverse.mp (hcs ▸ List.mem_cons_self))).1
      cases rest <;> simp [render, joinComponents, List.intercalate_cons_cons, hfirst]

/-- Components are added to a path one after the other. -/
theorem cleanChars_append (hpath : path ≠ []) (rest : List Char) :
    cleanChars (path ++ '/' :: rest) =
      render (isRooted path) ((components rest).foldl (push (isRooted path)) (settle path)).reverse := by
  have hrooted : isRooted (path ++ '/' :: rest) = isRooted path := by
    cases path with
    | nil => exact absurd rfl hpath
    | cons c cs => rfl
  rw [cleanChars_eq, settle, hrooted, components_append, List.foldl_append]
  rfl

theorem push_name (hname : IsName name) : push rooted done name = name :: done := by
  obtain ⟨hempty, hdot, hup, -⟩ := hname
  simp [push, hempty, hdot, hup]

/-- What stands before the names of files in the directory with a clean path. -/
def lead (dir : List Char) : List Char :=
  if dir = ['.'] then [] else if dir = ['/'] then ['/'] else dir ++ ['/']

theorem joinChars_name (hclean : cleanChars dir = dir) (hname : IsName name) :
    joinChars dir name = lead dir ++ name := by
  have hne : dir ≠ [] := hclean ▸ cleanChars_ne_nil dir
  have hjoin : joinChars dir name = cleanChars (dir ++ '/' :: name) := by
    cases dir with
    | nil => exact absurd rfl hne
    | cons c cs => rfl
  rw [hjoin, cleanChars_append hne, components_of_not_mem hname.2.2.2, List.foldl_cons, List.foldl_nil,
    push_name hname, List.reverse_cons]
  rw [cleanChars_eq] at hclean
  -- the working directory does not stand before the names in it, and the root ends with its slash
  by_cases hdot : dir = ['.']
  · subst hdot
    simp [lead, render, joinComponents, isRooted, settle, components_of_not_mem, push]
  · by_cases hroot : dir = ['/']
    · subst hroot
      have hsettle : settle ['/'] = [] := by decide
      simp [lead, render, joinComponents, isRooted, hsettle]
    · rw [lead, if_neg hdot, if_neg hroot]
      generalize (settle dir).reverse = cs at hclean
      cases hcase : isRooted dir with
      | true =>
        rw [hcase] at hclean
        cases cs with
        | nil => exact absurd hclean.symm hroot
        | cons first rest =>
          simp only [render] at hclean ⊢
          rw [joinComponents_concat (List.cons_ne_nil _ _), ← List.cons_append, hclean]
          simp
      | false =>
        rw [hcase] at hclean
        cases cs with
        | nil => exact absurd hclean.symm hdot
        | cons first rest =>
          simp only [render, List.cons_append] at hclean ⊢
          rw [← List.cons_append, joinComponents_concat (List.cons_ne_nil _ _), hclean]
          simp

theorem toList_join_name {dir : String} (hclean : cleanChars dir.toList = dir.toList) (hname : IsName name) :
    (join dir (String.ofList name)).toList = lead dir.toList ++ name := by
  rw [join, String.toList_ofList, String.toList_ofList, joinChars_name hclean hname]

theorem dirChars_name (hclean : cleanChars dir = dir) (hname : '/' ∉ name) :
    dirChars (dir ++ '/' :: name) = dir := by
  have hne : dir ≠ [] := hclean ▸ cleanChars_ne_nil dir
  have hkept : ((dir ++ '/' :: name).reverse.dropWhile (· != '/')).reverse = dir ++ ['/'] := by
    rw [List.reverse_append, List.reverse_cons, List.append_assoc,
      List.dropWhile_append_of_pos (forall_ne_slash hname)]
    simp
  rw [dirChars, hkept, cleanChars_append hne, components_of_not_mem List.not_mem_nil]
  change render (isRooted dir) (settle dir).reverse = dir
  rw [← cleanChars_eq, hclean]

theorem baseChars_name {before : List Char} (hbefore : before = [] ∨ before.getLast? = some '/')
    (hempty : name ≠ []) (hslash : '/' ∉ name) : baseChars (before ++ name) = name := by
  have hnames := forall_ne_slash hslash
  have hfound : ((before ++ name).reverse.dropWhile (· == '/')).takeWhile (· != '/') = name.reverse := by
    have hstop : (name.reverse ++ before.reverse).dropWhile (· == '/') = name.reverse ++ before.reverse := by
      cases hcs : name.reverse with
      | nil => exact absurd (List.reverse_eq_nil_iff.mp hcs) hempty
      | cons c cs =>
        have hc : (c != '/') = true := hnames c (hcs ▸ List.mem_cons_self)
        rw [List.cons_append, List.dropWhile_cons_of_neg (by simpa using hc)]
    have hrest : before.reverse.takeWhile (· != '/') = [] := by
      rcases hbefore with rfl | hbefore
      · rfl
      · obtain ⟨start, rfl⟩ := List.getLast?_eq_some_iff.mp hbefore
        simp
    rw [List.reverse_append, hstop, List.takeWhile_append_of_pos hnames, hrest, List.append_nil]
  have hpath : (before ++ name).isEmpty = false := by simp [hempty]
  rw [baseChars, hpath, hfound]
  cases hcs : name.reverse with
  | nil => exact absurd (List.reverse_eq_nil_iff.mp hcs) hempty
  | cons c cs => simp [← hcs]

theorem lead_cases (dir : List Char) : lead dir = [] ∨ (lead dir).getLast? = some '/' := by
  unfold lead
  split
  · exact .inl rfl
  · split
    · exact .inr rfl
    · exact .inr (by simp)

end Clean

end Path

namespace Files

open WatchTrial.Path

section Steady

variable {files : Files} {start : Place} {names names' : List String}

/-- Names that never lead back: steps up are made above all names, and not from the root. -/
def Steady : Place → List String → Prop
  | _, [] => True
  | start, name :: rest =>
    (name ≠ "/" ∧ (name = ".." → isAnchor start = true ∧ start ≠ ["/"])) ∧ Steady (placeFrom start [name]) rest

private theorem steady_append : Steady start (names ++ names') ↔
    Steady start names ∧ Steady (placeFrom start names) names' := by
  induction names generalizing start with
  | nil => simp [Steady, placeFrom]
  | cons name rest ih =>
    rw [List.cons_append, Steady, Steady, ih, placeFrom_cons start name rest]
    exact and_assoc.symm

theorem Steady.length_le (h : Steady start names) : start.length ≤ (placeFrom start names).length := by
  induction names generalizing start with
  | nil => exact Nat.le_refl _
  | cons name rest ih =>
    obtain ⟨⟨-, hup⟩, hrest⟩ := h
    rw [placeFrom_cons]
    refine Nat.le_trans ?_ (ih hrest)
    by_cases hskip : name = "" ∨ name = "."
    · simp [placeFrom, hskip]
    · by_cases hname : name = ".."
      · obtain ⟨hanchor, hroot⟩ := hup hname
        simp [placeFrom, hname, parent, hroot, hanchor]
      · simp [placeFrom, hskip, hname]

theorem isAnchor_concat {name : String} (hup : name ≠ "..") (hroot : name ≠ "/") :
    isAnchor (start ++ [name]) = false := by
  have hlast : start ++ [name] ≠ ["/"] := by
    intro heq
    have hname := congrArg List.getLast? heq
    simp [hroot] at hname
  simp [isAnchor, hup, hlast]

theorem Steady.directory (h : Steady start names) (hsound : files.Sound)
    (hplace : files.at? (placeFrom start names) = some .directory) : files.at? start = some .directory := by
  induction names generalizing start with
  | nil => exact hplace
  | cons name rest ih =>
    obtain ⟨⟨hroot, hup⟩, hrest⟩ := h
    rw [placeFrom_cons] at hplace
    have hnext := ih hrest hplace
    by_cases hskip : name = "" ∨ name = "."
    · simpa [placeFrom, hskip] using hnext
    · by_cases hname : name = ".."
      · exact at?_of_isAnchor (hup hname).1
      · have hstep : placeFrom start [name] = start ++ [name] := by simp [placeFrom, hskip, hname]
        rw [hstep] at hnext
        have hparent := hsound (start ++ [name]) (by simp [hnext])
        rwa [parent_concat (isAnchor_concat hname hroot)] at hparent

private theorem Steady.take_length_le (h : Steady start names) (k : Nat) :
    (placeFrom start (names.take k)).length ≤ (placeFrom start names).length := by
  have hsplit := List.take_append_drop k names
  rw [← hsplit, steady_append] at h
  have hle := h.2.length_le
  rwa [← placeFrom_append, hsplit] at hle

private theorem Steady.take_directory (h : Steady start names) (hsound : files.Sound)
    (hplace : files.at? (placeFrom start names) = some .directory) (k : Nat) :
    files.at? (placeFrom start (names.take k)) = some .directory := by
  have hsplit := List.take_append_drop k names
  rw [← hsplit, steady_append] at h
  rw [← hsplit, placeFrom_append] at hplace
  exact h.2.directory hsound hplace

private theorem placeFrom_filter (start : Place) (names : List String) :
    placeFrom start (names.filter (· != "")) = placeFrom start names := by
  induction names generalizing start with
  | nil => rfl
  | cons name rest ih =>
    by_cases hname : name = ""
    · subst hname
      rw [List.filter_cons_of_neg (by simp), ih]
      simp [placeFrom]
    · rw [List.filter_cons_of_pos (by simpa using hname), placeFrom_cons, placeFrom_cons start name rest, ih]

theorem Steady.filter (h : Steady start names) : Steady start (names.filter (· != "")) := by
  induction names generalizing start with
  | nil => trivial
  | cons name rest ih =>
    by_cases hname : name = ""
    · subst hname
      rw [List.filter_cons_of_neg (by simp)]
      exact ih h.2
    · rw [List.filter_cons_of_pos (by simpa using hname)]
      exact ⟨h.1, ih h.2⟩

private theorem isAnchor_of_ups (h : ∀ n ∈ start, n = "..") : isAnchor start = true := by
  simp only [isAnchor, Bool.or_eq_true, List.all_eq_true, beq_iff_eq]
  exact .inl h

private theorem mem_placeFrom_ups {name : String} (hstart : ∀ n ∈ start, n = "..") (hnames : ∀ n ∈ names, n = "..")
    (h : name ∈ placeFrom start names) : name = ".." := by
  induction names generalizing start with
  | nil => exact hstart name h
  | cons first rest ih =>
    obtain ⟨rfl, hrest⟩ := List.forall_mem_cons.mp hnames
    have hroot : start ≠ ["/"] := by
      rintro rfl
      simp at hstart
    have hparent : parent start = ".." :: start := by simp [parent, hroot, isAnchor_of_ups hstart]
    rw [placeFrom, if_neg (by decide), if_pos rfl, hparent] at h
    exact ih (List.forall_mem_cons.mpr ⟨rfl, hstart⟩) hrest h

end Steady

section Clean

variable {files : Files} {dir name path : String} {place : Place}

private theorem steady_of_settled {rooted : Bool} {done : List (List Char)} (h : Settled rooted done) :
    Steady (if rooted then ["/"] else []) (done.reverse.map String.ofList) := by
  -- the last component comes first, so the induction adds a step at the end of the way
  induction done with
  | nil => trivial
  | cons c rest ih =>
    obtain ⟨-, -, hslash, hup, hrest⟩ := h
    rw [List.reverse_cons, List.map_append, steady_append]
    refine ⟨ih hrest, ⟨fun hroot => ?_, fun heq => ?_⟩, trivial⟩
    · have hc : c = ['/'] := String.ofList_inj.mp hroot
      simp [hc] at hslash
    · obtain ⟨rfl, hups⟩ := hup (String.ofList_inj.mp heq)
      have hnames : ∀ n ∈ rest.reverse.map String.ofList, n = ".." := by
        simp only [List.mem_map, List.mem_reverse]
        rintro n ⟨c', hmem, rfl⟩
        rw [hups c' hmem]
      have hplace : ∀ n ∈ placeFrom [] (rest.reverse.map String.ofList), n = ".." :=
        fun n => mem_placeFrom_ups (by simp) hnames
      refine ⟨isAnchor_of_ups hplace, fun hroot => ?_⟩
      have hslashUp := hplace "/" (hroot ▸ List.mem_singleton_self _)
      exact absurd hslashUp (by decide)

private theorem steady_of_clean (h : cleanChars dir.toList = dir.toList) : Steady (startOf dir) (namesOf dir) := by
  have hsettled := settled_settle dir.toList
  have hslash : ∀ c ∈ (settle dir.toList).reverse, '/' ∉ c :=
    fun c hc => (hsettled.of_mem c (List.mem_reverse.mp hc)).2
  have hsteady := steady_of_settled hsettled
  rw [cleanChars_eq] at h
  change Steady (if isRooted dir.toList then ["/"] else []) ((components dir.toList).map String.ofList)
  generalize isRooted dir.toList = rooted at h hsteady
  rw [← h]
  generalize (settle dir.toList).reverse = cs at hslash hsteady
  -- a path without components has a text of its own, which is not made of them
  by_cases hcs : cs = []
  · subst hcs
    cases rooted with
    | true =>
      change Steady ["/"] ["", ""]
      simp [Steady]
    | false =>
      change Steady [] ["."]
      simp [Steady]
  · rw [components_render hslash hcs]
    cases rooted with
    | true => exact ⟨⟨by decide, by decide⟩, hsteady⟩
    | false => exact hsteady

private theorem startOf_append (hdir : dir ≠ "") (rest : String) : startOf (dir ++ rest) = startOf dir := by
  have hchars : dir.toList ≠ [] := by simpa using hdir
  rw [startOf, startOf, String.toList_append, List.head?_append_of_ne_nil _ hchars]

theorem namesOf_name (dir : String) (hname : '/' ∉ name.toList) :
    namesOf (dir ++ "/" ++ name) = namesOf dir ++ [name] := by
  have hchars : (dir ++ "/" ++ name).toList = dir.toList ++ '/' :: name.toList := by simp
  rw [namesOf, hchars, components_append, components_of_not_mem hname, List.map_append]
  simp [namesOf]

theorem placeOf_name (hdir : dir ≠ "") (hname : IsName name.toList) :
    placeOf (dir ++ "/" ++ name) = placeOf dir ++ [name] := by
  obtain ⟨hempty, hdot, hup, hslash⟩ := hname
  have hproper : name ∉ ["", ".", ".."] := by
    simp only [List.mem_cons, List.not_mem_nil, or_false, not_or]
    refine ⟨?_, ?_, ?_⟩ <;> rintro rfl
    · exact hempty rfl
    · exact hdot rfl
    · exact hup rfl
  rw [placeOf, String.append_assoc, startOf_append hdir, ← String.append_assoc, namesOf_name dir hslash,
    placeFrom_append, placeFrom_name hproper]
  rfl

/-- A directory can be found by a clean path if it is one and its names are not too long. -/
theorem find_directory_iff (h : cleanChars dir.toList = dir.toList) (hsound : files.Sound) :
    files.find dir = .ok (place, .directory) ↔ (Acceptable dir ∧ ∀ n ∈ namesOf dir, n.utf8ByteSize ≤ nameLimit) ∧
      place = placeOf dir ∧ files.at? (placeOf dir) = some .directory := by
  rw [find_ok_iff, resolve_ok_iff, walk_ok_iff]
  constructor
  · rintro ⟨⟨hacceptable, rfl, hshort, -⟩, hplace⟩
    exact ⟨⟨hacceptable, hshort⟩, rfl, hplace⟩
  · rintro ⟨⟨hacceptable, hshort⟩, rfl, hplace⟩
    refine ⟨⟨hacceptable, rfl, hshort, fun k _ => ?_⟩, hplace⟩
    exact (steady_of_clean h).take_directory hsound hplace k

private theorem placeOf_intercalate {rooted : Bool} {names : List String} (hne : names ≠ [])
    (hnames : ∀ n ∈ names, n ≠ "" ∧ '/' ∉ n.toList) :
    placeOf ((if rooted then "/" else "") ++ "/".intercalate names) =
      placeFrom (if rooted then ["/"] else []) names := by
  have hslash : ∀ c ∈ names.map String.toList, '/' ∉ c := by
    simpa using fun n hn => (hnames n hn).2
  have hjoined : ("/".intercalate names).toList = joinComponents (names.map String.toList) :=
    String.toList_intercalate
  have hcomponents : components ("/".intercalate names).toList = names.map String.toList := by
    rw [hjoined, components_join hslash (by simpa using hne)]
  have hback : (names.map String.toList).map String.ofList = names := by simp
  cases rooted with
  | true =>
    have hchars : ("/" ++ "/".intercalate names).toList = [] ++ '/' :: ("/".intercalate names).toList := by simp
    simp only [if_true, placeOf, startOf, namesOf, hchars, components_append, hcomponents, List.map_append, hback]
    simp [components, placeFrom]
  | false =>
    have hhead : ("/".intercalate names).toList.head? ≠ some '/' := by
      cases names with
      | nil => exact absurd rfl hne
      | cons first rest =>
        obtain ⟨hempty, hfirst⟩ := hnames first List.mem_cons_self
        cases hchars : first.toList with
        | nil => exact absurd (by simpa using hchars) hempty
        | cons c cs =>
          rw [hjoined]
          have hc : c ≠ '/' := by
            rintro rfl
            exact hfirst (hchars ▸ List.mem_cons_self)
          cases rest <;> simp [joinComponents, hchars, hc, List.intercalate_cons_cons]
    have htext : (if false = true then "/" else "") ++ "/".intercalate names = "/".intercalate names :=
      String.empty_append
    rw [htext, placeOf, startOf, namesOf, hcomponents, hback, if_neg (by simpa using hhead)]
    rfl

/-- The directories on the way to a directory with a clean path lie at most as deep as it does. -/
theorem length_le_of_directoriesTo (h : cleanChars dir.toList = dir.toList) {directory : String}
    (hmem : directory ∈ directoriesTo dir) : (placeOf directory).length ≤ (placeOf dir).length := by
  obtain ⟨n, hn, rfl⟩ := List.mem_map.mp hmem
  have hsteady := (steady_of_clean h).filter
  let names := (namesOf dir).filter (· != "")
  have hnames : ∀ name ∈ names.take (n + 1), name ≠ "" ∧ '/' ∉ name.toList := by
    intro name hname
    obtain ⟨hmem, hempty⟩ := List.mem_filter.mp (List.mem_of_mem_take hname)
    obtain ⟨c, hc, rfl⟩ := List.mem_map.mp hmem
    exact ⟨by simpa using hempty, by simpa using slash_not_mem hc⟩
  have hne : names.take (n + 1) ≠ [] := by
    have hpos : n < names.length := List.mem_range.mp hn
    rw [Ne, ← List.length_eq_zero_iff, List.length_take]
    omega
  change (placeOf ((if isRooted dir.toList then "/" else "") ++ "/".intercalate (names.take (n + 1)))).length ≤ _
  rw [placeOf_intercalate hne hnames]
  have hle := hsteady.take_length_le (n + 1)
  rwa [placeFrom_filter] at hle

end Clean

end Files

end WatchTrial
