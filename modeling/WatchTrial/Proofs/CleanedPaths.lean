import WatchTrial.Proofs.CleanPaths
import WatchTrial.Text.Lines
/-!
# Paths before and after cleaning

Cleaning keeps some components of a path in their order, and a step up takes back the name before it. A clean path
stays as it is. In a sound tree a directory is found by its path and by the cleaned path alike: both lead to the same
place, and the cleaned path has no other names and no more bytes.
-/
namespace WatchTrial

namespace Path

open Text

section Steps

variable {rooted : Bool} {done cs : List (List Char)} {c path : List Char} {x : Char}

private theorem push_cases (rooted : Bool) (done : List (List Char)) (c : List Char) :
    push rooted done c = done ∧ (c = [] ∨ c = ['.'] ∨ c = ['.', '.'] ∧ rooted = true ∧ done = []) ∨
    push rooted done c = c :: done ∧ c ≠ [] ∧ c ≠ ['.'] ∨
    c = ['.', '.'] ∧ ∃ last, last ≠ ['.', '.'] ∧ done = last :: push rooted done c := by
  unfold push
  by_cases hskip : c = [] ∨ c = ['.']
  · rw [if_pos hskip]
    exact .inl ⟨rfl, hskip.imp_right .inl⟩
  · rw [if_neg hskip]
    obtain ⟨hempty, hdot⟩ := not_or.mp hskip
    by_cases hup : c = ['.', '.']
    · rw [if_pos hup]
      cases done with
      | nil =>
        cases rooted with
        | true => exact .inl ⟨rfl, .inr (.inr ⟨hup, rfl, rfl⟩)⟩
        | false => exact .inr (.inl ⟨rfl, hempty, hdot⟩)
      | cons last rest =>
        by_cases hlast : last = ['.', '.']
        · subst hlast
          exact .inr (.inl ⟨by simp, hempty, hdot⟩)
        · simp only [hlast, if_false]
          exact .inr (.inr ⟨hup, last, hlast, rfl⟩)
    · rw [if_neg hup]
      exact .inr (.inl ⟨rfl, hempty, hdot⟩)

private theorem mem_push (h : path ∈ push rooted done c) : path = c ∨ path ∈ done := by
  rcases push_cases rooted done c with ⟨heq, -⟩ | ⟨heq, -⟩ | ⟨-, last, -, heq⟩
  · exact .inr (heq ▸ h)
  · exact List.mem_cons.mp (heq ▸ h)
  · rw [heq]
    exact .inr (List.mem_cons_of_mem last h)

private theorem mem_foldl_push (h : c ∈ cs.foldl (push rooted) done) : c ∈ cs ∨ c ∈ done := by
  induction cs generalizing done with
  | nil => exact .inr h
  | cons first rest ih =>
    rcases ih h with hrest | hfirst
    · exact .inl (List.mem_cons_of_mem first hrest)
    · rcases mem_push hfirst with rfl | hdone
      · exact .inl List.mem_cons_self
      · exact .inr hdone

private theorem mem_components_of_mem_settle (h : c ∈ settle path) : c ∈ components path :=
  (mem_foldl_push h).resolve_right List.not_mem_nil

private theorem Settled.push_eq (h : Settled rooted (c :: done)) : Path.push rooted done c = c :: done := by
  obtain ⟨hempty, hdot, -, hup, -⟩ := h
  rcases push_cases rooted done c with ⟨-, hskip⟩ | ⟨heq, -⟩ | ⟨hc, last, hlast, heq⟩
  · rcases hskip with hc | hc | ⟨hc, hrooted, -⟩
    · exact absurd hc hempty
    · exact absurd hc hdot
    · rw [(hup hc).1] at hrooted
      cases hrooted
  · exact heq
  · exact absurd ((hup hc).2 last (heq ▸ List.mem_cons_self)) hlast

private theorem Settled.foldl_push (h : Settled rooted done) : done.reverse.foldl (Path.push rooted) [] = done := by
  induction done with
  | nil => rfl
  | cons c rest ih =>
    rw [List.reverse_cons, List.foldl_append, ih h.2.2.2.2]
    exact h.push_eq

end Steps

section Texts

variable {cs : List (List Char)} {c path : List Char} {x : Char}

private theorem joinComponents_cons_cons (first second : List Char) (rest : List (List Char)) :
    joinComponents (first :: second :: rest) = first ++ '/' :: joinComponents (second :: rest) := by
  simp [joinComponents, List.intercalate_cons_cons]

private theorem joinComponents_components (path : List Char) : joinComponents (components path) = path :=
  List.intercalate_splitOn '/'

private theorem mem_joinComponents : x ∈ joinComponents cs → x = '/' ∨ ∃ c ∈ cs, x ∈ c := by
  induction cs with
  | nil => simp [joinComponents]
  | cons first rest ih =>
    intro h
    cases rest with
    | nil => exact .inr ⟨first, List.mem_cons_self, by simpa [joinComponents] using h⟩
    | cons second rest =>
      rw [joinComponents_cons_cons, List.mem_append, List.mem_cons] at h
      rcases h with h | rfl | h
      · exact .inr ⟨first, List.mem_cons_self, h⟩
      · exact .inl rfl
      · rcases ih h with hslash | ⟨c, hc, hx⟩
        · exact .inl hslash
        · exact .inr ⟨c, List.mem_cons_of_mem first hc, hx⟩

private theorem mem_joinComponents_of_mem (hc : c ∈ cs) (hx : x ∈ c) : x ∈ joinComponents cs := by
  induction cs with
  | nil => simp at hc
  | cons first rest ih =>
    cases rest with
    | nil =>
      obtain rfl := List.mem_singleton.mp hc
      simpa [joinComponents] using hx
    | cons second rest =>
      rw [joinComponents_cons_cons]
      rcases List.mem_cons.mp hc with rfl | hc
      · exact List.mem_append_left _ hx
      · exact List.mem_append_right _ (List.mem_cons_of_mem _ (ih hc))

private theorem mem_of_mem_components (hc : c ∈ components path) (hx : x ∈ c) : x ∈ path := by
  have hmem := mem_joinComponents_of_mem hc hx
  rwa [joinComponents_components] at hmem

/-- Number of bytes of components with a slash after each. -/
def span : List (List Char) → Nat
  | [] => 0
  | c :: rest => byteLength c + 1 + span rest

private theorem byteLength_slash (rest : List Char) : byteLength ('/' :: rest) = byteLength rest + 1 := by
  rw [byteLength_cons, Nat.add_comm]
  rfl

private theorem byteLength_joinComponents (hne : cs ≠ []) : byteLength (joinComponents cs) + 1 = span cs := by
  induction cs with
  | nil => exact absurd rfl hne
  | cons first rest ih =>
    cases rest with
    | nil => simp [joinComponents, span]
    | cons second rest =>
      have hrest := ih (List.cons_ne_nil second rest)
      rw [joinComponents_cons_cons, byteLength_append, byteLength_slash, span, ← hrest]
      omega

theorem span_append (cs cs' : List (List Char)) : span (cs ++ cs') = span cs + span cs' := by
  induction cs with
  | nil => simp [span]
  | cons c rest ih =>
    rw [List.cons_append, span, span, ih]
    omega

private theorem span_reverse (cs : List (List Char)) : span cs.reverse = span cs := by
  induction cs with
  | nil => rfl
  | cons c rest ih =>
    simp only [List.reverse_cons, span_append, ih, span]
    omega

private theorem span_push (rooted : Bool) (done : List (List Char)) (c : List Char) :
    span (push rooted done c) ≤ span done + span [c] := by
  rcases push_cases rooted done c with ⟨heq, -⟩ | ⟨heq, -⟩ | ⟨-, last, -, heq⟩
  · rw [heq]
    omega
  · rw [heq, span, span, span]
    omega
  · have hspan := congrArg span heq
    rw [span] at hspan
    omega

private theorem span_foldl_push (rooted : Bool) (done cs : List (List Char)) :
    span (cs.foldl (push rooted) done) ≤ span done + span cs := by
  induction cs generalizing done with
  | nil => simp [span]
  | cons c rest ih =>
    have hfirst := span_push rooted done c
    have hrest := ih (push rooted done c)
    simp only [List.foldl_cons, span] at hfirst hrest ⊢
    omega

end Texts

section Cleaned

variable {rooted : Bool} {done cs : List (List Char)} {dir name path : List Char} {x : Char}

private theorem isRooted_render (h : Settled rooted done) : isRooted (render rooted done.reverse) = rooted := by
  cases rooted with
  | true => rfl
  | false =>
    cases hcs : done.reverse with
    | nil => rfl
    | cons first rest =>
      have hfirst := h.of_mem first (List.mem_reverse.mp (hcs ▸ List.mem_cons_self))
      obtain ⟨x, tail, rfl⟩ := List.exists_cons_of_ne_nil hfirst.1
      have hx : x ≠ '/' := fun heq => hfirst.2 (heq ▸ List.mem_cons_self)
      cases rest with
      | nil => simp [render, joinComponents, isRooted, hx]
      | cons second rest => simp [render, joinComponents_cons_cons, isRooted, hx]

private theorem settle_render (h : Settled rooted done) : settle (render rooted done.reverse) = done := by
  rw [settle, isRooted_render h]
  by_cases hdone : done = []
  · subst hdone
    cases rooted <;> decide
  · have hslash : ∀ c ∈ done.reverse, '/' ∉ c := fun c hc => (h.of_mem c (List.mem_reverse.mp hc)).2
    rw [components_render hslash (by simpa using hdone)]
    cases rooted with
    | true => exact h.foldl_push
    | false => exact h.foldl_push

private theorem isRooted_cleanChars (path : List Char) : isRooted (cleanChars path) = isRooted path := by
  rw [cleanChars_eq, isRooted_render (settled_settle path)]

private theorem settle_cleanChars (path : List Char) : settle (cleanChars path) = settle path := by
  rw [cleanChars_eq, settle_render (settled_settle path)]

theorem cleanChars_cleanChars (path : List Char) : cleanChars (cleanChars path) = cleanChars path := by
  rw [cleanChars_eq (cleanChars path), isRooted_cleanChars, settle_cleanChars, ← cleanChars_eq]

private theorem joinChars_cleanChars (hdir : dir ≠ []) (rest : List Char) :
    joinChars (cleanChars dir) rest = joinChars dir rest := by
  have hjoin {dir : List Char} (hdir : dir ≠ []) : joinChars dir rest = cleanChars (dir ++ '/' :: rest) := by
    cases dir with
    | nil => exact absurd rfl hdir
    | cons c cs => rfl
  have hclean := cleanChars_ne_nil dir
  rw [hjoin hdir, hjoin hclean, cleanChars_append hdir, cleanChars_append hclean, isRooted_cleanChars,
    settle_cleanChars]

theorem joinChars_ends (dir : List Char) (hname : IsName name) :
    ∃ before, joinChars dir name = before ++ name ∧ (before = [] ∨ before.getLast? = some '/') := by
  by_cases hdir : dir = []
  · subst hdir
    obtain ⟨c, cs, rfl⟩ := List.exists_cons_of_ne_nil hname.1
    have hrooted : isRooted (c :: cs) = false := by
      have hc : c ≠ '/' := fun heq => hname.2.2.2 (heq ▸ List.mem_cons_self)
      simp [isRooted, hc]
    have hclean : cleanChars (c :: cs) = c :: cs := by
      rw [cleanChars_eq, hrooted, settle, components_of_not_mem hname.2.2.2, List.foldl_cons, push_name hname]
      simp [render, joinComponents]
    exact ⟨[], hclean, .inl rfl⟩
  · refine ⟨lead (cleanChars dir), ?_, lead_cases _⟩
    rw [← joinChars_cleanChars hdir, joinChars_name (cleanChars_cleanChars dir) hname]

private theorem mem_cleanChars (h : x ∈ cleanChars path) : x ∈ path ∨ x = '/' ∨ x = '.' := by
  have hkept {cs : List (List Char)} (hcs : ∀ c ∈ cs, c ∈ components path) (hx : x ∈ joinComponents cs) :
      x ∈ path ∨ x = '/' := by
    rcases mem_joinComponents hx with hslash | ⟨c, hc, hx⟩
    · exact .inr hslash
    · exact .inl (mem_of_mem_components (hcs c hc) hx)
  have hcs : ∀ c ∈ (settle path).reverse, c ∈ components path :=
    fun c hc => mem_components_of_mem_settle (List.mem_reverse.mp hc)
  rw [cleanChars_eq] at h
  generalize (settle path).reverse = cs at h hcs
  cases hrooted : isRooted path with
  | true =>
    rw [hrooted] at h
    rcases List.mem_cons.mp h with rfl | h
    · exact .inr (.inl rfl)
    · exact (hkept hcs h).imp_right .inl
  | false =>
    rw [hrooted] at h
    cases cs with
    | nil => exact .inr (.inr (List.mem_singleton.mp h))
    | cons c rest => exact (hkept hcs h).imp_right .inl

/-- Cleaning makes no path longer, but for the empty one. -/
theorem byteLength_cleanChars_le (hpath : path ≠ []) : byteLength (cleanChars path) ≤ byteLength path := by
  have hcomponents : components path ≠ [] := List.splitOn_ne_nil '/' path
  have hpieces := byteLength_joinComponents hcomponents
  rw [joinComponents_components] at hpieces
  have hpositive : 1 ≤ byteLength path := by
    obtain ⟨c, cs, rfl⟩ := List.exists_cons_of_ne_nil hpath
    have hc := c.utf8Size_pos
    rw [byteLength_cons]
    omega
  rw [cleanChars_eq, settle]
  cases hrooted : isRooted path with
  | true =>
    -- the empty component before the root's slash is skipped, which makes up for the slash
    obtain ⟨rest, rfl⟩ : ∃ rest, path = '/' :: rest := by
      cases path with
      | nil => exact absurd rfl hpath
      | cons c rest => exact ⟨rest, by simpa [isRooted] using hrooted⟩
    have hsplit : components ('/' :: rest) = [] :: components rest := components_append [] rest
    have hspan := span_foldl_push true [] (components rest)
    rw [hsplit, span, byteLength_slash] at hpieces
    rw [hsplit, List.foldl_cons, byteLength_slash]
    change byteLength ('/' :: joinComponents ((components rest).foldl (push true) []).reverse) ≤ _
    generalize (components rest).foldl (push true) [] = done at hspan
    rw [byteLength_slash]
    by_cases hdone : done = []
    · subst hdone
      simp [joinComponents, byteLength]
    · have hne : done.reverse ≠ [] := by simpa using hdone
      have hjoin := byteLength_joinComponents hne
      rw [span_reverse] at hjoin
      have hempty : byteLength [] = 0 := rfl
      simp only [span, hempty] at hspan hpieces
      omega
  | false =>
    have hspan := span_foldl_push false [] (components path)
    generalize (components path).foldl (push false) [] = done at hspan
    by_cases hdone : done = []
    · subst hdone
      exact hpositive
    · have hne : done.reverse ≠ [] := by simpa using hdone
      have hjoin := byteLength_joinComponents hne
      rw [span_reverse] at hjoin
      have hrender : render false done.reverse = joinComponents done.reverse := by
        cases hcs : done.reverse with
        | nil => exact absurd hcs hne
        | cons c rest => rfl
      rw [hrender]
      simp only [span] at hspan
      omega

def clean (path : String) : String := String.ofList (cleanChars path.toList)

private theorem clean_ne_empty (path : String) : clean path ≠ "" := by
  simpa [clean] using cleanChars_ne_nil path.toList

theorem join_clean {dir : String} (hdir : dir ≠ "") (name : String) : join (clean dir) name = join dir name := by
  rw [join, clean, String.toList_ofList, joinChars_cleanChars (by simpa using hdir), join]

end Cleaned

end Path

namespace Files

open WatchTrial.Path

variable {files : Files} {rooted : Bool} {done cs : List (List Char)} {c : List Char} {dir path : String}
  {place : Place}

private theorem placeFrom_push (h : Settled rooted done) (c : List Char) :
    placeFrom (if rooted then ["/"] else []) ((push rooted done c).reverse.map String.ofList) =
      placeFrom (placeFrom (if rooted then ["/"] else []) (done.reverse.map String.ofList)) [String.ofList c] := by
  generalize hstart : (if rooted then ["/"] else [] : Place) = start
  rcases push_cases rooted done c with ⟨heq, hskip⟩ | ⟨heq, -⟩ | ⟨hc, last, hlast, heq⟩
  · rw [heq]
    rcases hskip with rfl | rfl | ⟨rfl, rfl, rfl⟩
    · rfl
    · rfl
    · subst hstart
      decide
  · rw [heq, List.reverse_cons, List.map_append, placeFrom_append]
    rfl
  · -- the name that is taken back led one step down
    subst hc
    rw [heq] at h
    obtain ⟨hempty, hdot, hslash, -, -⟩ := h
    have hname : String.ofList last ∉ ["", ".", ".."] := by
      simp only [List.mem_cons, List.not_mem_nil, or_false, not_or]
      refine ⟨by simpa using hempty, fun heq => hdot (String.ofList_inj.mp heq),
        fun heq => hlast (String.ofList_inj.mp heq)⟩
    have hroot : String.ofList last ≠ "/" := by
      intro heq
      have hchars : last = ['/'] := String.ofList_inj.mp heq
      simp [hchars] at hslash
    have hup : String.ofList last ≠ ".." := fun heq => hlast (String.ofList_inj.mp heq)
    rw [congrArg List.reverse heq, List.reverse_cons, List.map_append, placeFrom_append, List.map_singleton,
      placeFrom_name hname]
    have hback : placeFrom (placeFrom start ((push rooted done ['.', '.']).reverse.map String.ofList) ++
        [String.ofList last]) [".."] = parent _ := rfl
    rw [hback, parent_concat (isAnchor_concat hup hroot)]

private theorem placeFrom_foldl_push (h : Settled rooted done) (hcs : ∀ c ∈ cs, '/' ∉ c) :
    placeFrom (if rooted then ["/"] else []) ((cs.foldl (push rooted) done).reverse.map String.ofList) =
      placeFrom (placeFrom (if rooted then ["/"] else []) (done.reverse.map String.ofList))
        (cs.map String.ofList) := by
  induction cs generalizing done with
  | nil => rfl
  | cons c rest ih =>
    obtain ⟨hc, hrest⟩ := List.forall_mem_cons.mp hcs
    rw [List.foldl_cons, ih (h.push hc) hrest, placeFrom_push h, List.map_cons, ← placeFrom_cons]

/-- A path and its cleaned form lead to the same place. -/
theorem placeOf_clean (path : String) : placeOf (clean path) = placeOf path := by
  have hsettled := settled_settle path.toList
  have hslash : ∀ c ∈ (settle path.toList).reverse, '/' ∉ c :=
    fun c hc => (hsettled.of_mem c (List.mem_reverse.mp hc)).2
  have hstart : startOf (clean path) = startOf path := by
    have hrooted := isRooted_cleanChars path.toList
    unfold isRooted at hrooted
    rw [startOf, clean, String.toList_ofList, hrooted, startOf]
  have hnone : Settled (isRooted path.toList) [] := trivial
  have hslashes : ∀ c ∈ components path.toList, '/' ∉ c := fun _ => slash_not_mem
  have hway := placeFrom_foldl_push hnone hslashes
  rw [placeOf, hstart, namesOf, clean, String.toList_ofList, cleanChars_eq]
  change placeFrom (if isRooted path.toList then ["/"] else []) _ = placeFrom _ ((components path.toList).map _)
  refine Eq.trans ?_ hway
  change _ = placeFrom (if isRooted path.toList then ["/"] else []) ((settle path.toList).reverse.map String.ofList)
  generalize (settle path.toList).reverse = cs at hslash
  by_cases hcs : cs = []
  · subst hcs
    cases isRooted path.toList <;> decide
  · rw [components_render hslash hcs]
    cases isRooted path.toList with
    | true => simp [placeFrom]
    | false => rfl

private theorem mem_namesOf_clean {name : String} (h : name ∈ namesOf (clean path)) :
    name ∈ namesOf path ∨ name = "" ∨ name = "." := by
  have hsettled := settled_settle path.toList
  have hslash : ∀ c ∈ (settle path.toList).reverse, '/' ∉ c :=
    fun c hc => (hsettled.of_mem c (List.mem_reverse.mp hc)).2
  have hkept : ∀ c ∈ (settle path.toList).reverse, c ∈ components path.toList :=
    fun c hc => mem_components_of_mem_settle (List.mem_reverse.mp hc)
  rw [namesOf, clean, String.toList_ofList, cleanChars_eq] at h
  generalize (settle path.toList).reverse = cs at h hslash hkept
  generalize isRooted path.toList = rooted at h
  by_cases hcs : cs = []
  · subst hcs
    right
    cases rooted with
    | true =>
      have hnames : (components (render true [])).map String.ofList = ["", ""] := by decide
      rw [hnames] at h
      exact .inl (by simpa using h)
    | false =>
      have hnames : (components (render false [])).map String.ofList = ["."] := by decide
      rw [hnames] at h
      exact .inr (List.mem_singleton.mp h)
  · rw [components_render hslash hcs] at h
    obtain ⟨c, hc, rfl⟩ := List.mem_map.mp h
    split at hc
    · rcases List.mem_cons.mp hc with rfl | hc
      · exact .inr (.inl rfl)
      · exact .inl (List.mem_map_of_mem (hkept c hc))
    · exact .inl (List.mem_map_of_mem (hkept c hc))

theorem find_clean (hsound : files.Sound) (h : files.find dir = .ok (place, .directory)) :
    files.find (clean dir) = .ok (place, .directory) := by
  obtain ⟨hresolve, hplace⟩ := find_ok_iff.mp h
  obtain ⟨⟨hnull, hempty, hsize⟩, hwalk⟩ := resolve_ok_iff.mp hresolve
  obtain ⟨rfl, hshort, -⟩ := walk_ok_iff.mp hwalk
  have hclean : cleanChars (clean dir).toList = (clean dir).toList := by
    rw [clean, String.toList_ofList, cleanChars_cleanChars]
  refine (find_directory_iff hclean hsound).mpr ⟨⟨⟨fun hmem => ?_, clean_ne_empty dir, ?_⟩, fun name hname => ?_⟩,
    (placeOf_clean dir).symm, (placeOf_clean dir).symm ▸ hplace⟩
  · rw [clean, String.toList_ofList] at hmem
    rcases mem_cleanChars hmem with hmem | hchar | hchar
    · exact hnull hmem
    · exact absurd hchar (by decide)
    · exact absurd hchar (by decide)
  · have hchars : dir.toList ≠ [] := by simpa using hempty
    have hle := byteLength_cleanChars_le hchars
    rw [Text.byteLength_eq_utf8ByteSize, Text.byteLength_eq_utf8ByteSize, String.ofList_toList] at hle
    exact Nat.le_trans hle hsize
  · rcases mem_namesOf_clean hname with hname | rfl | rfl
    · exact hshort name hname
    · decide
    · decide

end Files

end WatchTrial
