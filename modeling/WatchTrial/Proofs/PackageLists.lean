import Mathlib.Data.List.TakeWhile
import WatchTrial.Face.ApkList
import WatchTrial.Proofs.CleanedPaths
import WatchTrial.Proofs.TrimmedLines
/-!
# Package lists as they are read

A list file is read through a buffer, line by line, and each line is looked at on its own. So it is read as long as
every line goes into the buffer, and then it has the packages that its lines have alone. A package that was written
as the path of its file is read back from it, whatever directory stands before and whatever words stand behind.
-/
namespace WatchTrial.ApkList

section Reading

variable {raw line : List Char} {text pkg : String}

private theorem package?_dropReturn (raw : List Char) : package? (Text.dropReturn raw) = package? raw := by
  rw [package?, Text.trimChars_dropReturn, package?]

private theorem package?_of_trimChars (htrim : Text.trimChars raw = line) (hne : line ≠ [])
    (hcomment : line.head? ≠ some '#') :
    package? raw =
      let pkg := Text.dropEnding ".apk".toList (Path.baseChars (Text.cut ' ' line).1)
      if pkg = [] ∨ pkg = ['.'] ∨ pkg = ['/'] then none else some (String.ofList pkg) := by
  rw [package?, htrim]
  split
  next => exact absurd rfl hne
  next => exact absurd rfl hcomment
  next => rfl

private theorem read_of_fits (h : ∀ line ∈ Text.lines text.toList, Text.Fits line) :
    read text = .ok (Text.ascending ((Text.lines text.toList).filterMap package?)) := by
  have hoverflow : (Text.scanLines text.toList).overflow = false := by
    rw [Bool.eq_false_iff, Ne, Text.scanLines, Text.scanPieces_overflow]
    simpa using h
  have hall : (Text.lines text.toList).takeWhile (Text.Fits ·) = Text.lines text.toList := by
    rw [List.takeWhile_eq_self_iff]
    simpa using h
  unfold read
  dsimp only
  rw [hoverflow, Text.scanLines, Text.filterMap_scanPieces rfl package?_dropReturn, hall]
  rfl

private theorem read_error_iff :
    (∃ fault, read text = .error fault) ↔ ∃ line ∈ Text.lines text.toList, ¬ Text.Fits line := by
  constructor
  · rintro ⟨fault, hfault⟩
    by_contra hnone
    push Not at hnone
    cases hfault.symm.trans (read_of_fits hnone)
  · intro hline
    have hoverflow : (Text.scanLines text.toList).overflow = true := (Text.scanPieces_overflow _).mpr hline
    unfold read
    dsimp only
    rw [hoverflow]
    exact ⟨_, rfl⟩

private theorem read_line (hline : '\n' ∉ line) (hfits : Text.Fits line) :
    read (String.ofList line) = .ok (package? line).toList := by
  have hlines : Text.lines (String.ofList line).toList = [line] := by
    rw [String.toList_ofList, Text.lines_of_not_mem hline]
  rw [read_of_fits (by rw [hlines]; simpa using hfits), hlines]
  cases hpackage : package? line with
  | none => simp [hpackage, Text.ascending, Ascending.ofList]
  | some pkg => simp [hpackage, Text.ascending, Ascending.ofList, Ascending.place]

private theorem fits_of_read {found : List String} (h : read text = .ok found) :
    ∀ line ∈ Text.lines text.toList, Text.Fits line := by
  by_contra hnone
  push Not at hnone
  obtain ⟨fault, hfault⟩ := read_error_iff.mpr hnone
  cases hfault.symm.trans h

private theorem pairwise_read {found : List String} (h : read text = .ok found) : found.Pairwise (· < ·) := by
  cases h.symm.trans (read_of_fits (fits_of_read h))
  exact Text.pairwise_ascending _

theorem mem_read_iff {found : List String} (h : read text = .ok found) : pkg ∈ found ↔
    ∃ line ∈ Text.lines text.toList, read (String.ofList line) = .ok [pkg] := by
  have hfits := fits_of_read h
  cases h.symm.trans (read_of_fits hfits)
  rw [Text.mem_ascending, List.mem_filterMap]
  refine exists_congr fun line => and_congr_right fun hline => ?_
  rw [read_line (Text.not_mem_of_mem_lines hline) (hfits line hline), Except.ok.injEq, Option.toList_eq_singleton_iff]

end Reading

section Writing

/-- A line that somebody writes into a list. -/
inductive Row where
  | blank (spaces : String)
  | comment (indent words : String)
  /-- The file of a package, and words behind it. -/
  | package (pkg : String) (words : List String)
deriving Repr, DecidableEq

def Row.text (dir : String) : Row → String
  | blank spaces => spaces
  | comment indent words => indent ++ "#" ++ words
  | package pkg words => " ".intercalate (pathOf dir pkg :: words)

def write (dir : String) (rows : List Row) : String := "\n".intercalate (rows.map (Row.text dir))

/-- A package has a name, and its file in a directory can be told from comments and from the words behind it. -/
structure Listable (dir pkg : String) : Prop where
  ne_empty : pkg ≠ ""
  ne_dot : pkg ≠ "."
  slash_not_mem : '/' ∉ pkg.toList
  not_blank : ∀ c ∈ (pathOf dir pkg).toList, Text.isBlank c = false
  not_comment : (pathOf dir pkg).toList.head? ≠ some '#'

/-- Blank lines and what stands before a comment have blanks only, and packages can be listed. -/
def Row.WellFormed (dir : String) : Row → Prop
  | blank spaces => ∀ c ∈ spaces.toList, Text.isBlank c = true
  | comment indent _ => ∀ c ∈ indent.toList, Text.isBlank c = true
  | package pkg _ => Listable dir pkg

/-- The row is one line that goes into the buffer. -/
def Row.OnOneLine (dir : String) (row : Row) : Prop :=
  '\n' ∉ (row.text dir).toList ∧ (row.text dir).utf8ByteSize ≤ 65535

instance (dir pkg : String) : Decidable (Listable dir pkg) :=
  decidable_of_iff (pkg ≠ "" ∧ pkg ≠ "." ∧ '/' ∉ pkg.toList ∧
      (pathOf dir pkg).toList.any Text.isBlank = false ∧ (pathOf dir pkg).toList.head? ≠ some '#') <| by
    simp only [List.any_eq_false, Bool.not_eq_true]
    exact ⟨fun h => ⟨h.1, h.2.1, h.2.2.1, h.2.2.2.1, h.2.2.2.2⟩,
      fun h => ⟨h.ne_empty, h.ne_dot, h.slash_not_mem, h.not_blank, h.not_comment⟩⟩

instance (dir : String) : DecidablePred (Row.WellFormed dir)
  | .blank spaces => decidable_of_iff (spaces.toList.all Text.isBlank = true) List.all_eq_true
  | .comment indent _ => decidable_of_iff (indent.toList.all Text.isBlank = true) List.all_eq_true
  | .package pkg _ => inferInstanceAs (Decidable (Listable dir pkg))

instance (dir : String) : DecidablePred (Row.OnOneLine dir) := fun row =>
  inferInstanceAs (Decidable ('\n' ∉ (row.text dir).toList ∧ (row.text dir).utf8ByteSize ≤ 65535))

def Row.package? : Row → Option String
  | package pkg _ => some pkg
  | _ => none

variable {dir pkg : String} {row : Row} {rows : List Row}

theorem Listable.baseChars (h : Listable dir pkg) :
    Path.baseChars (pathOf dir pkg).toList = (pkg ++ ".apk").toList := by
  have hlong : 2 < (pkg ++ ".apk").toList.length := by simp
  have hname : Path.IsName (pkg ++ ".apk").toList :=
    Path.isName_of_length hlong (by simpa using h.slash_not_mem)
  obtain ⟨before, hpath, hbefore⟩ := Path.joinChars_ends dir.toList hname
  rw [pathOf, Path.join, String.toList_ofList, hpath, Path.baseChars_name hbefore hname.1 hname.2.2.2]

private theorem Listable.path_ne_nil (h : Listable dir pkg) : (pathOf dir pkg).toList ≠ [] := by
  intro hempty
  have hbase := h.baseChars
  rw [hempty] at hbase
  have hlength := congrArg List.length hbase
  simp [Path.baseChars] at hlength

private theorem Listable.not_nameless (h : Listable dir pkg) :
    ¬ (pkg.toList = [] ∨ pkg.toList = ['.'] ∨ pkg.toList = ['/']) := by
  rintro (hempty | hdot | hslash)
  · exact h.ne_empty (String.toList_eq_nil_iff.mp hempty)
  · exact h.ne_dot (String.toList_inj.mp hdot)
  · exact h.slash_not_mem (by simp [hslash])

private theorem toList_text_package (dir pkg : String) (words : List String) :
    ∃ tail, (tail = [] ∨ tail.head? = some ' ') ∧
    ((Row.package pkg words).text dir).toList = (pathOf dir pkg).toList ++ tail := by
  cases words with
  | nil => exact ⟨[], .inl rfl, by simp [Row.text]⟩
  | cons word rest =>
    refine ⟨' ' :: (" ".intercalate (word :: rest)).toList, .inr rfl, ?_⟩
    rw [Row.text, String.intercalate_cons_cons]
    simp

private theorem head?_dropEndWhile {tail : List Char} (htail : tail = [] ∨ tail.head? = some ' ') :
    Text.dropEndWhile Text.isBlank tail = [] ∨ (Text.dropEndWhile Text.isBlank tail).head? = some ' ' := by
  obtain ⟨dropped, hsplit⟩ := Text.dropEndWhile_prefix Text.isBlank tail
  generalize Text.dropEndWhile Text.isBlank tail = kept at hsplit
  cases kept with
  | nil => exact .inl rfl
  | cons c cs =>
    subst hsplit
    simpa using htail

private theorem cut_space_append {path tail : List Char} (hpath : ' ' ∉ path)
    (htail : tail = [] ∨ tail.head? = some ' ') :
    (Text.cut ' ' (path ++ tail)).1 = path := by
  rcases htail with rfl | htail
  · rw [List.append_nil, Text.cut_of_not_mem hpath]
  · obtain ⟨rest, rfl⟩ := List.head?_eq_some_iff.mp htail
    rw [Text.cut_append hpath]

private theorem Listable.package?_append (h : Listable dir pkg) {tail : List Char}
    (htail : tail = [] ∨ tail.head? = some ' ') : package? ((pathOf dir pkg).toList ++ tail) = some pkg := by
  have hne := h.path_ne_nil
  have htrim := Text.trimChars_word_append hne h.not_blank tail
  have hfirst : ((pathOf dir pkg).toList ++ Text.dropEndWhile Text.isBlank tail).head? ≠ some '#' := by
    rw [List.head?_append_of_ne_nil _ hne]
    exact h.not_comment
  have hspace : ' ' ∉ (pathOf dir pkg).toList := fun hmem => absurd (h.not_blank ' ' hmem) (by decide)
  rw [package?_of_trimChars htrim (by simp [hne]) hfirst, cut_space_append hspace (head?_dropEndWhile htail),
    h.baseChars, String.toList_append, Text.dropEnding_append]
  dsimp only
  rw [if_neg h.not_nameless, String.ofList_toList]

private theorem Row.package?_text (h : row.WellFormed dir) : ApkList.package? (row.text dir).toList = row.package? := by
  cases row with
  | blank spaces =>
    rw [ApkList.package?, Row.text, Text.trimChars_of_blanks h]
    rfl
  | comment indent words =>
    have htext : ((Row.comment indent words).text dir).toList = indent.toList ++ (['#'] ++ words.toList) := by
      simp [Row.text]
    have hmark : ∀ c ∈ ['#'], Text.isBlank c = false := List.forall_mem_singleton.mpr rfl
    rw [ApkList.package?, htext, Text.trimChars_blanks_append h, Text.trimChars_word_append (by simp) hmark]
    rfl
  | package pkg words =>
    obtain ⟨tail, htail, htext⟩ := toList_text_package dir pkg words
    have hlist : Listable dir pkg := h
    rw [htext, hlist.package?_append htail]
    rfl

private theorem toList_write_cons (dir : String) (row next : Row) (rows : List Row) :
    (write dir (row :: next :: rows)).toList = (row.text dir).toList ++ '\n' :: (write dir (next :: rows)).toList := by
  rw [write, List.map_cons, List.map_cons, String.intercalate_cons_cons, write, List.map_cons]
  simp

private theorem lines_write (hne : rows ≠ []) (h : ∀ row ∈ rows, '\n' ∉ (row.text dir).toList) :
    Text.lines (write dir rows).toList = rows.map fun row => (row.text dir).toList := by
  induction rows with
  | nil => exact absurd rfl hne
  | cons row rest ih =>
    have hrow := h row List.mem_cons_self
    have hrest := fun later hlater => h later (List.mem_cons_of_mem row hlater)
    cases rest with
    | nil =>
      have honly : write dir [row] = row.text dir := by simp [write]
      rw [honly, Text.lines_of_not_mem hrow, List.map_singleton]
    | cons next rows =>
      rw [toList_write_cons, Text.lines_cons hrow, ih (List.cons_ne_nil _ _) hrest]
      rfl

private theorem read_write (h : ∀ row ∈ rows, row.WellFormed dir ∧ row.OnOneLine dir) :
    read (write dir rows) = .ok (Text.ascending (rows.filterMap Row.package?)) := by
  by_cases hne : rows = []
  · subst hne
    rfl
  · have hlines := lines_write hne fun row hrow => (h row hrow).2.1
    have hfits : ∀ line ∈ Text.lines (write dir rows).toList, Text.Fits line := by
      rw [hlines, List.forall_mem_map]
      intro row hrow
      rw [Text.fits_iff, String.ofList_toList]
      exact (h row hrow).2.2
    rw [read_of_fits hfits, hlines, List.filterMap_map]
    congr 2
    exact List.filterMap_congr fun row hrow => Row.package?_text (h row hrow).1

private theorem Row.package?_eq_some : row.package? = some pkg ↔ ∃ words, row = .package pkg words := by
  cases row <;> simp [Row.package?]

/-- A list that was written line by line is read back: the packages of its rows, each once and in order, and nothing
from blank rows and comments. Any text is read unless one of its lines is too long for the buffer, and then no line is
passed over: the packages are those that the lines give when each of them is read alone. -/
theorem every_line_accounted :
    (∀ (dir : String) (rows : List Row), (∀ row ∈ rows, row.WellFormed dir ∧ row.OnOneLine dir) →
      ∃ found, read (write dir rows) = .ok found ∧ found.Pairwise (· < ·) ∧
        ∀ pkg, pkg ∈ found ↔ ∃ words, Row.package pkg words ∈ rows) ∧
    ∀ text : String,
      ((∃ fault, read text = .error fault) ↔
        ∃ line ∈ Text.lines text.toList, 65535 < (String.ofList line).utf8ByteSize) ∧
      ∀ found, read text = .ok found → found.Pairwise (· < ·) ∧
        ∀ pkg, pkg ∈ found ↔ ∃ line ∈ Text.lines text.toList, read (String.ofList line) = .ok [pkg] := by
  constructor
  · intro dir rows h
    refine ⟨_, read_write h, Text.pairwise_ascending _, fun pkg => ?_⟩
    simp only [Text.mem_ascending, List.mem_filterMap, Row.package?_eq_some]
    constructor
    · rintro ⟨row, hrow, words, rfl⟩
      exact ⟨words, hrow⟩
    · rintro ⟨words, hrow⟩
      exact ⟨_, hrow, words, rfl⟩
  · intro text
    refine ⟨?_, fun found hfound => ⟨pairwise_read hfound, fun pkg => mem_read_iff hfound⟩⟩
    simp only [read_error_iff, Text.fits_iff, Nat.not_le]

/-- A list with every kind of row, of files in a directory that is not written cleanly. One package is in it twice,
and the names of two others end like a file and like the parent directory. -/
def leaked : List Row :=
  [.comment " \t" "leaked.apk", .package "wear.b" ["2016-03-01"], .blank " ", .package "a.apk" [],
    .package ".." ["", "#"], .package "wear.b" [], .blank ""]

theorem every_line_accounted_leaked : read (write "./apks//wear/" leaked) = .ok ["..", "a.apk", "wear.b"] ∧
    (∃ found, read (write "./apks//wear/" leaked) = .ok found ∧ found.Pairwise (· < ·) ∧
      ∀ pkg, pkg ∈ found ↔ ∃ words, Row.package pkg words ∈ leaked) ∧
    ∃ line ∈ Text.lines (write "./apks//wear/" leaked).toList, read (String.ofList line) = .ok ["a.apk"] :=
  ⟨rfl, every_line_accounted.1 "./apks//wear/" leaked (by decide +kernel),
    (((every_line_accounted.2 _).2 _ rfl).2 "a.apk").mp (by decide)⟩

end Writing

end WatchTrial.ApkList
