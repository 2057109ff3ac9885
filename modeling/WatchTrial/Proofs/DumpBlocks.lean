import Mathlib.Algebra.GroupWithZero.Nat
import WatchTrial.Proofs.Snapshots
import WatchTrial.Sensor.Dump
/-!
# The blocks of a dump

A dump is read in one pass over its lines. What the pass finds can be told block by block: a block is a
marker line with the lines below it up to the next marker or blank line, its first line with a column bar names
the listener, and the lines after that are its rows. The registrations and the faults of a dump are those of its
blocks, and lines outside of every block say nothing.
-/
namespace WatchTrial.Dump

abbrev Line := List Char

def lineOf (raw : List Char) : Line := Text.dropEndWhile (· == '\r') raw

/-- The lines of a dump. -/
def linesOf (text : String) : List Line :=
  (Text.lines text.toList).map lineOf

def Line.IsMarker (line : Line) : Prop := "Connection Number:".toList <+: Text.trimChars line

/-- A line that is neither a marker nor blank. -/
def Line.IsContent (line : Line) : Prop := ¬ line.IsMarker ∧ Text.trimChars line ≠ []

instance : DecidablePred Line.IsMarker := fun line =>
  inferInstanceAs (Decidable ("Connection Number:".toList <+: Text.trimChars line))

instance : DecidablePred Line.IsContent := fun line =>
  inferInstanceAs (Decidable (¬ line.IsMarker ∧ Text.trimChars line ≠ []))

/-- The trimmed text before the first bar of a line, or of the whole line when it has none. -/
def Line.column (line : Line) : List Char := Text.trimChars (line.takeWhile (· != '|'))

/-- The lines below a marker line that belong to its block. -/
abbrev Block := List Line

/-- The blocks of a dump, in their order: below every marker line, the longest run of content lines. -/
def blocksOf : List Line → List Block
  | [] => []
  | line :: rest =>
    if line.IsMarker then rest.takeWhile (·.IsContent) :: blocksOf rest else blocksOf rest

/-- The listener line of a block, if it has one, and the rows after it. -/
def Block.table? (block : Block) : Option (Line × List Line) :=
  match block.dropWhile ('|' ∉ ·) with
  | [] => none
  | head :: rows => some (head, rows)

/-- Some row has the type of the registration in its first column, under its listener, which is not ignored. -/
def Lists (filter : ListenerFilter) (listener : List Char) (rows : List Line) (r : Registration) : Prop :=
  listener = r.listener.toList ∧ filter.ignores r.listener = false ∧
    r.sensorType ≠ "" ∧ ∃ row ∈ rows, row.column = r.sensorType.toList

/-- The registrations of a block. -/
def Block.Registers (filter : ListenerFilter) (block : Block) (r : Registration) : Prop :=
  ∃ head rows, block.table? = some (head, rows) ∧ Lists filter head.column rows r

/-- The faults of rows: each row without a type, and that none has one. -/
def rowFaults (rows : List Line) : Nat :=
  rows.countP (·.column = []) + (if ∃ row ∈ rows, row.column ≠ [] then 0 else 1)

/-- The faults of a block: that it has no listener line, or else a listener without a name and those of the
rows. -/
def Block.faults (block : Block) : Nat :=
  match block.table? with
  | none => 1
  | some (head, rows) => (if head.column = [] then 1 else 0) + rowFaults rows

private theorem firstColumn_eq (line : Line) : firstColumn line = line.column := by
  unfold firstColumn Line.column Text.cut
  have hsplit : line.takeWhile (· != '|') ++ line.dropWhile (· != '|') = line :=
    List.takeWhile_append_dropWhile
  cases hdrop : line.dropWhile (· != '|') with
  | nil =>
    rw [hdrop, List.append_nil] at hsplit
    rw [hsplit]
  | cons bar rest => rfl

private theorem kindOf_eq (line : Line) :
    kindOf line = if line.IsMarker then .marker else if line.IsContent then .content else .blank := by
  have hmarker : marker.isPrefixOf (Text.trimChars line) = true ↔ line.IsMarker := List.isPrefixOf_iff_prefix
  unfold kindOf
  by_cases h : line.IsMarker
  · rw [if_pos (hmarker.mpr h), if_pos h]
  · rw [if_neg (mt hmarker.mp h), if_neg h]
    by_cases hblank : Text.trimChars line = []
    · simp [hblank, Line.IsContent]
    · simp [hblank, h, Line.IsContent]

section Open

variable {filter : ListenerFilter} {line : Line} {body : List Line} {r : Registration}

/-- The faults that the rest of a block still adds when the reading has come to a phase. -/
def Phase.faults : Phase → List Line → Nat
  | .outside, _ => 0
  | .preamble, rest => Block.faults rest
  | .listed _, rest => rowFaults rest
  | .rows _, rest => rest.countP (·.column = [])

/-- The registrations that the rest of a block still adds when the reading has come to a phase. -/
def Phase.Registers (filter : ListenerFilter) : Phase → List Line → Registration → Prop
  | .outside, _, _ => False
  | .preamble, rest, r => Block.Registers filter rest r
  | .listed listener, rest, r | .rows listener, rest, r => Lists filter listener rest r

private theorem Phase.faults_nil (phase : Phase) : phase.faults [] = Reading.leaving phase := by
  cases phase <;> rfl

private theorem Phase.not_registers_nil (phase : Phase) : ¬ phase.Registers filter [] r := by
  cases phase <;> simp [Phase.Registers, Block.Registers, Block.table?, Lists]

private theorem Block.table?_cons (line : Line) (body : List Line) :
    Block.table? (line :: body) = if '|' ∈ line then some (line, body) else Block.table? body := by
  unfold Block.table?
  by_cases h : '|' ∈ line <;> simp [h]

private theorem rowFaults_cons_of_empty (h : line.column = []) : rowFaults (line :: body) = rowFaults body + 1 := by
  have hsome : (∃ row ∈ line :: body, row.column ≠ []) ↔ ∃ row ∈ body, row.column ≠ [] := by simp [h]
  simp only [rowFaults, hsome, List.countP_cons, h, decide_true, if_true]
  omega

private theorem rowFaults_cons_of_ne (h : line.column ≠ []) :
    rowFaults (line :: body) = body.countP (·.column = []) := by
  simp [rowFaults, h]

private theorem lists_cons {listener : List Char} : Lists filter listener (line :: body) r ↔
    (line.column ≠ [] ∧ filter.ignores (String.ofList listener) = false ∧
      r = ⟨String.ofList line.column, String.ofList listener⟩) ∨ Lists filter listener body r := by
  constructor
  · rintro ⟨rfl, hignores, htype, row, hrow, hcolumn⟩
    rcases List.mem_cons.mp hrow with rfl | hrow
    · refine .inl ⟨?_, ?_, ?_⟩
      · rw [hcolumn]
        exact mt String.toList_eq_nil_iff.mp htype
      · rwa [String.ofList_toList]
      · rw [hcolumn, String.ofList_toList, String.ofList_toList]
    · exact .inr ⟨rfl, hignores, htype, row, hrow, hcolumn⟩
  · rintro (⟨hcolumn, hignores, rfl⟩ | ⟨hlistener, hignores, htype, row, hrow, hcolumn⟩)
    · refine ⟨String.toList_ofList.symm, hignores, ?_, line, List.mem_cons_self, String.toList_ofList.symm⟩
      exact mt String.ofList_eq_empty_iff.mp hcolumn
    · exact ⟨hlistener, hignores, htype, row, List.mem_cons_of_mem _ hrow, hcolumn⟩

private theorem row_of_empty (reading : Reading) (listener : List Char) (h : line.column = []) :
    reading.row filter listener line = { reading with degraded := reading.degraded + 1 } := by
  simp [Reading.row, firstColumn_eq, h]

private theorem row_of_ne (reading : Reading) (listener : List Char) (h : line.column ≠ []) :
    reading.row filter listener line =
      { reading with
        phase := .rows listener
        found := if filter.ignores (String.ofList listener) then reading.found
          else ⟨String.ofList line.column, String.ofList listener⟩ :: reading.found } := by
  unfold Reading.row
  rw [firstColumn_eq]
  split
  next hempty => exact absurd hempty h
  next => rfl

private theorem mem_row_found (reading : Reading) (listener : List Char) (line : Line) :
    r ∈ (reading.row filter listener line).found ↔ r ∈ reading.found ∨
      (line.column ≠ [] ∧ filter.ignores (String.ofList listener) = false ∧
        r = ⟨String.ofList line.column, String.ofList listener⟩) := by
  by_cases hcolumn : line.column = []
  · simp [row_of_empty _ _ hcolumn, hcolumn]
  · rw [row_of_ne _ _ hcolumn]
    cases hignores : filter.ignores (String.ofList listener) with
    | true => simp
    | false => simp [hcolumn, or_comm]

private theorem content_faults (reading : Reading) (line : Line) (body : List Line) :
    (reading.content filter line).degraded + (reading.content filter line).phase.faults body =
      reading.degraded + reading.phase.faults (line :: body) := by
  obtain ⟨phase, found, degraded⟩ := reading
  cases phase with
  | outside => rfl
  | preamble =>
    by_cases hbar : '|' ∈ line
    · simp [Reading.content, Phase.faults, Block.faults, Block.table?_cons, hbar, firstColumn_eq, Nat.add_assoc]
    · simp [Reading.content, Phase.faults, Block.faults, Block.table?_cons, hbar]
  | listed listener =>
    by_cases hcolumn : line.column = []
    · simp only [Reading.content, row_of_empty _ _ hcolumn, Phase.faults, rowFaults_cons_of_empty hcolumn]
      omega
    · simp only [Reading.content, row_of_ne _ _ hcolumn, Phase.faults, rowFaults_cons_of_ne hcolumn]
  | rows listener =>
    by_cases hcolumn : line.column = []
    · simp only [Reading.content, row_of_empty _ _ hcolumn, Phase.faults, List.countP_cons, hcolumn, decide_true,
        if_true]
      omega
    · simp [Reading.content, row_of_ne _ _ hcolumn, Phase.faults, hcolumn]

private theorem content_registers (reading : Reading) (line : Line) (body : List Line) :
    r ∈ (reading.content filter line).found ∨ (reading.content filter line).phase.Registers filter body r ↔
      r ∈ reading.found ∨ reading.phase.Registers filter (line :: body) r := by
  -- under a listener, the rest of the block is read the same before and after the first row
  have hrow (reading : Reading) (listener : List Char)
      (hphase : reading.phase = .listed listener ∨ reading.phase = .rows listener) :
      r ∈ (reading.row filter listener line).found ∨
          (reading.row filter listener line).phase.Registers filter body r ↔
        r ∈ reading.found ∨ Lists filter listener (line :: body) r := by
    have hrest : (reading.row filter listener line).phase.Registers filter body r ↔
        Lists filter listener body r := by
      by_cases hcolumn : line.column = []
      · rw [row_of_empty _ _ hcolumn]
        rcases hphase with hphase | hphase <;> simp only [hphase, Phase.Registers]
      · simp only [row_of_ne _ _ hcolumn, Phase.Registers]
    rw [hrest, mem_row_found, lists_cons, or_assoc]
  obtain ⟨phase, found, degraded⟩ := reading
  cases phase with
  | outside => rfl
  | preamble =>
    by_cases hbar : '|' ∈ line
    · simp [Reading.content, Phase.Registers, Block.Registers, Block.table?_cons, hbar, firstColumn_eq]
    · simp [Reading.content, Phase.Registers, Block.Registers, Block.table?_cons, hbar]
  | listed listener => exact hrow _ listener (.inl rfl)
  | rows listener => exact hrow _ listener (.inr rfl)

end Open

namespace Reading

variable {filter : ListenerFilter} {r : Registration}

/-- The faults of a reading, together with those of the lines that it has still to read. -/
def faultsWith (reading : Reading) (lines : List Line) : Nat :=
  reading.degraded + reading.phase.faults (lines.takeWhile (·.IsContent)) +
    ((blocksOf lines).map Block.faults).sum

/-- A registration that a reading has found, or that is in the lines that it has still to read. -/
def FindsIn (filter : ListenerFilter) (reading : Reading) (lines : List Line) (r : Registration) : Prop :=
  r ∈ reading.found ∨ reading.phase.Registers filter (lines.takeWhile (·.IsContent)) r ∨
    ∃ block ∈ blocksOf lines, block.Registers filter r

theorem step_eq (reading : Reading) (raw : List Char) :
    step filter reading raw =
      if (lineOf raw).IsMarker then
        { reading with phase := .preamble, degraded := reading.degraded + leaving reading.phase }
      else if (lineOf raw).IsContent then reading.content filter (lineOf raw)
      else { reading with phase := .outside, degraded := reading.degraded + leaving reading.phase } := by
  have hkind := kindOf_eq (lineOf raw)
  change kindOf (Text.dropEndWhile (· == '\r') raw) = _ at hkind
  by_cases hmarker : (lineOf raw).IsMarker
  · rw [if_pos hmarker] at hkind ⊢
    simp only [step, hkind]
  · rw [if_neg hmarker] at hkind ⊢
    by_cases hcontent : (lineOf raw).IsContent
    · rw [if_pos hcontent] at hkind ⊢
      simp only [step, hkind, lineOf]
    · rw [if_neg hcontent] at hkind ⊢
      simp only [step, hkind]

/-- Reading a line changes nothing about the faults that there are in all. -/
theorem step_faultsWith (reading : Reading) (raw : List Char) (rest : List Line) :
    (step filter reading raw).faultsWith rest = reading.faultsWith (lineOf raw :: rest) := by
  unfold faultsWith
  by_cases hmarker : (lineOf raw).IsMarker
  · have hcontent : ¬ (lineOf raw).IsContent := fun h => h.1 hmarker
    rw [step_eq, if_pos hmarker, List.takeWhile_cons_of_neg (by simpa using hcontent), Phase.faults_nil, blocksOf,
      if_pos hmarker, List.map_cons, List.sum_cons]
    simp only [Phase.faults, Nat.add_assoc]
  · rw [step_eq, if_neg hmarker, blocksOf, if_neg hmarker]
    by_cases hcontent : (lineOf raw).IsContent
    · rw [if_pos hcontent, List.takeWhile_cons_of_pos (by simpa using hcontent), content_faults]
    · rw [if_neg hcontent, List.takeWhile_cons_of_neg (by simpa using hcontent),
        Phase.faults_nil]
      simp only [Phase.faults, Nat.add_zero]

private theorem step_findsIn (reading : Reading) (raw : List Char) (rest : List Line) :
    (step filter reading raw).FindsIn filter rest r ↔ reading.FindsIn filter (lineOf raw :: rest) r := by
  unfold FindsIn
  by_cases hmarker : (lineOf raw).IsMarker
  · have hcontent : ¬ (lineOf raw).IsContent := fun h => h.1 hmarker
    rw [step_eq, if_pos hmarker, List.takeWhile_cons_of_neg (by simpa using hcontent), blocksOf,
      if_pos hmarker, List.exists_mem_cons_iff, or_iff_right reading.phase.not_registers_nil]
    rfl
  · rw [step_eq, if_neg hmarker, blocksOf, if_neg hmarker]
    by_cases hcontent : (lineOf raw).IsContent
    · rw [if_pos hcontent, List.takeWhile_cons_of_pos (by simpa using hcontent), ← or_assoc,
        content_registers, or_assoc]
    · rw [if_neg hcontent, List.takeWhile_cons_of_neg (by simpa using hcontent),
        or_iff_right reading.phase.not_registers_nil]
      simp only [Phase.Registers, false_or]

private theorem foldl_faultsWith (reading : Reading) (raws : List (List Char)) :
    (raws.foldl (step filter) reading).faultsWith [] = reading.faultsWith (raws.map lineOf) := by
  induction raws generalizing reading with
  | nil => rfl
  | cons raw rest ih => rw [List.foldl_cons, ih, List.map_cons, step_faultsWith]

private theorem foldl_findsIn (reading : Reading) (raws : List (List Char)) :
    (raws.foldl (step filter) reading).FindsIn filter [] r ↔ reading.FindsIn filter (raws.map lineOf) r := by
  induction raws generalizing reading with
  | nil => rfl
  | cons raw rest ih => rw [List.foldl_cons, ih, List.map_cons, step_findsIn]

end Reading

theorem mem_read_iff {filter : ListenerFilter} {text : String} {r : Registration} :
    r ∈ (read filter text).1.elements ↔ ∃ block ∈ blocksOf (linesOf text), block.Registers filter r := by
  let last := (Text.lines text.toList).foldl (Reading.step filter) .start
  calc r ∈ (read filter text).1.elements
      ↔ r ∈ last.found := Snapshot.mem_ofList
    _ ↔ last.FindsIn filter [] r := by simp [Reading.FindsIn, blocksOf, Phase.not_registers_nil]
    _ ↔ Reading.start.FindsIn filter (linesOf text) r := Reading.foldl_findsIn .start _
    _ ↔ ∃ block ∈ blocksOf (linesOf text), block.Registers filter r := by
      simp [Reading.FindsIn, Reading.start, Phase.Registers]

theorem read_faults (filter : ListenerFilter) (text : String) :
    (read filter text).2 = ((blocksOf (linesOf text)).map Block.faults).sum := by
  let last := (Text.lines text.toList).foldl (Reading.step filter) .start
  calc (read filter text).2
      = last.faultsWith [] := by simp [Reading.faultsWith, blocksOf, Phase.faults_nil, read, last]
    _ = Reading.start.faultsWith (linesOf text) := Reading.foldl_faultsWith .start _
    _ = ((blocksOf (linesOf text)).map Block.faults).sum := by
      simp [Reading.faultsWith, Reading.start, Phase.faults]

/-- A dump has the registrations of its blocks, and as many faults as its blocks have together. -/
theorem read_blocks (filter : ListenerFilter) (text : String) :
    (∀ r, r ∈ (read filter text).1.elements ↔ ∃ block ∈ blocksOf (linesOf text), block.Registers filter r) ∧
    (read filter text).2 = ((blocksOf (linesOf text)).map Block.faults).sum :=
  ⟨fun _ => mem_read_iff, read_faults filter text⟩

end WatchTrial.Dump
