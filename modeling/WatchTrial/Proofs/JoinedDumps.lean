import WatchTrial.Proofs.DumpBlocks
/-!
# Dumps that are put together

No state of the reading is carried over from one block of a dump to the next. Where two dumps are joined by a
blank line, or by a line feed before a marker line, the blocks are those of both dumps, so the snapshots are united
and the faults add up. A snapshot depends on which blocks a dump has, not on their order or on how often each is there.
-/
namespace WatchTrial

def Snapshot.union (s t : Snapshot) : Snapshot := ofList (s.elements ++ t.elements)

private theorem Snapshot.mem_union {s t : Snapshot} {r : Registration} :
    r ∈ (s.union t).elements ↔ r ∈ s.elements ∨ r ∈ t.elements := by
  rw [union, mem_ofList, List.mem_append]

namespace Dump

/-- The first line of a text is a marker line. -/
def StartsBlock (text : String) : Prop := ∃ line ∈ (linesOf text).head?, Line.IsMarker line

instance : DecidablePred StartsBlock := fun text =>
  inferInstanceAs (Decidable (∃ line ∈ (linesOf text).head?, Line.IsMarker line))

/-- Some text with further texts below it, each on lines of its own. -/
def assemble (lead : String) (parts : List String) : String := parts.foldl (· ++ "\n" ++ ·) lead

private theorem linesOf_append (above below : String) :
    linesOf (above ++ "\n" ++ below) = linesOf above ++ linesOf below := by
  have htext : (above ++ "\n" ++ below).toList = above.toList ++ '\n' :: below.toList := by
    simp [String.toList_append]
  rw [linesOf, htext, Text.lines_append, List.map_append]
  rfl

private theorem linesOf_blank_append (above below : String) :
    linesOf (above ++ "\n\n" ++ below) = linesOf above ++ [] :: linesOf below := by
  have htext : above ++ "\n\n" ++ below = above ++ "\n" ++ ("" ++ "\n" ++ below) := by
    rw [String.append_assoc, String.append_assoc, String.append_assoc]
    rfl
  have hempty : linesOf "" = [[]] := by decide
  rw [htext, linesOf_append, linesOf_append, hempty, List.singleton_append]

private theorem blocksOf_append_cons (above : List Line) {line : Line} (below : List Line) (h : ¬ line.IsContent) :
    blocksOf (above ++ line :: below) = blocksOf above ++ blocksOf (line :: below) := by
  induction above with
  | nil => rfl
  | cons first rest ih =>
    -- the body of a block above does not reach as far as the line
    have hbody : (rest ++ line :: below).takeWhile (·.IsContent) = rest.takeWhile (·.IsContent) := by
      rw [List.takeWhile_append]
      split
      next hall =>
        rw [List.takeWhile_cons_of_neg (by simpa using h), List.append_nil]
        exact ((List.takeWhile_prefix _).eq_of_length hall).symm
      next => rfl
    rw [List.cons_append, blocksOf, blocksOf, ih, hbody]
    split <;> rfl

private theorem blocksOf_blank_append (above below : String) :
    blocksOf (linesOf (above ++ "\n\n" ++ below)) = blocksOf (linesOf above) ++ blocksOf (linesOf below) := by
  have hblank : blocksOf ([] :: linesOf below) = blocksOf (linesOf below) := by
    rw [blocksOf, if_neg (by decide)]
  rw [linesOf_blank_append, blocksOf_append_cons _ _ (by decide), hblank]

private theorem blocksOf_marker_append (above : String) {below : String} (h : StartsBlock below) :
    blocksOf (linesOf (above ++ "\n" ++ below)) = blocksOf (linesOf above) ++ blocksOf (linesOf below) := by
  obtain ⟨line, hline, hmarker⟩ := h
  obtain ⟨rest, hrest⟩ := List.head?_eq_some_iff.mp hline
  rw [linesOf_append, hrest]
  exact blocksOf_append_cons _ _ fun hcontent => hcontent.1 hmarker

private theorem blocksOf_assemble (lead : String) {parts : List String} (h : ∀ part ∈ parts, StartsBlock part) :
    blocksOf (linesOf (assemble lead parts)) =
      blocksOf (linesOf lead) ++ parts.flatMap fun part => blocksOf (linesOf part) := by
  induction parts generalizing lead with
  | nil => simp [assemble]
  | cons part rest ih =>
    obtain ⟨hpart, hrest⟩ := List.forall_mem_cons.mp h
    rw [assemble, List.foldl_cons]
    change blocksOf (linesOf (assemble _ rest)) = _
    rw [ih _ hrest, blocksOf_marker_append lead hpart, List.flatMap_cons, List.append_assoc]

variable {filter : ListenerFilter} {text text' above below : String}

/-- A dump with the blocks of two dumps has what these have together. -/
theorem read_of_blocks_append
    (h : blocksOf (linesOf text) = blocksOf (linesOf above) ++ blocksOf (linesOf below)) :
    read filter text =
      ((read filter above).1.union (read filter below).1, (read filter above).2 + (read filter below).2) := by
  refine Prod.ext (Snapshot.eq_of_mem_iff fun r => ?_) ?_
  · simp only [Snapshot.mem_union, mem_read_iff, h, List.mem_append, or_and_right, exists_or]
  · simp only [read_faults, h, List.map_append, List.sum_append]

/-- A snapshot only depends on which blocks there are. -/
theorem read_snapshot_congr (h : ∀ block, block ∈ blocksOf (linesOf text) ↔ block ∈ blocksOf (linesOf text')) :
    (read filter text).1 = (read filter text').1 :=
  Snapshot.eq_of_mem_iff fun r => by simp only [mem_read_iff, h]

/-- Two dumps that are joined by a blank line, or by a line feed when the second starts with a marker, have the
registrations of both and their faults together. Therefore the order of blocks, and blocks that are there more than
once, make no difference to a snapshot: not if texts that start with a marker are put together in another way, and
neither for any two dumps that have the same blocks. -/
theorem read_joined (filter : ListenerFilter) :
    (∀ above below, read filter (above ++ "\n\n" ++ below) =
      ((read filter above).1.union (read filter below).1, (read filter above).2 + (read filter below).2)) ∧
    (∀ above below, StartsBlock below → read filter (above ++ "\n" ++ below) =
      ((read filter above).1.union (read filter below).1, (read filter above).2 + (read filter below).2)) ∧
    (∀ lead parts parts', (∀ part ∈ parts, StartsBlock part) → (∀ part, part ∈ parts' ↔ part ∈ parts) →
      (read filter (assemble lead parts')).1 = (read filter (assemble lead parts)).1) ∧
    (∀ text text', (∀ block, block ∈ blocksOf (linesOf text') ↔ block ∈ blocksOf (linesOf text)) →
      (read filter text').1 = (read filter text).1) := by
  refine ⟨fun above below => read_of_blocks_append (blocksOf_blank_append above below),
    fun above below h => read_of_blocks_append (blocksOf_marker_append above h),
    fun lead parts parts' hparts hsame => read_snapshot_congr fun block => ?_,
    fun text text' h => read_snapshot_congr h⟩
  have hparts' : ∀ part ∈ parts', StartsBlock part := fun part hpart => hparts part ((hsame part).mp hpart)
  rw [blocksOf_assemble lead hparts, blocksOf_assemble lead hparts']
  simp only [List.mem_append, List.mem_flatMap, hsame]

theorem read_joined_light_gyro :
    let light := "Connection Number: 0\norg.a | pid\nLight | x"
    let gyro := "Connection Number: 1\norg.b | pid\n | 0x1\nGyro"
    StartsBlock light ∧ StartsBlock gyro ∧
      read .none (light ++ "\n" ++ gyro) =
        ((read .none light).1.union (read .none gyro).1, (read .none light).2 + (read .none gyro).2) ∧
      (read .none (assemble "" [gyro, light, gyro])).1 = (read .none (assemble "" [light, gyro])).1 ∧
      ((read .none light).1.union (read .none gyro).1).elements = [⟨"Light", "org.a"⟩, ⟨"Gyro", "org.b"⟩] ∧
      (read .none light).2 + (read .none gyro).2 = 1 := by
  intro light gyro
  have hlight : StartsBlock light := by decide +kernel
  have hgyro : StartsBlock gyro := by decide +kernel
  obtain ⟨-, hmarker, hparts, -⟩ := read_joined .none
  refine ⟨hlight, hgyro, hmarker light gyro hgyro, hparts "" [light, gyro] [gyro, light, gyro] ?_ ?_, ?_, ?_⟩
  · simp [hlight, hgyro]
  · simp [or_comm]
  · decide +kernel
  · decide +kernel

end Dump

end WatchTrial
