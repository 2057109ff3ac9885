import WatchTrial.Device.Listing
import WatchTrial.Proofs.DisplaySizes
import WatchTrial.Proofs.DumpBlocks
/-!
# Line ends

Some devices end their lines with a carriage return and a line feed. Every reader of such a text takes the returns off
the lines, alone or with all blanks, before it looks at what a line says. So a text and the same text with returns are
read in the same way.
-/
namespace WatchTrial

namespace Text

def returnChars (cs : List Char) : List Char :=
  cs.flatMap fun c => if c = '\n' then ['\r', '\n'] else [c]

def withReturns (text : String) : String := String.ofList (returnChars text.toList)

private theorem returnChars_of_not_mem {line : List Char} (h : '\n' ∉ line) : returnChars line = line := by
  induction line with
  | nil => rfl
  | cons c rest ih =>
    obtain ⟨hc, hrest⟩ := not_or.mp (mt List.mem_cons.mpr h)
    have hmore := ih hrest
    unfold returnChars at hmore ⊢
    rw [List.flatMap_cons, hmore, if_neg (Ne.symm hc), List.singleton_append]

private theorem returnChars_line {line : List Char} (h : '\n' ∉ line) (rest : List Char) :
    returnChars (line ++ '\n' :: rest) = (line ++ ['\r']) ++ '\n' :: returnChars rest := by
  have hline := returnChars_of_not_mem h
  unfold returnChars at hline ⊢
  rw [List.flatMap_append, hline, List.flatMap_cons]
  simp

private theorem map_lines_withReturns {α : Type} {f : List Char → α} (hf : ∀ line, f (line ++ ['\r']) = f line)
    (text : String) : (lines (withReturns text).toList).map f = (lines text.toList).map f := by
  rw [withReturns, String.toList_ofList]
  induction text.toList using line_induction with
  | last line hline => rw [returnChars_of_not_mem hline]
  | above line rest hline ih =>
    have hreturned : '\n' ∉ line ++ ['\r'] := by simpa using hline
    rw [returnChars_line hline, lines_cons hreturned, lines_cons hline, List.map_cons, List.map_cons, ih, hf]

private theorem map_trimChars_withReturns (text : String) :
    (lines (withReturns text).toList).map trimChars = (lines text.toList).map trimChars :=
  map_lines_withReturns trimChars_return text

end Text

open Text

private theorem Dump.linesOf_withReturns (text : String) : linesOf (withReturns text) = linesOf text := by
  apply map_lines_withReturns
  intro line
  exact dropEndWhile_append_of_pos (List.forall_mem_singleton.mpr rfl)

private theorem packageListed_withReturns (listing pkg : String) :
    packageListed (withReturns listing) pkg = packageListed listing pkg := by
  have hany (text : String) : packageListed text pkg =
      ((lines text.toList).map trimChars).any (· == ("package:" ++ pkg).toList) := by
    rw [packageListed, List.any_map]
    rfl
  rw [hany, hany, map_trimChars_withReturns]

private theorem DisplaySize.sizeText_withReturns (answer : String) :
    sizeText (withReturns answer) = sizeText answer := by
  have hlast (words text : String) : lastSize words text =
      (((lines text.toList).map trimChars).filterMap fun line =>
        (afterStart words.toList line).map trimChars).getLast?.getD [] := by
    rw [lastSize, List.filterMap_map]
    rfl
  simp only [sizeText, hlast, map_trimChars_withReturns]

/-- A dump, a listing of packages, the output of an installation and the answer to the question for the display size
say the same whether their lines end with a line feed or with a return before it. -/
theorem read_alike_with_returns (text : String) :
    (∀ filter, Dump.read filter (withReturns text) = Dump.read filter text) ∧
    (∀ pkg, packageListed (withReturns text) pkg = packageListed text pkg) ∧
    installFailure? (withReturns text) = installFailure? text ∧
    ∀ size, DisplaySize.read (withReturns text) = .ok size ↔ DisplaySize.read text = .ok size := by
  refine ⟨fun filter => ?_, packageListed_withReturns text, ?_, fun size => ?_⟩
  · apply Prod.ext
    · apply Snapshot.eq_of_mem_iff
      intro r
      rw [Dump.mem_read_iff, Dump.mem_read_iff, Dump.linesOf_withReturns]
    · rw [Dump.read_faults, Dump.read_faults, Dump.linesOf_withReturns]
  · rw [installFailure?, map_trimChars_withReturns, installFailure?]
  · rw [DisplaySize.read_ok_iff, DisplaySize.read_ok_iff, DisplaySize.sizeText_withReturns]

end WatchTrial
