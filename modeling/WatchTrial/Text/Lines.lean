/-!
# Lines of a text

Two readings of a text as lines. `lines` cuts at every line feed. `scanLines` is the buffered
reading of a stream: it drops one carriage return at the end of each line, has no line after a final
line feed, and gives up at the first line that does not fit into its buffer.
-/
namespace WatchTrial.Text

/-- The pieces between line feeds; there is always at least one. -/
def lines (cs : List Char) : List (List Char) :=
  cs.splitOn '\n'

theorem lines_of_not_mem {line : List Char} (h : '\n' ∉ line) : lines line = [line] := by
  refine List.splitOnP_eq_singleton fun c hc => ?_
  rw [beq_eq_false_iff_ne]
  exact fun heq => h (heq ▸ hc)

theorem lines_append (above below : List Char) :
    lines (above ++ '\n' :: below) = lines above ++ lines below :=
  List.splitOnP_append_cons above below (beq_self_eq_true '\n')

/-- Number of bytes of a text in UTF-8. -/
def byteLength (cs : List Char) : Nat :=
  cs.foldl (fun n c => n + c.utf8Size) 0

theorem byteLength_cons (c : Char) (cs : List Char) : byteLength (c :: cs) = c.utf8Size + byteLength cs := by
  have hfrom (n : Nat) (cs : List Char) : cs.foldl (fun n c => n + c.utf8Size) n = n + byteLength cs := by
    unfold byteLength
    induction cs generalizing n with
    | nil => rfl
    | cons c rest ih =>
      rw [List.foldl_cons, List.foldl_cons, ih, ih (0 + c.utf8Size)]
      omega
  rw [byteLength, List.foldl_cons, hfrom, Nat.zero_add]

theorem byteLength_append (a b : List Char) : byteLength (a ++ b) = byteLength a + byteLength b := by
  induction a with
  | nil => exact (Nat.zero_add _).symm
  | cons c rest ih => rw [List.cons_append, byteLength_cons, ih, byteLength_cons, Nat.add_assoc]

theorem byteLength_eq_utf8ByteSize (cs : List Char) : byteLength cs = (String.ofList cs).utf8ByteSize := by
  induction cs with
  | nil => rfl
  | cons c rest ih =>
    have hsplit : String.ofList (c :: rest) = String.singleton c ++ String.ofList rest := by
      rw [String.singleton_eq_ofList, ← String.ofList_append, List.singleton_append]
    rw [byteLength_cons, ih, hsplit, String.utf8ByteSize_append, String.utf8ByteSize_singleton]

/-- Bytes that a line read from a stream has to stay below, its line feed not counted. -/
def lineCapacity : Nat := 65536

/-- A line without one final carriage return. -/
def dropReturn (line : List Char) : List Char :=
  match line.reverse with
  | '\r' :: front => front.reverse
  | _ => line

structure Scan where
  /-- The lines before the reading ended. -/
  lines : List (List Char)
  /-- Whether the reading ended at a line beyond the buffer. -/
  overflow : Bool
deriving Repr, DecidableEq

/-- Reads the pieces between line feeds; the last one is a line only if it is not empty. -/
def scanPieces : List (List Char) → Scan
  | [] => ⟨[], false⟩
  | [last] =>
    if last.isEmpty then ⟨[], false⟩
    else if lineCapacity ≤ byteLength last then ⟨[], true⟩
    else ⟨[dropReturn last], false⟩
  | line :: rest =>
    if lineCapacity ≤ byteLength line then ⟨[], true⟩
    else
      let tail := scanPieces rest
      ⟨dropReturn line :: tail.lines, tail.overflow⟩

/-- Reads a stream line by line through a buffer of `lineCapacity` bytes. -/
def scanLines (cs : List Char) : Scan :=
  scanPieces (lines cs)

end WatchTrial.Text
