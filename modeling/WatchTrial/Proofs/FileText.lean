import Mathlib.Tactic.SplitIfs
import WatchTrial.Face.Labels
import WatchTrial.Proofs.ByteOrder
import WatchTrial.Proofs.PackageLists
/-!
# The text of files

A file holds bytes, and a text is read from the pieces that these come in. The first piece is a character just when
the bytes start with its encoding. So a text that was written is read as it is, no byte is lost, and as no encoding but
its own has a line feed in it, the lines of a file are read apart from each other.
-/
namespace WatchTrial.Text

section Characters

variable {b x y z : UInt8} {i j k n : Nat} {rest : List UInt8}

private theorem continuation?_eq_some_iff : continuation? b = some n ↔ n < 64 ∧ b.toNat = n + 128 := by
  simp only [continuation?, UInt8.le_iff_toNat_le, UInt8.lt_iff_toNat_lt, UInt8.toNat_ofNat]
  split <;> simp <;> omega

private theorem continuation?_ofNat (n : Nat) : continuation? (UInt8.ofNat (n % 64 + 128)) = some (n % 64) := by
  rw [continuation?_eq_some_iff, UInt8.toNat_ofNat']
  omega

private theorem firstChar?_one (hb : b.toNat < 0x80) : firstChar? (b :: rest) = some (Char.ofNat b.toNat, 1) := by
  rw [firstChar?, if_pos (UInt8.lt_iff_toNat_lt.mpr hb)]

private theorem firstChar?_two (hb : 0xc2 ≤ b.toNat ∧ b.toNat < 0xe0) (hx : continuation? x = some i) :
    firstChar? (b :: x :: rest) = some (Char.ofNat ((b.toNat - 0xc0) * 64 + i), 2) := by
  simp only [firstChar?, List.map_cons, hx, UInt8.le_iff_toNat_le, UInt8.lt_iff_toNat_lt, UInt8.toNat_ofNat]
  rw [if_neg (by omega), if_pos (by omega)]

private theorem firstChar?_three (hb : 0xe0 ≤ b.toNat ∧ b.toNat < 0xf0) (hx : continuation? x = some i)
    (hy : continuation? y = some j) (hn : n = ((b.toNat - 0xe0) * 64 + i) * 64 + j)
    (hscalar : 0x800 ≤ n ∧ ¬ (0xd800 ≤ n ∧ n < 0xe000)) :
    firstChar? (b :: x :: y :: rest) = some (Char.ofNat n, 3) := by
  simp only [firstChar?, List.map_cons, hx, hy, UInt8.le_iff_toNat_le, UInt8.lt_iff_toNat_lt, UInt8.toNat_ofNat, ← hn]
  rw [if_neg (by omega), if_neg (by omega), if_pos (by omega), if_pos hscalar]

private theorem firstChar?_four (hb : 0xf0 ≤ b.toNat ∧ b.toNat < 0xf5) (hx : continuation? x = some i)
    (hy : continuation? y = some j) (hz : continuation? z = some k)
    (hn : n = (((b.toNat - 0xf0) * 64 + i) * 64 + j) * 64 + k) (hscalar : 0x10000 ≤ n ∧ n < 0x110000) :
    firstChar? (b :: x :: y :: z :: rest) = some (Char.ofNat n, 4) := by
  simp only [firstChar?, List.map_cons, hx, hy, hz, UInt8.le_iff_toNat_le, UInt8.lt_iff_toNat_lt, UInt8.toNat_ofNat,
    ← hn]
  rw [if_neg (by omega), if_neg (by omega), if_neg (by omega), if_pos (by omega)]

private theorem firstChar?_encode (c : Char) (rest : List UInt8) :
    firstChar? (String.utf8EncodeChar c ++ rest) = some (c, c.utf8Size) := by
  have hvalid : c.toNat < 0xd800 ∨ 0xdfff < c.toNat ∧ c.toNat < 0x110000 := c.valid
  rw [← String.length_utf8EncodeChar, String.utf8EncodeChar]
  simp only [Char.toNat_val]
  split_ifs with h₁ h₂ h₃
  · have hb : (UInt8.ofNat c.toNat).toNat = c.toNat := by
      rw [UInt8.toNat_ofNat']
      omega
    rw [List.cons_append, firstChar?_one (by omega), hb, Char.ofNat_toNat]
    rfl
  · have hb : (UInt8.ofNat (c.toNat / 64 % 32 + 192)).toNat = c.toNat / 64 + 192 := by
      rw [UInt8.toNat_ofNat']
      omega
    have hn : (c.toNat / 64 + 192 - 0xc0) * 64 + c.toNat % 64 = c.toNat := by omega
    rw [List.cons_append, List.cons_append, firstChar?_two (by omega) (continuation?_ofNat _), hb, hn,
      Char.ofNat_toNat]
    rfl
  · have hb : (UInt8.ofNat (c.toNat / 4096 % 16 + 224)).toNat = c.toNat / 4096 + 224 := by
      rw [UInt8.toNat_ofNat']
      omega
    rw [List.cons_append, List.cons_append, List.cons_append, firstChar?_three (n := c.toNat) (by omega)
      (continuation?_ofNat _) (continuation?_ofNat _) (by omega) (by omega), Char.ofNat_toNat]
    rfl
  · have hb : (UInt8.ofNat (c.toNat / 262144 % 8 + 240)).toNat = c.toNat / 262144 + 240 := by
      rw [UInt8.toNat_ofNat']
      omega
    rw [List.cons_append, List.cons_append, List.cons_append, List.cons_append, firstChar?_four (n := c.toNat)
      (by omega) (continuation?_ofNat _) (continuation?_ofNat _) (continuation?_ofNat _) (by omega) (by omega),
      Char.ofNat_toNat]
    rfl

private theorem encode_ofNat (h : n < 0xd800 ∨ 0xe000 ≤ n ∧ n < 0x110000) : String.utf8EncodeChar (Char.ofNat n) =
    if n ≤ 127 then [UInt8.ofNat n]
    else if n ≤ 2047 then [UInt8.ofNat (n / 64 % 32 + 192), UInt8.ofNat (n % 64 + 128)]
    else if n ≤ 65535 then
      [UInt8.ofNat (n / 4096 % 16 + 224), UInt8.ofNat (n / 64 % 64 + 128), UInt8.ofNat (n % 64 + 128)]
    else
      [UInt8.ofNat (n / 262144 % 8 + 240), UInt8.ofNat (n / 4096 % 64 + 128), UInt8.ofNat (n / 64 % 64 + 128),
        UInt8.ofNat (n % 64 + 128)] := by
  have hvalid : n.isValidChar := by
    simp only [Nat.isValidChar]
    omega
  rw [Char.ofNat, dif_pos hvalid]
  rfl

private theorem ofNat_eq_iff : UInt8.ofNat n = b ↔ n % 256 = b.toNat := by
  rw [← UInt8.toNat_inj, UInt8.toNat_ofNat']

private theorem encode_two (hb : 0xc2 ≤ b.toNat ∧ b.toNat < 0xe0) (hx : continuation? x = some i) :
    String.utf8EncodeChar (Char.ofNat ((b.toNat - 0xc0) * 64 + i)) = [b, x] := by
  rw [continuation?_eq_some_iff] at hx
  rw [encode_ofNat (by omega), if_neg (by omega), if_pos (by omega)]
  simp only [List.cons.injEq, ofNat_eq_iff, and_true]
  omega

private theorem encode_three (hb : 0xe0 ≤ b.toNat ∧ b.toNat < 0xf0) (hx : continuation? x = some i)
    (hy : continuation? y = some j) (hn : n = ((b.toNat - 0xe0) * 64 + i) * 64 + j)
    (hscalar : 0x800 ≤ n ∧ ¬ (0xd800 ≤ n ∧ n < 0xe000)) : String.utf8EncodeChar (Char.ofNat n) = [b, x, y] := by
  rw [continuation?_eq_some_iff] at hx hy
  rw [encode_ofNat (by omega), if_neg (by omega), if_neg (by omega), if_pos (by omega)]
  simp only [List.cons.injEq, ofNat_eq_iff, and_true]
  omega

private theorem encode_four (hb : 0xf0 ≤ b.toNat ∧ b.toNat < 0xf5) (hx : continuation? x = some i)
    (hy : continuation? y = some j) (hz : continuation? z = some k)
    (hn : n = (((b.toNat - 0xf0) * 64 + i) * 64 + j) * 64 + k) (hscalar : 0x10000 ≤ n ∧ n < 0x110000) :
    String.utf8EncodeChar (Char.ofNat n) = [b, x, y, z] := by
  rw [continuation?_eq_some_iff] at hx hy hz
  rw [encode_ofNat (by omega), if_neg (by omega), if_neg (by omega), if_neg (by omega)]
  simp only [List.cons.injEq, ofNat_eq_iff, and_true]
  omega

private theorem encode_of_firstChar? {bytes : List UInt8} {c : Char} {width : Nat}
    (h : firstChar? bytes = some (c, width)) : String.utf8EncodeChar c <+: bytes ∧ width = c.utf8Size := by
  suffices hlead : ∃ lead, lead <+: bytes ∧ String.utf8EncodeChar c = lead ∧ width = lead.length by
    obtain ⟨lead, hlead, rfl, rfl⟩ := hlead
    exact ⟨hlead, String.length_utf8EncodeChar c⟩
  revert h
  fun_cases firstChar? bytes with
  | case2 b rest hb =>
    rintro ⟨⟩
    rw [UInt8.lt_iff_toNat_lt] at hb
    refine ⟨[b], ⟨rest, rfl⟩, ?_, rfl⟩
    rw [encode_ofNat (.inl (Nat.lt_trans hb (by decide))), if_pos (Nat.le_of_lt_succ hb), UInt8.ofNat_toNat]
  | case3 b rest _ i _ hmap hb =>
    rintro ⟨⟩
    obtain ⟨x, rest, rfl, hx, -⟩ := List.map_eq_cons_iff.mp hmap
    exact ⟨[b, x], ⟨rest, rfl⟩, encode_two hb hx, rfl⟩
  | case4 b rest _ i _ j _ n hb hscalar hmap =>
    rintro ⟨⟩
    obtain ⟨x, rest, rfl, hx, hmap⟩ := List.map_eq_cons_iff.mp hmap
    obtain ⟨y, rest, rfl, hy, -⟩ := List.map_eq_cons_iff.mp hmap
    exact ⟨[b, x, y], ⟨rest, rfl⟩, encode_three hb hx hy rfl hscalar, rfl⟩
  | case6 b rest _ i _ j _ k _ n hb hmap =>
    rintro ⟨⟩
    obtain ⟨x, rest, rfl, hx, hmap⟩ := List.map_eq_cons_iff.mp hmap
    obtain ⟨y, rest, rfl, hy, hmap⟩ := List.map_eq_cons_iff.mp hmap
    obtain ⟨z, rest, rfl, hz, -⟩ := List.map_eq_cons_iff.mp hmap
    exact ⟨[b, x, y, z], ⟨rest, rfl⟩, encode_four ⟨hb.1, hb.2.1⟩ hx hy hz rfl hb.2.2, rfl⟩
  | _ => rintro ⟨⟩

private theorem firstChar?_eq_some_iff {bytes : List UInt8} {c : Char} {width : Nat} :
    firstChar? bytes = some (c, width) ↔ String.utf8EncodeChar c <+: bytes ∧ width = c.utf8Size := by
  refine ⟨encode_of_firstChar?, ?_⟩
  rintro ⟨⟨rest, rfl⟩, rfl⟩
  exact firstChar?_encode c rest

private theorem lineFeed_mem_encode {c : Char} (h : 10 ∈ String.utf8EncodeChar c) : c = '\n' := by
  have hvalid : c.toNat < 0xd800 ∨ 0xdfff < c.toNat ∧ c.toNat < 0x110000 := c.valid
  rw [String.utf8EncodeChar] at h
  simp only [Char.toNat_val] at h
  have hten (n : Nat) : (10 : UInt8) = UInt8.ofNat n ↔ n % 256 = 10 := eq_comm.trans ofNat_eq_iff
  split_ifs at h <;> simp only [List.mem_cons, List.not_mem_nil, hten, or_false] at h
  · rw [← Char.ofNat_toNat c, show c.toNat = 10 by omega]
  all_goals omega

end Characters

section Pieces

private theorem gatherPieces_eq (skip : Nat) (seen : List Piece) (bytes : List UInt8) :
    gatherPieces skip seen bytes = seen.reverse ++ piecesOf (bytes.drop skip) := by
  unfold piecesOf
  induction bytes generalizing skip seen with
  | nil => cases skip <;> simp [gatherPieces]
  | cons b rest ih =>
    cases skip with
    | succ skip => rw [gatherPieces, ih, List.drop_succ_cons]
    | zero =>
      rw [List.drop_zero, gatherPieces, gatherPieces]
      split
      · rw [ih, ih _ [_]]
        simp
      · rw [ih, ih _ [_]]
        simp

private theorem firstChar?_take (bytes : List UInt8) : firstChar? (bytes.take 4) = firstChar? bytes := by
  refine Option.ext fun ⟨c, width⟩ => ?_
  have hlength : (String.utf8EncodeChar c).length ≤ 4 := by
    rw [String.length_utf8EncodeChar]
    exact Char.utf8Size_le_four c
  rw [firstChar?_eq_some_iff, firstChar?_eq_some_iff, List.prefix_take_iff, and_iff_left hlength]

private theorem piecesOf_encode (c : Char) (rest : List UInt8) :
    piecesOf (String.utf8EncodeChar c ++ rest) = .char c :: piecesOf rest := by
  have hfirst := firstChar?_encode c rest
  rw [← firstChar?_take] at hfirst
  rw [← String.length_utf8EncodeChar] at hfirst
  unfold piecesOf
  cases hencode : String.utf8EncodeChar c with
  | nil => exact absurd hencode String.utf8EncodeChar_ne_nil
  | cons b more =>
    rw [hencode, List.cons_append, List.take_succ_cons] at hfirst
    rw [List.cons_append, gatherPieces, hfirst]
    dsimp only
    rw [gatherPieces_eq, List.length_cons, Nat.add_sub_cancel, List.drop_left]
    rfl

private theorem piecesOf_stray {b : UInt8} {rest : List UInt8} (h : firstChar? (b :: rest) = none) :
    piecesOf (b :: rest) = .stray b :: piecesOf rest := by
  rw [← firstChar?_take, List.take_succ_cons] at h
  rw [piecesOf, gatherPieces, h]
  dsimp only
  rw [gatherPieces_eq]
  rfl

private theorem bytes_induction {motive : List UInt8 → Prop} (nil : motive [])
    (char : ∀ c rest, motive rest → motive (String.utf8EncodeChar c ++ rest))
    (stray : ∀ b rest, firstChar? (b :: rest) = none → motive rest → motive (b :: rest)) (bytes : List UInt8) :
    motive bytes := by
  induction hlength : bytes.length using Nat.strongRecOn generalizing bytes with
  | ind n ih =>
    cases bytes with
    | nil => exact nil
    | cons b rest =>
      cases hfirst : firstChar? (b :: rest) with
      | none => exact stray b rest hfirst (ih rest.length (hlength ▸ Nat.lt_succ_self _) rest rfl)
      | some found =>
        obtain ⟨more, hmore⟩ := (encode_of_firstChar? hfirst).1
        have hpos := List.length_pos_iff.mpr (String.utf8EncodeChar_ne_nil (c := found.1))
        rw [← hmore, List.length_append] at hlength
        exact hmore ▸ char found.1 more (ih more.length (by omega) more rfl)

/-- The loop over the bytes of a file has gathered those that it came past. -/
private theorem gathered_bytes (content : ByteArray) (i : Nat) (seen : List UInt8)
    (hseen : seen.reverse = content.data.toList.take i) :
    ByteArray.toList.loop content i seen = content.data.toList := by
  fun_induction ByteArray.toList.loop content i seen with
  | case1 i seen hi ih =>
    have hlength : i < content.data.toList.length := hi
    have hbyte : content.get! i = content.data.toList[i] := by
      rw [ByteArray.get!, getElem!_pos content.data i hi, Array.getElem_toList]
    apply ih
    rw [List.reverse_cons, hseen, hbyte, List.take_append_getElem hlength]
  | case2 i seen hi =>
    rw [hseen, List.take_of_length_le (Nat.le_of_not_lt hi)]

private theorem toList_toUTF8 (s : String) : s.toUTF8.toList = bytes s := gathered_bytes s.toUTF8 0 [] rfl

private theorem bytes_char (c : Char) : (Piece.char c).bytes = String.utf8EncodeChar c := by
  rw [Piece.bytes, toList_toUTF8, bytes_eq]
  simp

/-- Nothing is lost when bytes are taken in pieces. -/
theorem flatMap_bytes_piecesOf (bytes : List UInt8) : (piecesOf bytes).flatMap Piece.bytes = bytes := by
  induction bytes using bytes_induction with
  | nil => rfl
  | char c rest ih => rw [piecesOf_encode, List.flatMap_cons, ih, bytes_char]
  | stray b rest h ih =>
    rw [piecesOf_stray h, List.flatMap_cons, ih]
    rfl

theorem piecesOf_bytes (s : String) : piecesOf (bytes s) = s.toList.map .char := by
  rw [bytes_eq]
  induction s.toList with
  | nil => rfl
  | cons c rest ih => rw [List.flatMap_cons, piecesOf_encode, ih, List.map_cons]

theorem ofBytes_bytes (s : String) : ofBytes (bytes s) = s := by
  have hshown : Piece.shown ∘ Piece.char = id := rfl
  rw [ofBytes, charsOfBytes, piecesOf_bytes, List.map_map, hshown, List.map_id, String.ofList_toList]

private theorem firstChar?_append_lineFeed (b : UInt8) (rest after : List UInt8) :
    firstChar? (b :: (rest ++ 10 :: after)) = firstChar? (b :: rest) := by
  refine Option.ext fun ⟨c, width⟩ => ?_
  rw [firstChar?_eq_some_iff, firstChar?_eq_some_iff, and_congr_left_iff]
  intro _
  refine ⟨fun h => ?_, fun h => h.trans (List.prefix_append (b :: rest) _)⟩
  by_cases hlength : (String.utf8EncodeChar c).length ≤ (b :: rest).length
  · exact List.prefix_of_prefix_length_le h (List.prefix_append (b :: rest) _) hlength
  · -- an encoding that went on after the line feed would have it inside
    have hline : b :: rest ++ [10] <+: b :: (rest ++ 10 :: after) := ⟨after, by simp⟩
    have hinside : 10 ∈ String.utf8EncodeChar c :=
      (List.prefix_of_prefix_length_le hline h (by simp at hlength ⊢; omega)).subset (by simp)
    rw [lineFeed_mem_encode hinside] at hlength
    exact absurd (Nat.le_add_left 1 rest.length) hlength

private theorem piecesOf_append_lineFeed (before after : List UInt8) :
    piecesOf (before ++ 10 :: after) = piecesOf before ++ .char '\n' :: piecesOf after := by
  induction before using bytes_induction with
  | nil => exact piecesOf_encode '\n' after
  | char c rest ih => rw [List.append_assoc, piecesOf_encode, ih, piecesOf_encode, List.cons_append]
  | stray b rest h ih =>
    rw [List.cons_append, piecesOf_stray ((firstChar?_append_lineFeed b rest after).trans h), ih, piecesOf_stray h,
      List.cons_append]

private theorem charsOfBytes_append_lineFeed (before after : List UInt8) :
    charsOfBytes (before ++ 10 :: after) = charsOfBytes before ++ '\n' :: charsOfBytes after := by
  rw [charsOfBytes, piecesOf_append_lineFeed, List.map_append, List.map_cons]
  rfl

private theorem lineFeed_mem_of_mem_charsOfBytes {bytes : List UInt8} (h : '\n' ∈ charsOfBytes bytes) : 10 ∈ bytes := by
  obtain ⟨piece, hpiece, hshown⟩ := List.mem_map.mp h
  rw [← flatMap_bytes_piecesOf bytes]
  refine List.mem_flatMap.mpr ⟨piece, hpiece, ?_⟩
  cases piece with
  | char c =>
    obtain rfl : c = '\n' := hshown
    rw [bytes_char]
    decide
  | stray b =>
    have hne : replacement ≠ '\n' := by decide
    exact absurd hshown hne

/-- The lines of a text are those of its bytes: a byte that is no text only concerns the line that it stands in. -/
theorem lines_charsOfBytes (bytes : List UInt8) : lines (charsOfBytes bytes) = (bytes.splitOn 10).map charsOfBytes := by
  have hsingle {line : List UInt8} (h : 10 ∉ line) : line.splitOn 10 = [line] := by
    refine List.splitOnP_eq_singleton fun b hb => ?_
    rw [beq_eq_false_iff_ne]
    exact fun heq => h (heq ▸ hb)
  have hfeed {line : List UInt8} (h : 10 ∉ line) : '\n' ∉ charsOfBytes line :=
    fun hmem => h (lineFeed_mem_of_mem_charsOfBytes hmem)
  induction bytes using split_induction (10 : UInt8) with
  | last line hline => rw [lines_of_not_mem (hfeed hline), hsingle hline, List.map_singleton]
  | above line rest hline ih =>
    have hsplit : (line ++ 10 :: rest).splitOn 10 = line.splitOn 10 ++ rest.splitOn 10 :=
      List.splitOnP_append_cons line rest (beq_self_eq_true 10)
    rw [charsOfBytes_append_lineFeed, lines_cons (hfeed hline), ih, hsplit, hsingle hline, List.singleton_append,
      List.map_cons]

end Pieces
end WatchTrial.Text

namespace WatchTrial

section Loading

variable {files : Files} {path : String} {place : Place}

theorem ApkList.load_written {text : String} (h : files.find path = .ok (place, .file text.toUTF8)) :
    load files path = read text := by
  unfold load
  rw [h]
  dsimp only
  rw [Text.toList_toUTF8, Text.ofBytes_bytes]

/-- A list file has the packages that its lines have alone, also if there are bytes that are no text in other lines. -/
theorem ApkList.mem_load_iff {content : ByteArray} {found : List String} {pkg : String}
    (h : files.find path = .ok (place, .file content)) (hfound : load files path = .ok found) :
    pkg ∈ found ↔ ∃ line ∈ content.toList.splitOn 10, read (Text.ofBytes line) = .ok [pkg] := by
  unfold load at hfound
  rw [h] at hfound
  rw [mem_read_iff hfound, Text.ofBytes, String.toList_ofList, Text.lines_charsOfBytes]
  simp only [List.mem_map, exists_exists_and_eq_and]
  rfl

theorem Labels.load_written {text : String} (h : files.find path = .ok (place, .file text.toUTF8)) :
    load files path = parse text := by
  unfold load
  rw [h]
  dsimp only
  rw [Text.toList_toUTF8, Text.ofBytes_bytes]

end Loading

end WatchTrial
