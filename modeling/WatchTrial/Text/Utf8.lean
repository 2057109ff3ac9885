/-!
# Bytes as text

Bytes that are no text are shown as the replacement character, one for each byte. A reader that has to know
about them takes the bytes in pieces instead.
-/
namespace WatchTrial.Text

/-- The replacement character. -/
def replacement : Char := '\ufffd'

/-- The low six bits of a byte that continues a character. -/
def continuation? (b : UInt8) : Option Nat :=
  if 0x80 ≤ b ∧ b < 0xc0 then some (b.toNat - 0x80) else none

/-- The character that bytes start with and how many bytes it takes, if they start with one. -/
def firstChar? : List UInt8 → Option (Char × Nat)
  | [] => none
  | b :: rest =>
    if b < 0x80 then some (Char.ofNat b.toNat, 1)
    else
      match rest.map continuation? with
      | some c :: more =>
        if 0xc2 ≤ b ∧ b < 0xe0 then some (Char.ofNat ((b.toNat - 0xc0) * 64 + c), 2)
        else
          match more with
          | some d :: more =>
            let n := ((b.toNat - 0xe0) * 64 + c) * 64 + d
            if 0xe0 ≤ b ∧ b < 0xf0 then
              if 0x800 ≤ n ∧ ¬ (0xd800 ≤ n ∧ n < 0xe000) then some (Char.ofNat n, 3) else none
            else
              match more with
              | some e :: _ =>
                let n := (((b.toNat - 0xf0) * 64 + c) * 64 + d) * 64 + e
                if 0xf0 ≤ b ∧ b < 0xf5 ∧ 0x10000 ≤ n ∧ n < 0x110000 then some (Char.ofNat n, 4) else none
              | _ => none
          | _ => none
      | _ => none

/-- A character, or a byte that is part of none. -/
inductive Piece where
  | char (c : Char)
  | stray (byte : UInt8)
deriving Repr, DecidableEq, Inhabited

namespace Piece

/-- The character that a piece is shown as. -/
def shown : Piece → Char
  | char c => c
  | stray _ => replacement

def width : Piece → Nat
  | char c => c.utf8Size
  | stray _ => 1

def bytes : Piece → List UInt8
  | char c => c.toString.toUTF8.toList
  | stray byte => [byte]

end Piece

/-- The pieces of bytes after those in `seen`, the latest first. The first argument counts bytes that
belong to the piece before. -/
def gatherPieces : (skip : Nat) → (seen : List Piece) → List UInt8 → List Piece
  | _, seen, [] => seen.reverse
  | skip + 1, seen, _ :: rest => gatherPieces skip seen rest
  | 0, seen, b :: rest =>
    match firstChar? (b :: rest.take 3) with
    | some (c, width) => gatherPieces (width - 1) (.char c :: seen) rest
    | none => gatherPieces 0 (.stray b :: seen) rest

def piecesOf (bytes : List UInt8) : List Piece := gatherPieces 0 [] bytes

def charsOfBytes (bytes : List UInt8) : List Char := (piecesOf bytes).map Piece.shown

/-- The text of bytes. -/
def ofBytes (bytes : List UInt8) : String :=
  String.ofList (charsOfBytes bytes)

end WatchTrial.Text
