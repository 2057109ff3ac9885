import WatchTrial.Text.Utf8
/-!
# Source text of a document

A cursor stands in a text and knows the line and column it has reached. Line breaks are line feed,
carriage return, their pair, and the three Unicode line separators; the end of the text counts as a
blank and as a break.

A text is brought in block by block, when characters are asked for, so a forbidden character or a byte that
is part of none is a fault only for a reader who comes near it.
-/
namespace WatchTrial.Yaml

open Text (Piece)

/-- A position in a text, counted from zero in characters. -/
structure Position where
  index : Nat := 0
  line : Nat := 0
  column : Nat := 0
deriving Repr, DecidableEq, Inhabited

/-- Why a text is no document. Faults of tokens name the line one later than faults of structure do. -/
structure SyntaxFault where
  problem : String
  /-- Where the enclosing construct starts. -/
  context : Position := {}
  /-- Where the fault was noticed. -/
  place : Position := {}
  /-- Whether it was noticed while reading a token. -/
  inToken : Bool := false
deriving Repr, DecidableEq, Inhabited

/-- The line that is named for a fault, zero for none. -/
def SyntaxFault.line (fault : SyntaxFault) : Nat :=
  let line := if fault.context.line ≠ 0 then fault.context.line else fault.place.line
  if line ≠ 0 ∧ fault.inToken then line + 1 else line

def SyntaxFault.message (fault : SyntaxFault) : String :=
  (if fault.line = 0 then "" else "line " ++ toString fault.line ++ ": ") ++ fault.problem

/-- A block that is still to come. -/
inductive Block where
  /-- The index of the first character after it. -/
  | ends (index : Nat)
  /-- Why it cannot be brought in. -/
  | refused (problem : String)
deriving Repr, DecidableEq, Inhabited

/-- What is left of a text, where it starts, and how far the text has been brought in. -/
structure Cursor where
  rest : List Char
  mark : Position := {}
  /-- The index up to which characters have been brought in. -/
  loaded : Nat := 0
  blocks : List Block := []
  /-- Whether a byte order mark stood at the cursor when the latest block was brought in. -/
  marked : Bool := false
  /-- How many characters the whole text has. -/
  size : Nat := 0
deriving Repr, DecidableEq, Inhabited

def isSpaceOrTab (c : Char) : Bool := c == ' ' || c == '\t'

/-- Whether a character ends a line. -/
def isBreak (c : Char) : Bool :=
  c == '\r' || c == '\n' || c == '\u0085' || c == '\u2028' || c == '\u2029'

/-- Whether a character may stand in the name of an anchor or a tag handle. -/
def isNameChar (c : Char) : Bool :=
  c.isAlphanum || c == '_' || c == '-'

namespace Cursor

/-- The character `n` places ahead, if the text goes on so far. -/
def peek? (c : Cursor) (n : Nat := 0) : Option Char := c.rest[n]?

/-- Whether the character `n` places ahead is this one. -/
def sees (c : Cursor) (ch : Char) (n : Nat := 0) : Bool := c.peek? n == some ch

/-- Whether the text has ended. -/
def atEnd (c : Cursor) : Bool := c.rest.isEmpty

/-- Whether a space or tab is `n` places ahead. -/
def atBlank (c : Cursor) (n : Nat := 0) : Bool := (c.peek? n).any isSpaceOrTab

/-- Whether a line break is `n` places ahead. -/
def atBreak (c : Cursor) (n : Nat := 0) : Bool := (c.peek? n).any isBreak

/-- Whether a line break or the end is `n` places ahead. -/
def atBreakOrEnd (c : Cursor) (n : Nat := 0) : Bool := (c.peek? n).all isBreak

/-- Whether a blank, a line break or the end is `n` places ahead. -/
def atGap (c : Cursor) (n : Nat := 0) : Bool := (c.peek? n).all fun ch => isSpaceOrTab ch || isBreak ch

/-- Moves over one character of a line. -/
def skip (c : Cursor) : Cursor :=
  { c with
    rest := c.rest.drop 1
    mark := { c.mark with index := c.mark.index + 1, column := c.mark.column + 1 } }

def skipN : Nat → Cursor → Cursor
  | 0, c => c
  | n + 1, c => skipN n c.skip

/-- Brings in blocks until the character before `wanted` is there. The end of the text counts as one more
character, each time it is asked for. -/
def bringIn (wanted : Nat) : (loaded : Nat) → List Block → Except SyntaxFault (Nat × List Block)
  | loaded, [] => .ok (loaded + 1, [])
  | _, .refused problem :: _ => .error { problem }
  | _, .ends stop :: rest => if wanted ≤ stop then .ok (stop, rest) else bringIn wanted stop rest

/-- Makes sure that the next `n` characters have been brought in. -/
def need (n : Nat) (c : Cursor) : Except SyntaxFault Cursor :=
  if c.mark.index + n ≤ c.loaded then .ok c
  else
    match bringIn (c.mark.index + n) c.loaded c.blocks with
    | .error fault => .error fault
    | .ok (loaded, blocks) => .ok { c with loaded, blocks, marked := c.sees '\ufeff' }

/-- Moves over the characters of a line that satisfy `p`, after those in `taken`, the latest first. -/
def takeFrom (p : Char → Bool) :
    (fuel : Nat) → (taken : List Char) → Cursor → Except SyntaxFault (List Char × Cursor)
  | 0, taken, c => .ok (taken, c)
  | fuel + 1, taken, c => do
    let c ← c.need 1
    match c.rest with
    | ch :: _ => if p ch then takeFrom p fuel (ch :: taken) c.skip else .ok (taken, c)
    | [] => .ok (taken, c)

/-- Moves over the characters of a line that satisfy `p`, and gives them. -/
def takeWhile (p : Char → Bool) (c : Cursor) : Except SyntaxFault (List Char × Cursor) := do
  let (taken, c) ← takeFrom p (c.size + 1) [] c
  return (taken.reverse, c)

/-- Moves over the characters of a line that satisfy `p`. -/
def dropWhile (p : Char → Bool) (c : Cursor) : Except SyntaxFault Cursor := do
  return (← takeFrom p (c.size + 1) [] c).2

/-- Moves over a line break and gives the character it stands for: a line feed, or itself for the two
separators that are kept. -/
def lineBreak (c : Cursor) : Option Char × Cursor :=
  let next (n : Nat) : Cursor :=
    { c with rest := c.rest.drop n, mark := ⟨c.mark.index + n, c.mark.line + 1, 0⟩ }
  match c.rest with
  | '\r' :: '\n' :: _ => (some '\n', next 2)
  | ch :: _ =>
    if ch == '\u2028' || ch == '\u2029' then (some ch, next 1)
    else if isBreak ch then (some '\n', next 1)
    else (none, c)
  | [] => (none, c)

/-- Whether a line starts here with three equal marks of a document border. -/
def atBorder (c : Cursor) (ch : Char) : Bool :=
  c.mark.column == 0 && c.sees ch && c.sees ch 1 && c.sees ch 2 && c.atGap 3

/-- Whether a document border starts here. -/
def atDocumentBorder (c : Cursor) : Bool := c.atBorder '-' || c.atBorder '.'

end Cursor

/-- Whether a document may hold a character. -/
def isAllowed (c : Char) : Bool :=
  let n := c.toNat
  n == 0x09 || n == 0x0a || n == 0x0d || (0x20 ≤ n && n ≤ 0x7e) || n == 0x85 ||
    (0xa0 ≤ n && n ≤ 0xd7ff) || (0xe000 ≤ n && n ≤ 0xfffd) || 0x10000 ≤ n

/-- How many bytes a block has. -/
def blockBytes : Nat := 512

/-- How many bytes are taken together, by the first of them; none when no character can start with it. -/
def sequenceWidth? (byte : UInt8) : Option Nat :=
  if byte < 0x80 then some 1
  else if 0xc0 ≤ byte ∧ byte < 0xe0 then some 2
  else if 0xe0 ≤ byte ∧ byte < 0xf0 then some 3
  else if 0xf0 ≤ byte ∧ byte < 0xf8 then some 4
  else none

/-- How many bytes a piece is looked at together with, some of them perhaps of the pieces after it, and why it
is refused, if it is. -/
def inspect (piece : Piece) (rest : List Piece) : Nat × Option String :=
  match piece with
  | .char c => (c.utf8Size, if isAllowed c then none else some "control characters are not allowed")
  | .stray byte =>
    match sequenceWidth? byte with
    | none => (1, some "invalid leading UTF-8 octet")
    | some width =>
      let trailing := ((rest.take (width - 1)).flatMap Piece.bytes).take (width - 1)
      let problem :=
        if trailing.length < width - 1 then "incomplete UTF-8 octet sequence"
        else
          match trailing.mapM Text.continuation? with
          | none => "invalid trailing UTF-8 octet"
          | some low =>
            let value := low.foldl (fun n bits => n * 64 + bits) (byte.toNat % Nat.pow 2 (7 - width))
            if value < (if width = 2 then 0x80 else if width = 3 then 0x800 else 0x10000) then
              "invalid length of a UTF-8 sequence"
            else "invalid Unicode character"
      (width, some problem)

/-- The blocks of a text: `index` is that of the next character, `room` is left in the block that it may belong
to, and `bytes` are to come. No block comes after one that is refused. -/
def blocksFrom (room index bytes : Nat) : List Piece → List Block
  | [] => if room = blockBytes then [] else [.ends index]
  | piece :: rest =>
    let (width, problem?) := inspect piece rest
    -- at the end of the text fewer bytes may be left than are asked for
    let fits := width ≤ room ∧ width ≤ bytes
    let later := match problem? with
      | some problem => [.refused problem]
      | none => blocksFrom ((if fits then room else blockBytes) - width) (index + 1) (bytes - width) rest
    if fits then later else .ends index :: later

/-- The blocks of a text of under three bytes, which comes in together with its end. -/
def shortBlocks (blocks : List Block) : List Block :=
  let isRefused : Block → Bool
    | .refused _ => true
    | .ends _ => false
  match blocks.find? isRefused with
  | some block => [block]
  | none => blocks.map fun
    | .ends index => .ends (index + 1)
    | .refused problem => .refused problem

/-- A cursor at the start of a text. A byte order mark there takes room in the first block and is no part
of the text. -/
def Cursor.ofText (text : List Piece) : Cursor :=
  let bytes := (text.map Piece.width).foldl (· + ·) 0
  match text with
  | .char '\ufeff' :: rest =>
    { rest := rest.map Piece.shown, blocks := blocksFrom (blockBytes - 3) 0 (bytes - 3) rest, size := rest.length }
  | _ =>
    let blocks := blocksFrom blockBytes 0 bytes text
    { rest := text.map Piece.shown
      blocks := if bytes < 3 then shortBlocks blocks else blocks
      size := text.length }

end WatchTrial.Yaml
