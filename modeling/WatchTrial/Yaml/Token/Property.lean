import WatchTrial.Yaml.Token.Scalar
import WatchTrial.Text.Utf8
/-!
# Anchors, aliases, tags and directives
-/
namespace WatchTrial.Yaml

/-- The indicators that may follow the name of an anchor directly. -/
def endsAnchor (c : Char) : Bool :=
  c == '?' || c == ':' || c == ',' || c == ']' || c == '}' || c == '%' || c == '@' || c == '\x60'

def scanAnchor (kind : String → TokenKind) (c : Cursor) : Except SyntaxFault (Token × Cursor) := do
  let (name, next) ← c.skip.takeWhile isNameChar
  if name.isEmpty || ! (next.atGap || (next.peek?).any endsAnchor) then
    throw (tokenFault c.mark next "did not find expected alphabetic or numeric character")
  return (⟨kind (String.ofList name), c.mark, next.mark⟩, next)

/-- Whether a character may stand in the address of a tag. -/
def isTagChar (c : Char) : Bool :=
  isNameChar c || c == ';' || c == '/' || c == '?' || c == ':' || c == '@' || c == '&' || c == '=' ||
    c == '+' || c == '$' || c == ',' || c == '.' || c == '!' || c == '~' || c == '*' || c == '\'' ||
    c == '(' || c == ')' || c == '[' || c == ']' || c == '%'

/-- How many bytes the character has that starts with this byte, zero for none. -/
def leadingWidth (byte : Nat) : Nat :=
  if byte < 0x80 then 1
  else if 0xc0 ≤ byte ∧ byte < 0xe0 then 2
  else if 0xe0 ≤ byte ∧ byte < 0xf0 then 3
  else if 0xf0 ≤ byte ∧ byte < 0xf8 then 4
  else 0

/-- Reads one escaped byte. -/
def readEscapedByte (start : Position) (c : Cursor) : Except SyntaxFault (Nat × Cursor) := do
  let c ← c.need 3
  match if c.sees '%' then readHex 2 0 (c.rest.drop 1) else none with
  | none => throw (tokenFault start c "did not find URI escaped octet")
  | some byte => return (byte, c)

/-- Reads the later bytes of an escaped character, after those in `bytes`, the latest first. -/
def readTrailing (start : Position) :
    (n : Nat) → (bytes : List UInt8) → Cursor → Except SyntaxFault (List UInt8 × Cursor)
  | 0, bytes, c => .ok (bytes, c)
  | n + 1, bytes, c => do
    let (byte, c) ← readEscapedByte start c
    if 0x80 ≤ byte ∧ byte < 0xc0 then readTrailing start n (byte.toUInt8 :: bytes) (c.skipN 3)
    else .error (tokenFault start c "found an incorrect trailing UTF-8 octet")

/-- Reads one character written as escaped bytes. Bytes that only look like a character are shown as
bytes that are no text. -/
def readEscapedChar (start : Position) (c : Cursor) : Except SyntaxFault (List Char × Cursor) := do
  let (byte, c) ← readEscapedByte start c
  match leadingWidth byte with
  | 0 => throw (tokenFault start c "found an incorrect leading UTF-8 octet")
  | width + 1 =>
    let (bytes, c) ← readTrailing start width [byte.toUInt8] (c.skipN 3)
    return (Text.charsOfBytes bytes.reverse, c)

/-- Reads the address of a tag after the text `seen`, the latest character first. -/
def readTagAddress (start : Position) :
    (fuel : Nat) → (seen : List Char) → Cursor → Except SyntaxFault (List Char × Cursor)
  | 0, seen, c => .ok (seen, c)
  | fuel + 1, seen, c => do
    let c ← c.need 1
    match c.peek? with
    | none => .ok (seen, c)
    | some ch =>
      if ! isTagChar ch then .ok (seen, c)
      else if ch == '%' then
        let (chars, c) ← readEscapedChar start c
        readTagAddress start fuel (chars.reverse ++ seen) c
      else readTagAddress start fuel (ch :: seen) c.skip

/-- Reads the address of a tag; `head` is a handle that turned out to be its beginning. -/
def tagAddress (start : Position) (head : List Char) (c : Cursor) : Except SyntaxFault (List Char × Cursor) := do
  let (text, next) ← readTagAddress start (c.size + 1) (head.drop 1).reverse c
  if head.isEmpty && next.mark.index == c.mark.index then
    throw (tokenFault start next "did not find expected tag URI")
  return (text.reverse, next)

/-- Reads a tag handle; in a directive it has to be closed. -/
def tagHandle (directive : Bool) (start : Position) (c : Cursor) : Except SyntaxFault (List Char × Cursor) := do
  let c ← c.need 1
  if ! c.sees '!' then throw (tokenFault start c "did not find expected '!'")
  let (name, next) ← c.skip.takeWhile isNameChar
  if next.sees '!' then return ('!' :: name ++ ['!'], next.skip)
  else if directive && ! name.isEmpty then throw (tokenFault start next "did not find expected '!'")
  else return ('!' :: name, next)

/-- A tag, from its indicator on: between angle brackets, with a handle, or of the document's own. -/
def scanTag (c : Cursor) : Except SyntaxFault (Token × Cursor) := do
  let start := c.mark
  let c ← c.need 2
  let (handle, suffix, next) ←
    if c.sees '<' 1 then do
      let (suffix, next) ← tagAddress start [] (c.skipN 2)
      if ! next.sees '>' then throw (tokenFault start next "did not find the expected '>'")
      pure ([], suffix, next.skip)
    else do
      let (handle, next) ← tagHandle false start c
      if handle.length > 1 && handle.getLast? == some '!' then do
        let (suffix, next) ← tagAddress start [] next
        pure (handle, suffix, next)
      else do
        let (suffix, next) ← tagAddress start handle next
        if suffix.isEmpty then pure ([], handle, next) else pure (['!'], suffix, next)
  let next ← next.need 1
  if ! next.atGap then
    throw (tokenFault start next "did not find expected whitespace or line break")
  return (⟨.tag (String.ofList handle) (String.ofList suffix), start, next.mark⟩, next)

/-- Reads the digits of a part of a version number, of which `room` more may come. -/
def versionDigits (start : Position) : (room : Nat) → (value : Nat) → Cursor → Except SyntaxFault (Nat × Cursor)
  | room, value, c => do
    let c ← c.need 1
    match (c.peek?).filter Char.isDigit, room with
    | some _, 0 => throw (tokenFault start c "found extremely long version number")
    | some ch, room + 1 => versionDigits start room (value * 10 + (ch.toNat - '0'.toNat)) c.skip
    | none, _ => return (value, c)

/-- Reads a part of a version number of at most two digits. -/
def versionPart (start : Position) (c : Cursor) : Except SyntaxFault (Nat × Cursor) := do
  let (value, next) ← versionDigits start 2 0 c
  if next.mark.index == c.mark.index then throw (tokenFault start next "did not find expected version number")
  return (value, next)

def versionDirective (start : Position) (c : Cursor) : Except SyntaxFault (TokenKind × Cursor) := do
  let (major, c) ← versionPart start (← c.dropWhile isSpaceOrTab)
  if ! c.sees '.' then throw (tokenFault start c "did not find expected digit or '.' character")
  let (minor, c) ← versionPart start c.skip
  return (.version major minor, c)

def tagDirective (start : Position) (c : Cursor) : Except SyntaxFault (TokenKind × Cursor) := do
  let (handle, c) ← tagHandle true start (← c.dropWhile isSpaceOrTab)
  let c ← c.need 1
  if ! c.atBlank then throw (tokenFault start c "did not find expected whitespace")
  let (address, c) ← tagAddress start [] (← c.dropWhile isSpaceOrTab)
  let c ← c.need 1
  if ! c.atGap then throw (tokenFault start c "did not find expected whitespace or line break")
  return (.tagDirective (String.ofList handle) (String.ofList address), c)

def scanDirective (c : Cursor) : Except SyntaxFault (Token × Cursor) := do
  let start := c.mark
  let (name, c) ← c.skip.takeWhile isNameChar
  if name.isEmpty then throw (tokenFault start c "could not find expected directive name")
  if ! c.atGap then throw (tokenFault start c "found unexpected non-alphabetical character")
  let (kind, c) ←
    if name == "YAML".toList then versionDirective start c
    else if name == "TAG".toList then tagDirective start c
    else throw (tokenFault start c "found unknown directive name")
  let stop := c.mark
  let c ← c.dropWhile isSpaceOrTab
  let c ← if c.sees '#' then c.dropWhile (! isBreak ·) else pure c
  if ! c.atBreakOrEnd then throw (tokenFault start c "did not find expected comment or line break")
  let c ← if c.atBreak then c.need 2 else pure c
  return (⟨kind, start, stop⟩, c.lineBreak.2)

end WatchTrial.Yaml
