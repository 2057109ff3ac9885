import WatchTrial.Yaml.Token.Property
import Std.Data.TreeMap
/-!
# The queue of tokens

Tokens are read a little ahead of their use: two further ones always, and more while the first of the
queue may still turn out to be the key of a mapping, which only the colon after it tells. The block
structure is not written in the text; it follows from the columns, and the queue adds the tokens that
open and close blocks.
-/
namespace WatchTrial.Yaml

/-- A place where the key of a mapping may have started. -/
structure KeyPlace where
  /-- Whether it still may be a key. -/
  possible : Bool := false
  /-- Whether the block has no meaning unless it is one. -/
  required : Bool := false
  /-- The number of the token that starts it. -/
  token : Nat := 0
  mark : Position := {}
deriving Repr, DecidableEq, Inhabited

/-- Tokens that have been read and not used, with what the reading of further ones depends on. -/
structure Queue where
  cursor : Cursor
  tokens : List Token := []
  /-- How many tokens have been used. -/
  used : Nat := 0
  /-- Column of the current block, with those of the enclosing ones. -/
  indent : Int := -1
  indents : List Int := []
  /-- How many blocks are open. -/
  blockDepth : Nat := 0
  /-- How many flow collections are open. -/
  depth : Nat := 0
  /-- Whether a key may start here. -/
  keyAllowed : Bool := true
  /-- The place for a key at this depth, and those of the enclosing depths. -/
  key : KeyPlace := {}
  outerKeys : List KeyPlace := []
  /-- The places for a key that are waited for, by the numbers of their tokens. -/
  awaited : Std.TreeMap Nat KeyPlace := {}
  started : Bool := false
deriving Inhabited

namespace Queue

/-- The most blocks or flow collections that may be open. -/
def depthLimit : Nat := 10000

/-- The number of the next token to be read. -/
def next (q : Queue) : Nat := q.used + q.tokens.length

/-- Adds a token at the end. -/
def push (q : Queue) (token : Token) : Queue := { q with tokens := q.tokens ++ [token] }

/-- Adds a token before the one with this number, or at the end if that one has been used. -/
def insertAt (q : Queue) (number : Nat) (token : Token) : Queue :=
  if number < q.used then q.push token
  else
    let n := number - q.used
    { q with tokens := q.tokens.take n ++ token :: q.tokens.drop n }

/-- Adds a token that covers `n` characters from the cursor on. -/
def pushChars (q : Queue) (kind : TokenKind) (n : Nat) : Queue :=
  let cursor := q.cursor.skipN n
  { q.push ⟨kind, q.cursor.mark, cursor.mark⟩ with cursor }

def forget (q : Queue) (token : Nat) : Queue := { q with awaited := q.awaited.erase token }

/-- Opens a block at a column that is further right than the current one. -/
def openBlock (q : Queue) (column : Nat) (before : Option Nat) (kind : TokenKind) (mark : Position) :
    Except SyntaxFault Queue :=
  if q.depth > 0 ∨ (column : Int) ≤ q.indent then .ok q
  else if q.blockDepth ≥ depthLimit then
    .error (tokenFault q.key.mark q.cursor ("exceeded max depth of " ++ toString depthLimit))
  else
    let q := { q with indents := q.indent :: q.indents, indent := column, blockDepth := q.blockDepth + 1 }
    .ok (match before with
      | some number => q.insertAt number ⟨kind, mark, mark⟩
      | none => q.push ⟨kind, mark, mark⟩)

/-- Closes blocks of the stack that are further right than a column. -/
def closeFrom (column : Int) (mark : Position) :
    (indents : List Int) → (indent : Int) → List Token × Int × List Int
  | [], indent => ([], indent, [])
  | outer :: rest, indent =>
    if column < indent then
      let (tokens, indent, indents) := closeFrom column mark rest outer
      (⟨.blockEnd, mark, mark⟩ :: tokens, indent, indents)
    else ([], indent, outer :: rest)

/-- Closes the blocks that are further right than a column. -/
def closeBlocks (q : Queue) (column : Int) (mark : Position) : Queue :=
  if q.depth > 0 then q
  else
    let (tokens, indent, indents) := closeFrom column mark q.indents q.indent
    { q with tokens := q.tokens ++ tokens, indent, indents, blockDepth := q.blockDepth - tokens.length }

/-- Gives up the place for a key; one that is required may not be given up. -/
def dropKey (q : Queue) : Except SyntaxFault Queue :=
  if q.key.possible then
    if q.key.required then .error (tokenFault q.key.mark q.cursor "could not find expected ':'")
    else .ok { q.forget q.key.token with key := { q.key with possible := false } }
  else .ok q

/-- Notes that a key may start here. -/
def noteKey (q : Queue) : Except SyntaxFault Queue :=
  if q.keyAllowed then do
    let place : KeyPlace :=
      ⟨true, q.depth = 0 && q.indent == (q.cursor.mark.column : Int), q.next, q.cursor.mark⟩
    let q ← q.dropKey
    return { q with key := place, awaited := q.awaited.insert place.token place }
  else .ok q

/-- Whether a place may still be a key: the colon has to come on its line, within 1024 characters. -/
def stillKey (q : Queue) (place : KeyPlace) : Except SyntaxFault Bool :=
  if ! place.possible then .ok false
  else if place.mark.line < q.cursor.mark.line ∨ place.mark.index + 1024 < q.cursor.mark.index then
    if place.required then .error (tokenFault place.mark q.cursor "could not find expected ':'")
    else .ok false
  else .ok true

/-- How far ahead of the cursor a comment may start. -/
def commentReach : Nat := 512

/-- Whether a character may come before a comment that is looked for: a blank, and between comment lines
also a line break of one byte. -/
def precedesComment (breaks : Bool) (ch : Char) : Bool :=
  isSpaceOrTab ch || (breaks && (ch == '\n' || ch == '\r'))

/-- How far ahead a comment starts, `far` characters having been passed and `ahead` being what follows
them. A longer line break takes one more character to be told from text. -/
def commentAhead (breaks : Bool) : (reach far : Nat) → (ahead : List Char) → Cursor →
    Except SyntaxFault (Option Nat × Cursor)
  | 0, _, _, c => .ok (none, c)
  | reach + 1, far, ahead, c => do
    let c ← c.need (far + 1)
    match ahead with
    | [] => return (none, c)
    | ch :: rest =>
      if precedesComment breaks ch then commentAhead breaks reach (far + 1) rest c
      else if ch == '#' then return (some far, c)
      else if breaks && isBreak ch && reach ≠ 0 then return (none, ← c.need (far + 2))
      else return (none, c)

/-- Moves over some characters of which some may be line breaks. -/
def skipAcross : (n : Nat) → Cursor → Except SyntaxFault Cursor
  | 0, c => .ok c
  | n + 1, c => do
    let c ← c.need 1
    if c.sees '#' then return c
    else if c.atBreak then skipAcross n (← c.need 2).lineBreak.2
    else skipAcross n c.skip

/-- Moves over a comment and those that follow it with only blanks and empty lines between. -/
def skipComments : (fuel : Nat) → Cursor → Except SyntaxFault Cursor
  | 0, c => .ok c
  | fuel + 1, c => do
    let c ← c.dropWhile (! isBreak ·)
    if c.sees '\n' || c.sees '\r' then
      match ← commentAhead true (commentReach - 1) 1 (c.rest.drop 1) c with
      | (some far, c) => skipComments fuel (← skipAcross far c)
      | (none, c) => return c
    else c.need 2

/-- Moves over a comment that follows a token on its line. -/
def skipLineComment (c : Cursor) : Except SyntaxFault Cursor := do
  match ← commentAhead false commentReach 0 c.rest c with
  | (some _, c) => c.dropWhile (! isBreak ·)
  | (none, c) => return c

/-- Moves to the next token. A tab is not skipped where a key may start in a block. Where a byte order mark
came in first, the first character of a line is passed over. -/
def toNextToken : (fuel : Nat) → Queue → Except SyntaxFault Queue
  | 0, q => .ok q
  | fuel + 1, q => do
    let c ← q.cursor.need 1
    let c := if c.mark.column = 0 && c.marked then c.skip else c
    let c ← c.dropWhile fun ch => ch == ' ' || ((q.depth > 0 || ! q.keyAllowed) && ch == '\t')
    let c ← if c.sees '#' then skipComments (c.size + 1) c else pure c
    if c.atBreak then
      let c ← c.need 2
      toNextToken fuel { q with cursor := c.lineBreak.2, keyAllowed := q.keyAllowed || q.depth = 0 }
    else return { q with cursor := c }

/-- Reads the end of the text. -/
def readEnd (q : Queue) : Except SyntaxFault Queue := do
  let mark := q.cursor.mark
  let mark := if mark.column ≠ 0 then { mark with line := mark.line + 1, column := 0 } else mark
  let q := { q with cursor := { q.cursor with mark } }
  let q ← (q.closeBlocks (-1) mark).dropKey
  return { q with keyAllowed := false }.push ⟨.streamEnd, mark, mark⟩

/-- Prepares for a token that starts at the margin and ends all blocks. -/
def atMargin (q : Queue) : Except SyntaxFault Queue := do
  let q ← (q.closeBlocks (-1) q.cursor.mark).dropKey
  return { q with keyAllowed := false }

def scanWith (q : Queue) (scan : Cursor → Except SyntaxFault (Token × Cursor)) : Except SyntaxFault Queue := do
  let (token, cursor) ← scan q.cursor
  return { q.push token with cursor }

def openFlow (q : Queue) (kind : TokenKind) : Except SyntaxFault Queue := do
  let q ← q.noteKey
  if q.depth ≥ depthLimit then
    throw (tokenFault q.cursor.mark q.cursor ("exceeded max depth of " ++ toString depthLimit))
  let inner : KeyPlace := { token := q.next, mark := q.cursor.mark }
  let q := { q with outerKeys := q.key :: q.outerKeys, key := inner, depth := q.depth + 1, keyAllowed := true }
  return q.pushChars kind 1

def closeFlow (q : Queue) (kind : TokenKind) : Except SyntaxFault Queue := do
  let q ← q.dropKey
  let q := match q.depth, q.outerKeys with
    | depth + 1, outer :: rest => { q.forget q.key.token with depth, key := outer, outerKeys := rest }
    | _, _ => q
  return { q with keyAllowed := false }.pushChars kind 1

def readDash (q : Queue) : Except SyntaxFault Queue := do
  let q ←
    if q.depth = 0 then
      if ! q.keyAllowed then
        throw (tokenFault q.cursor.mark q.cursor "block sequence entries are not allowed in this context")
      else q.openBlock q.cursor.mark.column none .blockSequenceStart q.cursor.mark
    else pure q
  let q ← q.dropKey
  return { q with keyAllowed := true }.pushChars .blockEntry 1

def readQuestion (q : Queue) : Except SyntaxFault Queue := do
  let q ←
    if q.depth = 0 then
      if ! q.keyAllowed then
        throw (tokenFault q.cursor.mark q.cursor "mapping keys are not allowed in this context")
      else q.openBlock q.cursor.mark.column none .blockMappingStart q.cursor.mark
    else pure q
  let q ← q.dropKey
  return { q with keyAllowed := q.depth = 0 }.pushChars .key 1

/-- Reads the colon of a value: what stands before it on the line becomes a key, if it may. -/
def readColon (q : Queue) : Except SyntaxFault Queue := do
  let place := q.key
  if ← q.stillKey place then
    let q := q.insertAt place.token ⟨.key, place.mark, place.mark⟩
    let q ← q.openBlock place.mark.column (some place.token) .blockMappingStart place.mark
    let q := { q.forget place.token with key := { place with possible := false }, keyAllowed := false }
    return q.pushChars .value 1
  else
    let q := { q with key := { place with possible := false } }
    let q ←
      if q.depth = 0 then
        if ! q.keyAllowed then
          throw (tokenFault q.cursor.mark q.cursor "mapping values are not allowed in this context")
        else q.openBlock q.cursor.mark.column none .blockMappingStart q.cursor.mark
      else pure q
    return { q with keyAllowed := q.depth = 0 }.pushChars .value 1

/-- Moves over a comment that follows the latest token on its line. -/
def withLineComment (q : Queue) : Except SyntaxFault Queue := do
  return { q with cursor := ← skipLineComment q.cursor }

def readPlainToken (q : Queue) : Except SyntaxFault Queue := do
  let q ← q.noteKey
  let (token, broken, cursor) ← scanPlain (q.depth > 0) (q.indent + 1) q.cursor
  let q := { q.push token with cursor, keyAllowed := broken }
  if broken then return q else q.withLineComment

/-- Reads a token that may be a key and after which none may start. -/
def readProperty (q : Queue) (scan : Cursor → Except SyntaxFault (Token × Cursor)) : Except SyntaxFault Queue := do
  let q ← q.noteKey
  { q with keyAllowed := false }.scanWith scan

def readBlockScalar (q : Queue) (literal : Bool) : Except SyntaxFault Queue := do
  let q ← q.dropKey
  { q with keyAllowed := true }.scanWith (scanBlock literal q.indent)

/-- The characters that no plain scalar starts with, unless what follows allows it. -/
def isIndicator (c : Char) : Bool :=
  c == '-' || c == '?' || c == ':' || c == ',' || c == '[' || c == ']' || c == '{' || c == '}' ||
    c == '#' || c == '&' || c == '*' || c == '!' || c == '|' || c == '>' || c == '\'' || c == '"' ||
    c == '%' || c == '@' || c == '\x60'

def startsPlain (q : Queue) : Bool :=
  let c := q.cursor
  ! (c.atGap || (c.peek?).any isIndicator) ||
    (c.sees '-' && ! c.atBlank 1) ||
    (q.depth = 0 && (c.sees '?' || c.sees ':') && ! c.atGap 1)

/-- Reads the token at the cursor, which is neither at the end nor at a token of the margin. A comment on
the line of a token is passed over, except after a dash, where it belongs to what follows, and after a
block scalar, which ends with its line. -/
def readInner (q : Queue) : Except SyntaxFault Queue :=
  let c := q.cursor
  let inFlow := decide (q.depth > 0)
  let commented (read : Except SyntaxFault Queue) : Except SyntaxFault Queue := do (← read).withLineComment
  if c.sees '[' then commented (q.openFlow .flowSequenceStart)
  else if c.sees '{' then commented (q.openFlow .flowMappingStart)
  else if c.sees ']' then commented (q.closeFlow .flowSequenceEnd)
  else if c.sees '}' then commented (q.closeFlow .flowMappingEnd)
  else if c.sees ',' then commented do
    let q ← q.dropKey
    return { q with keyAllowed := true }.pushChars .flowEntry 1
  else if c.sees '-' && c.atGap 1 then q.readDash
  else if c.sees '?' && (inFlow || c.atGap 1) then commented q.readQuestion
  else if c.sees ':' && (inFlow || c.atGap 1) then commented q.readColon
  else if c.sees '*' then commented (q.readProperty (scanAnchor .reference))
  else if c.sees '&' then commented (q.readProperty (scanAnchor .anchor))
  else if c.sees '!' then commented (q.readProperty scanTag)
  else if c.sees '|' && ! inFlow then q.readBlockScalar true
  else if c.sees '>' && ! inFlow then q.readBlockScalar false
  else if c.sees '\'' then commented (q.readProperty (scanQuoted true))
  else if c.sees '"' then commented (q.readProperty (scanQuoted false))
  else if q.startsPlain then q.readPlainToken
  else .error (tokenFault c.mark c "found character that cannot start any token")

/-- Reads the token at the cursor, which is not at the end. -/
def readToken (q : Queue) : Except SyntaxFault Queue :=
  let c := q.cursor
  if c.mark.column = 0 && c.sees '%' then do (← q.atMargin).scanWith scanDirective
  else if c.atBorder '-' then do return (← q.atMargin).pushChars .documentStart 3
  else if c.atBorder '.' then do return (← q.atMargin).pushChars .documentEnd 3
  else q.readInner

/-- Reads one further token, with the block tokens that come before it. -/
def readNext (q : Queue) : Except SyntaxFault Queue := do
  let cursor ← q.cursor.need 1
  let q := { q with cursor }
  if ! q.started then return { q with started := true }.push ⟨.streamStart, q.cursor.mark, q.cursor.mark⟩
  else
    let before := q.cursor.mark
    let q ← toNextToken (q.cursor.size + 2) q
    let q := q.closeBlocks q.cursor.mark.column before
    let cursor ← q.cursor.need 4
    let q := { q with cursor }
    if q.cursor.atEnd then q.readEnd else q.readToken

/-- Whether a further token has to be read before the first of the queue can be used. -/
def needsMore (q : Queue) : Except SyntaxFault Bool :=
  if q.tokens.length ≤ 2 then .ok true
  else
    match q.awaited[q.used]? with
    | some place => q.stillKey place
    | none => .ok false

/-- Reads tokens until the first of the queue can be used. -/
def fill : (fuel : Nat) → Queue → Except SyntaxFault Queue
  | 0, q => .ok q
  | fuel + 1, q => do
    if ← q.needsMore then fill fuel (← q.readNext) else return q

/-- The first token of the queue, read if need be. -/
def peek (q : Queue) : Except SyntaxFault (Token × Queue) := do
  let q ← q.fill (q.cursor.size + 8)
  match q.tokens with
  | token :: _ => return (token, q)
  | [] => return (⟨.streamEnd, q.cursor.mark, q.cursor.mark⟩, q)

/-- Uses the first token. -/
def pop (q : Queue) : Queue := { q with tokens := q.tokens.drop 1, used := q.used + 1 }

end Queue

end WatchTrial.Yaml
