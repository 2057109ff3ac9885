import WatchTrial.Yaml.Token
/-!
# Scalar tokens

The text of a scalar is gathered piece by piece: runs of blanks are kept when the line goes on, and
folded with the line breaks when it does not. While it is gathered, the latest character comes first.
-/
namespace WatchTrial.Yaml

/-- A fault noticed while reading a token that starts at `start`. -/
def tokenFault (start : Position) (c : Cursor) (problem : String) : SyntaxFault :=
  { problem, context := start, place := c.mark, inToken := true }

/-- The gap between two words of a scalar. -/
structure Gap where
  /-- Blanks before the first line break, the latest first. -/
  blanks : List Char := []
  /-- The text of the first line break. -/
  first : Option Char := none
  /-- The text of the later line breaks, the latest first. -/
  later : List Char := []
  /-- Whether there was a line break. -/
  broken : Bool := false
deriving Repr, DecidableEq, Inhabited

/-- What a gap stands for, the latest character first: its blanks, or its line breaks folded, the first
one being a blank when no other follows it. -/
def Gap.text (g : Gap) : List Char :=
  if g.broken then
    match g.first with
    | none => g.later
    | some first =>
      if first == '\n' then (if g.later.isEmpty then [' '] else g.later)
      else g.later ++ [first]
  else g.blanks

/-- Reads a gap; `check` may refuse a blank in the indentation of a line. -/
def readGap (check : Cursor → Option SyntaxFault) :
    (fuel : Nat) → Gap → Cursor → Except SyntaxFault (Gap × Cursor)
  | 0, g, c => .ok (g, c)
  | fuel + 1, g, c => do
    let c ← c.need 1
    match c.peek? with
    | none => .ok (g, c)
    | some ch =>
      if isSpaceOrTab ch then
        if g.broken then
          match check c with
          | some fault => .error fault
          | none => readGap check fuel g c.skip
        else readGap check fuel { g with blanks := ch :: g.blanks } c.skip
      else if isBreak ch then
        let c ← c.need 2
        let (text, next) := c.lineBreak
        if g.broken then readGap check fuel { g with later := text.toList ++ g.later } next
        else readGap check fuel { g with blanks := [], first := text, broken := true } next
      else .ok (g, c)

/-- A plain scalar being read: its text, the gap that follows it, and where the text ends. -/
structure PlainReading where
  text : List Char := []
  gap : Gap := {}
  stop : Position
deriving Repr, DecidableEq, Inhabited

/-- Whether a plain scalar ends before the next character. -/
def endsPlain (inFlow : Bool) (c : Cursor) : Bool :=
  (c.sees ':' && c.atGap 1) ||
    (inFlow && (c.peek?).any fun ch =>
      ch == ',' || ch == '?' || ch == '[' || ch == ']' || ch == '{' || ch == '}')

/-- Reads the characters of a plain scalar up to the next gap. -/
def readPlainWord (inFlow : Bool) :
    (fuel : Nat) → PlainReading → Cursor → Except SyntaxFault (PlainReading × Cursor)
  | 0, r, c => .ok (r, c)
  | fuel + 1, r, c => do
    match c.peek? with
    | none => .ok (r, c)
    | some ch =>
      if isSpaceOrTab ch || isBreak ch || endsPlain inFlow c then .ok (r, c)
      else
        let c ← c.skip.need 2
        readPlainWord inFlow fuel ⟨ch :: (r.gap.text ++ r.text), {}, c.mark⟩ c

/-- Reads a plain scalar; text of a line to the left of `indent` does not belong to it. -/
def readPlain (inFlow : Bool) (indent : Int) (start : Position) :
    (fuel : Nat) → PlainReading → Cursor → Except SyntaxFault (PlainReading × Cursor)
  | 0, r, c => .ok (r, c)
  | fuel + 1, r, c => do
    let c ← c.need 4
    if c.atDocumentBorder || c.sees '#' then .ok (r, c)
    else
      let (r, c) ← readPlainWord inFlow (c.size + 1) r c
      if ! (c.atBlank || c.atBreak) then .ok (r, c)
      else
        let check (c : Cursor) : Option SyntaxFault :=
          if (c.mark.column : Int) < indent && c.sees '\t' then
            some (tokenFault start c "found a tab character that violates indentation")
          else none
        let (gap, c) ← readGap check (c.size + 1) r.gap c
        let r := { r with gap }
        if ! inFlow && (c.mark.column : Int) < indent then .ok (r, c)
        else readPlain inFlow indent start fuel r c

/-- A plain scalar. The flag says whether a line break was read after its text. -/
def scanPlain (inFlow : Bool) (indent : Int) (c : Cursor) : Except SyntaxFault (Token × Bool × Cursor) := do
  let (r, next) ← readPlain inFlow indent c.mark (c.size + 1) { stop := c.mark } c
  return (⟨.scalar (String.ofList r.text.reverse) .plain, c.mark, r.stop⟩, r.gap.broken, next)

def escapeOf? (c : Char) : Option Char :=
  match c with
  | '0' => some '\x00'
  | 'a' => some '\x07'
  | 'b' => some '\x08'
  | 't' | '\t' => some '\t'
  | 'n' => some '\n'
  | 'v' => some '\x0b'
  | 'f' => some '\x0c'
  | 'r' => some '\r'
  | 'e' => some '\x1b'
  | ' ' => some ' '
  | '"' => some '"'
  | '\'' => some '\''
  | '\\' => some '\\'
  | 'N' => some '\u0085'
  | '_' => some '\u00a0'
  | 'L' => some '\u2028'
  | 'P' => some '\u2029'
  | _ => none

/-- How many hexadecimal digits follow the letter of a numeric escape. -/
def escapeWidth? (c : Char) : Option Nat :=
  match c with
  | 'x' => some 2
  | 'u' => some 4
  | 'U' => some 8
  | _ => none

def hexDigit? (c : Char) : Option Nat :=
  if '0' ≤ c ∧ c ≤ '9' then some (c.toNat - '0'.toNat)
  else if 'a' ≤ c ∧ c ≤ 'f' then some (c.toNat - 'a'.toNat + 10)
  else if 'A' ≤ c ∧ c ≤ 'F' then some (c.toNat - 'A'.toNat + 10)
  else none

/-- The value of the next `n` hexadecimal digits. -/
def readHex : (n : Nat) → (value : Nat) → List Char → Option Nat
  | 0, value, _ => some value
  | n + 1, value, c :: rest =>
    match hexDigit? c with
    | some d => readHex n (value * 16 + d) rest
    | none => none
  | _ + 1, _, [] => none

def readEscape (start : Position) (c : Cursor) : Except SyntaxFault (Char × Cursor) :=
  match c.peek? 1 with
  | none => .error (tokenFault start c "found unknown escape character")
  | some letter =>
    match escapeOf? letter, escapeWidth? letter with
    | some ch, _ => .ok (ch, c.skipN 2)
    | none, some width => do
      let c ← (c.skipN 2).need width
      match readHex width 0 c.rest with
      | none => .error (tokenFault start c "did not find expected hexdecimal number")
      | some value =>
        if (0xd800 ≤ value ∧ value ≤ 0xdfff) ∨ 0x10ffff < value then
          .error (tokenFault start c "found invalid Unicode character escape code")
        else .ok (Char.ofNat value, c.skipN width)
    | none, none => .error (tokenFault start c "found unknown escape character")

/-- Reads the characters of a quoted scalar up to the next gap or its closing quote. The flag says that
an escaped line break was read last. -/
def readQuotedWord (single : Bool) (start : Position) :
    (fuel : Nat) → List Char → Cursor → Except SyntaxFault (List Char × Bool × Cursor)
  | 0, text, c => .ok (text, false, c)
  | fuel + 1, text, c => do
    match c.peek? with
    | none => .ok (text, false, c)
    | some ch =>
      if isSpaceOrTab ch || isBreak ch then .ok (text, false, c)
      else if single && ch == '\'' then
        if c.sees '\'' 1 then
          let c ← (c.skipN 2).need 2
          readQuotedWord single start fuel ('\'' :: text) c
        else .ok (text, false, c)
      else if ! single && ch == '"' then .ok (text, false, c)
      else if ! single && ch == '\\' then
        if c.atBreak 1 then
          let c ← c.need 3
          .ok (text, true, (c.skip.lineBreak).2)
        else
          let (ch, c) ← readEscape start c
          let c ← c.need 2
          readQuotedWord single start fuel (ch :: text) c
      else
        let c ← c.skip.need 2
        readQuotedWord single start fuel (ch :: text) c

/-- Reads a quoted scalar after its opening quote, up to its closing quote. -/
def readQuoted (single : Bool) (start : Position) :
    (fuel : Nat) → List Char → Cursor → Except SyntaxFault (List Char × Cursor)
  | 0, text, c => .ok (text, c)
  | fuel + 1, text, c => do
    let c ← c.need 4
    if c.atDocumentBorder then .error (tokenFault start c "found unexpected document indicator")
    else if c.atEnd then .error (tokenFault start c "found unexpected end of stream")
    else
      let (text, escapedBreak, c) ← readQuotedWord single start (c.size + 1) text c
      let c ← c.need 1
      if c.sees (if single then '\'' else '"') then .ok (text, c)
      else
        let (gap, c) ← readGap (fun _ => none) (c.size + 1) { broken := escapedBreak } c
        readQuoted single start fuel (gap.text ++ text) c

def scanQuoted (single : Bool) (c : Cursor) : Except SyntaxFault (Token × Cursor) := do
  let (text, next) ← readQuoted single c.mark (c.size + 1) [] c.skip
  let stop := next.skip
  let style := if single then .singleQuoted else .doubleQuoted
  return (⟨.scalar (String.ofList text.reverse) style, c.mark, stop.mark⟩, stop)

/-- What happens to the line breaks at the end of a block scalar. -/
inductive Chomping where
  | strip
  | clip
  | keep
deriving Repr, DecidableEq, Inhabited

def chompingOf? (c : Cursor) : Option Chomping :=
  if c.sees '+' then some .keep else if c.sees '-' then some .strip else none

/-- Reads an indentation indicator, zero when there is none. -/
def readIncrement (start : Position) (c : Cursor) : Except SyntaxFault (Nat × Cursor) :=
  match c.peek? with
  | some ch =>
    if ch.isDigit then
      if ch == '0' then .error (tokenFault start c "found an indentation indicator equal to 0")
      else .ok (ch.toNat - '0'.toNat, c.skip)
    else .ok (0, c)
  | none => .ok (0, c)

/-- Reads the two indicators of a block scalar in either order. -/
def readIndicators (start : Position) (c : Cursor) : Except SyntaxFault (Chomping × Nat × Cursor) := do
  let c ← c.need 1
  match chompingOf? c with
  | some chomping =>
    let (increment, c) ← readIncrement start (← c.skip.need 1)
    return (chomping, increment, c)
  | none =>
    let (increment, c) ← readIncrement start c
    if increment = 0 then return (.clip, 0, c)
    else
      let c ← c.need 1
      match chompingOf? c with
      | some chomping => return (chomping, increment, c.skip)
      | none => return (.clip, increment, c)

/-- Reads empty lines and indentation of a block scalar: the breaks, the latest first, the widest
indentation seen, and where the last break ended. An `indent` of zero is not known yet. -/
def readIndentation (start : Position) (indent : Nat) :
    (fuel : Nat) → (breaks : List Char) → (widest : Nat) → (stop : Position) → Cursor →
    Except SyntaxFault (List Char × Nat × Position × Cursor)
  | 0, breaks, widest, stop, c => .ok (breaks, widest, stop, c)
  | fuel + 1, breaks, widest, stop, c => do
    let c ← c.need 1
    let wanted := indent = 0 || decide (c.mark.column < indent)
    if wanted && c.sees ' ' then readIndentation start indent fuel breaks widest stop c.skip
    else
      let widest := max widest c.mark.column
      if wanted && c.sees '\t' then
        .error (tokenFault start c "found a tab character where an indentation space is expected")
      else if c.atBreak then
        let c ← c.need 2
        let (text, next) := c.lineBreak
        readIndentation start indent fuel (text.toList ++ breaks) widest next.mark next
      else .ok (breaks, widest, stop, c)

structure BlockReading where
  text : List Char := []
  /-- The text of the line break before the current line. -/
  leading : Option Char := none
  /-- The text of the empty lines before the current line, the latest first. -/
  trailing : List Char := []
  /-- Whether the line before started with a blank. -/
  blankBefore : Bool := false
  stop : Position
deriving Repr, DecidableEq, Inhabited

def readBlockLines (literal : Bool) (start : Position) (indent : Nat) :
    (fuel : Nat) → BlockReading → Cursor → Except SyntaxFault (BlockReading × Cursor)
  | 0, r, c => .ok (r, c)
  | fuel + 1, r, c => do
    if c.mark.column = indent ∧ ! c.atEnd then
      let blank := c.atBlank
      let folded := ! literal && ! r.blankBefore && ! blank && r.leading == some '\n'
      let joint := if folded then (if r.trailing.isEmpty then [' '] else []) else r.leading.toList
      let (text, c) ← c.takeFrom (! isBreak ·) (c.size + 1) (r.trailing ++ (joint ++ r.text))
      let c ← c.need 2
      let (leading, c) := c.lineBreak
      let (trailing, _, stop, c) ← readIndentation start indent (c.size + 1) [] 0 c.mark c
      readBlockLines literal start indent fuel ⟨text, leading, trailing, blank, stop⟩ c
    else .ok (r, c)

/-- A block scalar; `parent` is the indentation of the enclosing block. -/
def scanBlock (literal : Bool) (parent : Int) (c : Cursor) : Except SyntaxFault (Token × Cursor) := do
  let start := c.mark
  let (chomping, increment, c) ← readIndicators start c.skip
  let c ← c.dropWhile isSpaceOrTab
  let c ← if c.sees '#' then c.dropWhile (! isBreak ·) else pure c
  if ! c.atBreakOrEnd then
    throw (tokenFault start c "did not find expected comment or line break")
  let c ← if c.atBreak then c.need 2 else pure c
  let c := c.lineBreak.2
  let given : Nat := if increment = 0 then 0 else parent.toNat + increment
  let (trailing, widest, stop, c) ← readIndentation start given (c.size + 1) [] 0 c.mark c
  let indent := if given = 0 then max (max widest (parent + 1).toNat) 1 else given
  let (r, c) ← readBlockLines literal start indent (c.size + 1) { trailing, stop } c
  let ending := match chomping with
    | .strip => []
    | .clip => r.leading.toList
    | .keep => r.trailing ++ r.leading.toList
  let style := if literal then .literal else .folded
  return (⟨.scalar (String.ofList (ending ++ r.text).reverse) style, start, r.stop⟩, c)

end WatchTrial.Yaml
