import WatchTrial.Storage.Files
/-!
# Glob patterns

A pattern names files: `*` stands for any text without a slash, `?` for one character, brackets for one
character of a class, and a backslash takes away the meaning of what follows it. A pattern is a list
of chunks, each of which may be preceded by a star. After a star a name is searched byte by byte, so
what is left of it may start in the middle of a character.
-/
namespace WatchTrial.Glob

/-- One item of a pattern that stands for exactly one character. -/
inductive Item where
  | literal (c : Char)
  | anyOne
  | oneOf (negated : Bool) (ranges : List (Char × Char))
deriving Repr, DecidableEq

/-- Items that have to match one after the other, perhaps after some skipped text; no items if they are
malformed. -/
structure Chunk where
  starred : Bool
  items : Option (List Item)
deriving Repr, DecidableEq

/-- A character of a class, with what follows it; nothing may end a class but a bracket. -/
def classChar : List Char → Option (Char × List Char)
  | '\\' :: c :: d :: rest => some (c, d :: rest)
  | c :: d :: rest => if c = '\\' ∨ c = '-' ∨ c = ']' then none else some (c, d :: rest)
  | _ => none

/-- The ranges of a class after its opening bracket, and the text after its closing bracket. -/
def classRanges : (fuel : Nat) → (ranges : List (Char × Char)) → List Char →
    Option (List (Char × Char) × List Char)
  | 0, _, _ => none
  | fuel + 1, ranges, cs =>
    match ranges, cs with
    | _ :: _, ']' :: rest => some (ranges.reverse, rest)
    | _, _ =>
      match classChar cs with
      | none => none
      | some (lo, '-' :: rest) =>
        match classChar rest with
        | none => none
        | some (hi, rest) => classRanges fuel ((lo, hi) :: ranges) rest
      | some (lo, rest) => classRanges fuel ((lo, lo) :: ranges) rest

/-- Reads the items of a chunk; `none` for a malformed one. -/
def readItems : (fuel : Nat) → List Char → Option (List Item)
  | 0, _ => none
  | _ + 1, [] => some []
  | fuel + 1, c :: rest =>
    match c with
    | '?' => (readItems fuel rest).map (.anyOne :: ·)
    | '\\' =>
      match rest with
      | [] => none
      | d :: rest => (readItems fuel rest).map (.literal d :: ·)
    | '[' =>
      let (negated, body) := match rest with
        | '^' :: body => (true, body)
        | body => (false, body)
      match classRanges (body.length + 1) [] body with
      | none => none
      | some (ranges, rest) => (readItems fuel rest).map (.oneOf negated ranges :: ·)
    | c => (readItems fuel rest).map (.literal c :: ·)

/-- Splits the text before the first star off; a star between brackets does not count. -/
def cutStar : (bracketed : Bool) → List Char → List Char × List Char
  | _, [] => ([], [])
  | bracketed, '\\' :: c :: rest =>
    let (chunk, rest) := cutStar bracketed rest
    ('\\' :: c :: chunk, rest)
  | bracketed, c :: rest =>
    if c = '*' ∧ ! bracketed then ([], c :: rest)
    else
      let (chunk, rest) := cutStar (if c = '[' then true else if c = ']' then false else bracketed) rest
      (c :: chunk, rest)

def readChunks : (fuel : Nat) → List Char → List Chunk
  | 0, _ => []
  | _ + 1, [] => []
  | fuel + 1, c :: rest =>
    let unstarred := (c :: rest).dropWhile (· == '*')
    let (chunk, rest) := cutStar false unstarred
    ⟨c == '*', readItems (chunk.length + 1) chunk⟩ :: readChunks fuel rest

def read (pattern : List Char) : List Chunk :=
  readChunks (pattern.length + 1) pattern

/-- A name as it is matched: whole characters, or bytes left over from a character skipped in part. -/
inductive Symbol where
  | whole (c : Char)
  | stray
deriving Repr, DecidableEq

/-- The name without its first byte. -/
def skipByte : List Symbol → List Symbol
  | [] => []
  | .stray :: rest => rest
  | .whole c :: rest => List.replicate (c.utf8Size - 1) .stray ++ rest

/-- What a class sees of a symbol: a left-over byte looks like the replacement character. -/
def Symbol.char : Symbol → Char
  | whole c => c
  | stray => '�'

/-- Whether a symbol is what an item stands for. -/
def Item.admits : Item → Symbol → Bool
  | literal c, .whole d => c == d
  | literal _, .stray => false
  | anyOne, s => s != .whole '/'
  | oneOf negated ranges, s =>
    (ranges.any fun (lo, hi) => decide (lo ≤ s.char ∧ s.char ≤ hi)) != negated

/-- Matches items against the start of a name and gives the rest of it. -/
def matchItems : List Item → List Symbol → Option (List Symbol)
  | [], name => some name
  | _ :: _, [] => none
  | item :: items, s :: name => if item.admits s then matchItems items name else none

/-- Matches items at the first fitting place after the first byte; the last items of a pattern have to
reach the end of the name. -/
def searchItems (last : Bool) (items : List Item) : (fuel : Nat) → List Symbol → Option (List Symbol)
  | 0, _ => none
  | fuel + 1, name =>
    match name with
    | [] => none
    | .whole '/' :: _ => none
    | _ =>
      let shorter := skipByte name
      match matchItems items shorter with
      | some rest => if last && ! rest.isEmpty then searchItems last items fuel shorter else some rest
      | none => searchItems last items fuel shorter

/-- Number of bytes of a name that is matched. -/
def byteCount (name : List Symbol) : Nat :=
  (name.map fun | .whole c => c.utf8Size | .stray => 1).foldl (· + ·) 0

/-- Matches chunks against a whole name, from the left, until it is clear that they do not fit. A malformed
chunk that is reached gives `none`. -/
def matchChunks : List Chunk → List Symbol → Option Bool
  | [], name => some name.isEmpty
  | chunk :: more, name =>
    match chunk.items with
    | none => none
    | some items =>
      if chunk.starred && items.isEmpty then some (! name.contains (.whole '/'))
      else
        let searched : Option Bool :=
          if chunk.starred then
            match searchItems more.isEmpty items (byteCount name) name with
            | some rest => matchChunks more rest
            | none => some false
          else some false
        match matchItems items name with
        | some rest => if rest.isEmpty || ! more.isEmpty then matchChunks more rest else searched
        | none => searched

/-- Whether a name matches a pattern; `none` for a pattern that is found to be malformed. -/
def fits (pattern : List Chunk) (name : String) : Option Bool :=
  matchChunks pattern (name.toList.map .whole)

/-- The names that match a pattern; `none` for a pattern that is found to be malformed. -/
def filterFitting (pattern : List Chunk) : List String → Option (List String)
  | [] => some []
  | name :: rest => do
    let fitting ← fits pattern name
    let more ← filterFitting pattern rest
    return if fitting then name :: more else more

/-- Whether a path has characters with a meaning in patterns. -/
def hasMeta (path : List Char) : Bool :=
  path.any fun c => c == '*' || c == '?' || c == '[' || c == '\\'

/-- The entries of a directory that match a pattern without slashes; `none` for a malformed pattern. -/
def matchesIn (files : Files) (dir file : String) : Option (List String) :=
  match files.find dir with
  | .ok (place, .directory) =>
    (filterFitting (read file.toList) (files.namesIn place)).map (·.map (Path.join dir))
  | _ => some []

/-- The directory part of a pattern, without its final slash. -/
def dirPart (pattern : List Char) : List Char :=
  match (pattern.reverse.dropWhile (· != '/')).reverse with
  | [] => ['.']
  | ['/'] => ['/']
  | dir => dir.dropLast

/-- The part of a pattern after its last slash. -/
def filePart (pattern : List Char) : List Char :=
  (pattern.reverse.takeWhile (· != '/')).reverse

/-- The paths that match a pattern, directories of the pattern from the left; `none` for a malformed
pattern. Each step up uses one of the `depth` slashes. -/
def expandChars (files : Files) : (depth : Nat) → List Char → Option (List String)
  | 0, _ => none
  | depth + 1, pattern =>
    if (fits (read pattern) "").isNone then none
    else if ! hasMeta pattern then
      some (if files.existsAt (String.ofList pattern) then [String.ofList pattern] else [])
    else
      let dir := dirPart pattern
      let file := String.ofList (filePart pattern)
      if ! hasMeta dir then matchesIn files (String.ofList dir) file
      else if dir = pattern then none
      else do
        let dirs ← expandChars files depth dir
        let found ← dirs.mapM fun d => matchesIn files d file
        return found.flatten

/-- The paths that match a pattern; `none` for a malformed pattern. -/
def expand (files : Files) (pattern : String) : Option (List String) :=
  expandChars files 10000 pattern.toList

end WatchTrial.Glob
