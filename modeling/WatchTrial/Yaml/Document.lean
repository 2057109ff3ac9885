import WatchTrial.Yaml.Token.Queue
import WatchTrial.Yaml.Scalar
import Std.Data.TreeMap
/-!
# Documents

The first document of a text, as a tree of nodes. Tokens are taken from the queue one at a time, so of
two faults the one that the queue meets first is reported.
-/
namespace WatchTrial.Yaml

structure Reading where
  queue : Queue
  /-- What tag handles stand for. -/
  handles : List (String × String) := []
  /-- The nodes that anchors name, with the number of the anchor; one that is still being read is absent. -/
  anchors : Std.TreeMap String (Nat × Option Node) := {}
  /-- How many anchors have been set. -/
  anchored : Nat := 0
deriving Inhabited

abbrev Read (α : Type) := StateT Reading (Except SyntaxFault) α

/-- The next token, without using it. -/
def peekToken : Read Token := do
  let (token, queue) ← (← get).queue.peek
  modify fun r => { r with queue }
  return token

/-- Uses the next token. -/
def popToken : Read Unit :=
  modify fun r => { r with queue := r.queue.pop }

/-- Uses the next token and gives the one after it. -/
def nextToken : Read Token := do
  popToken
  peekToken

/-- A fault of structure, noticed at a place inside a construct. -/
def structureFault {α : Type} (context : Position) (problem : String) (place : Position) : Read α :=
  throw { problem, context, place }

/-- A scalar. Without a tag, a plain text gets the tag of its value and a quoted one that of text. -/
def scalarNode (mark : Position) (tag text : String) (style : ScalarStyle) : Node :=
  let tag :=
    if tag ≠ "" ∧ tag ≠ "!" then shortTag tag
    else if style ≠ .plain then "!!str"
    else if text = "<<" then "!!merge"
    else (plainValue true text).tag
  .scalar (mark.line + 1) tag text

/-- A scalar that is not written. -/
def emptyNode (mark : Position) : Node := scalarNode mark "" "" .plain

def collectionTag (default tag : String) : String :=
  if tag ≠ "" ∧ tag ≠ "!" then shortTag tag else default

mutual

/-- Gives the aliases of `name` that stand inside `whole` their target. -/
def Node.tie (name : String) (whole : Node) : Node → Node
  | .reference line n none => .reference line n (if n = name then some whole else none)
  | .reference line n (some target) => .reference line n (some target)
  | .scalar line tag text => .scalar line tag text
  | .sequence line tag items => .sequence line tag (tieItems name whole items)
  | .mapping line tag entries => .mapping line tag (tieEntries name whole entries)

def tieItems (name : String) (whole : Node) : List Node → List Node
  | [] => []
  | x :: rest => Node.tie name whole x :: tieItems name whole rest

def tieEntries (name : String) (whole : Node) : List (Node × Node) → List (Node × Node)
  | [] => []
  | (k, v) :: rest => (Node.tie name whole k, Node.tie name whole v) :: tieEntries name whole rest

end

/-- Reads a node that an anchor may name. -/
def anchoring (anchor : Option String) (read : Read Node) : Read Node :=
  match anchor with
  | none => read
  | some name => do
    let id := (← get).anchored
    modify fun r => { r with anchors := r.anchors.insert name (id, none), anchored := id + 1 }
    let node ← read
    let node := Node.tie name node node
    modify fun r =>
      { r with anchors := r.anchors.modify name fun e => if e.1 = id then (id, some node) else e }
    return node

/-- The anchor and the tag before a node. -/
structure Properties where
  anchor : Option String := none
  /-- Handle, suffix and place of the tag. -/
  tag : Option (String × String × Position) := none
  /-- Where the first of them starts. -/
  start : Position

/-- Reads the anchor and the tag before a node, in either order. -/
def readProperties (token : Token) : Read (Properties × Token) := do
  match token.kind with
  | .anchor name =>
    let second ← nextToken
    match second.kind with
    | .tag handle suffix => return (⟨name, (handle, suffix, second.start), token.start⟩, ← nextToken)
    | _ => return (⟨name, none, token.start⟩, second)
  | .tag handle suffix =>
    let second ← nextToken
    match second.kind with
    | .anchor name => return (⟨name, (handle, suffix, token.start), token.start⟩, ← nextToken)
    | _ => return (⟨none, (handle, suffix, token.start), token.start⟩, second)
  | _ => return (⟨none, none, token.start⟩, token)

/-- The full tag that properties give, empty for none. -/
def Properties.fullTag (p : Properties) : Read String := do
  match p.tag with
  | none => return ""
  | some ("", suffix, _) => return suffix
  | some (handle, suffix, mark) =>
    match (← get).handles.find? (·.1 = handle) with
    | some (_, start) => return start ++ suffix
    | none => structureFault p.start "found undefined tag handle" mark

/-- Whether a token ends an entry of a block mapping that has no content. -/
def endsBlockPart : TokenKind → Bool
  | .key | .value | .blockEnd => true
  | _ => false

/-- Whether a token ends an entry of a flow sequence that has no content. -/
def endsFlowItem : TokenKind → Bool
  | .flowEntry | .flowSequenceEnd => true
  | _ => false

/-- Whether a token ends an entry of a flow mapping that has no content. -/
def endsFlowPair : TokenKind → Bool
  | .flowEntry | .flowMappingEnd => true
  | _ => false

mutual

/-- Reads a node; `block` allows block collections and `indentless` a sequence at its parent's column. -/
def readNode (block indentless : Bool) : (fuel : Nat) → Read Node
  | 0 => return default
  | fuel + 1 => do
    let token ← peekToken
    match token.kind with
    | .reference name =>
      popToken
      match (← get).anchors[name]? with
      | some (_, target) => return .reference (token.start.line + 1) name target
      | none => throw { problem := "unknown anchor '" ++ name ++ "' referenced" }
    | _ =>
      let (properties, token) ← readProperties token
      let start := properties.start
      let tag ← properties.fullTag
      let collect (default : String) (make : Nat → String → List Node → Node)
          (read : Read (List Node)) : Read Node :=
        anchoring properties.anchor do return make (start.line + 1) (collectionTag default tag) (← read)
      let pairs (read : Read (List (Node × Node))) : Read Node :=
        anchoring properties.anchor do return .mapping (start.line + 1) (collectionTag "!!map" tag) (← read)
      match token.kind, indentless, block with
      | .blockEntry, true, _ => collect "!!seq" .sequence (readDashes none fuel [])
      | .scalar text style, _, _ =>
        popToken
        anchoring properties.anchor do return scalarNode start tag text style
      | .flowSequenceStart, _, _ =>
        collect "!!seq" .sequence (do popToken; readFlowItems token.start fuel none)
      | .flowMappingStart, _, _ => pairs (do popToken; readFlowPairs token.start fuel none)
      | .blockSequenceStart, _, true => collect "!!seq" .sequence (do popToken; readDashes (some token.start) fuel [])
      | .blockMappingStart, _, true => pairs (do popToken; readBlockPairs token.start fuel [])
      | _, _, _ =>
        if properties.anchor.isSome || tag ≠ "" then
          anchoring properties.anchor do return scalarNode start tag "" .plain
        else structureFault start "did not find expected node content" token.start

/-- Reads the items of a block sequence after those in `items`, the latest first. One that starts at
`context` ends with its block; one at its parent's column ends with the last dash. -/
def readDashes (context : Option Position) : (fuel : Nat) → (items : List Node) → Read (List Node)
  | 0, items => return items.reverse
  | fuel + 1, items => do
    let token ← peekToken
    match token.kind with
    | .blockEntry =>
      let following ← nextToken
      let empty := match following.kind, context with
        | .blockEntry, _ | .blockEnd, _ => true
        | .key, none | .value, none => true
        | _, _ => false
      let item ← if empty then pure (emptyNode token.stop) else readNode true false fuel
      readDashes context fuel (item :: items)
    | kind =>
      match context with
      | none => return items.reverse
      | some mark =>
        if kind = .blockEnd then
          popToken
          return items.reverse
        else structureFault mark "did not find expected '-' indicator" token.start

/-- Reads the entries of a block mapping after those in `entries`, the latest first. -/
def readBlockPairs (context : Position) :
    (fuel : Nat) → (entries : List (Node × Node)) → Read (List (Node × Node))
  | 0, entries => return entries.reverse
  | fuel + 1, entries => do
    let token ← peekToken
    match token.kind with
    | .key =>
      let following ← nextToken
      let key ← if endsBlockPart following.kind then pure (emptyNode token.stop) else readNode true true fuel
      let value ← readBlockValue fuel
      readBlockPairs context fuel ((key, value) :: entries)
    | .blockEnd =>
      popToken
      return entries.reverse
    | _ => structureFault context "did not find expected key" token.start

def readBlockValue : (fuel : Nat) → Read Node
  | 0 => return default
  | fuel + 1 => do
    let token ← peekToken
    match token.kind with
    | .value =>
      let following ← nextToken
      if endsBlockPart following.kind then return emptyNode token.stop else readNode true true fuel
    | _ => return emptyNode token.start

/-- Reads the items of a flow sequence after those in `items`, the latest first; before the first item
there are none. -/
def readFlowItems (context : Position) : (fuel : Nat) → (items : Option (List Node)) → Read (List Node)
  | 0, items => return (items.getD []).reverse
  | fuel + 1, items => do
    let token ← peekToken
    let token ← match token.kind, items with
      | .flowSequenceEnd, _ => pure token
      | _, none => pure token
      | .flowEntry, some _ => nextToken
      | _, some _ => structureFault context "did not find expected ',' or ']'" token.start
    match token.kind with
    | .flowSequenceEnd =>
      popToken
      return (items.getD []).reverse
    | .key =>
      popToken
      let item ← readFlowPair token.start fuel
      readFlowItems context fuel (some (item :: items.getD []))
    | _ =>
      let item ← readNode false false fuel
      readFlowItems context fuel (some (item :: items.getD []))

/-- Reads a single pair inside a flow sequence, after the mark of its key. -/
def readFlowPair (start : Position) : (fuel : Nat) → Read Node
  | 0 => return default
  | fuel + 1 => do
    let token ← peekToken
    let key ←
      if token.kind = .value || endsFlowItem token.kind then do
        popToken
        pure (emptyNode token.stop)
      else readNode false false fuel
    let token ← peekToken
    let value ← match token.kind with
      | .value => do
        let following ← nextToken
        if endsFlowItem following.kind then pure (emptyNode following.start) else readNode false false fuel
      | _ => pure (emptyNode token.start)
    return .mapping (start.line + 1) "!!map" [(key, value)]

/-- Reads the entries of a flow mapping after those in `entries`, the latest first; before the first entry
there are none. -/
def readFlowPairs (context : Position) :
    (fuel : Nat) → (entries : Option (List (Node × Node))) → Read (List (Node × Node))
  | 0, entries => return (entries.getD []).reverse
  | fuel + 1, entries => do
    let token ← peekToken
    let token ← match token.kind, entries with
      | .flowMappingEnd, _ => pure token
      | _, none => pure token
      | .flowEntry, some _ => nextToken
      | _, some _ => structureFault context "did not find expected ',' or '\x7d'" token.start
    match token.kind with
    | .flowMappingEnd =>
      popToken
      return (entries.getD []).reverse
    | .key =>
      let following ← nextToken
      let key ←
        if following.kind = .value || endsFlowPair following.kind then pure (emptyNode following.start)
        else readNode false false fuel
      let token ← peekToken
      let value ← match token.kind with
        | .value => do
          let following ← nextToken
          if endsFlowPair following.kind then pure (emptyNode following.start) else readNode false false fuel
        | _ => pure (emptyNode token.start)
      readFlowPairs context fuel (some ((key, value) :: entries.getD []))
    | _ =>
      let key ← readNode false false fuel
      let token ← peekToken
      readFlowPairs context fuel (some ((key, emptyNode token.start) :: entries.getD []))

end

/-- The tag handles that need no directive. -/
def usualHandles : List (String × String) := [("!", "!"), ("!!", "tag:yaml.org,2002:")]

/-- Reads the directives before a document. -/
def readDirectives : (fuel : Nat) → (version : Bool) → List (String × String) → Read (List (String × String))
  | 0, _, handles => return handles
  | fuel + 1, version, handles => do
    let token ← peekToken
    match token.kind with
    | .version major minor =>
      if version then structureFault {} "found duplicate %YAML directive" token.start
      else if major ≠ 1 ∨ minor ≠ 1 then structureFault {} "found incompatible YAML document" token.start
      else
        popToken
        readDirectives fuel true handles
    | .tagDirective handle start =>
      if handles.any (·.1 = handle) then structureFault {} "found duplicate %TAG directive" token.start
      else
        popToken
        readDirectives fuel version (handles ++ [(handle, start)])
    | _ => return handles

/-- Whether a token means that a document which was opened has no content. -/
def endsDocument : TokenKind → Bool
  | .version .. | .tagDirective .. | .documentStart | .documentEnd | .streamEnd => true
  | _ => false

/-- Reads the first document, if there is one. -/
def readDocument (fuel : Nat) : Read (Option Node) := do
  let _ ← peekToken
  let token ← nextToken
  let node ← match token.kind with
    | .streamEnd => pure none
    | .version .. | .tagDirective .. | .documentStart => do
      let handles ← readDirectives fuel false []
      modify fun r => { r with handles := handles ++ usualHandles }
      let token ← peekToken
      if token.kind ≠ .documentStart then
        structureFault {} "did not find expected <document start>" token.start
      let following ← nextToken
      if endsDocument following.kind then pure (some (emptyNode following.start))
      else some <$> readNode true false fuel
    | _ => do
      modify fun r => { r with handles := usualHandles }
      some <$> readNode true false fuel
  if node.isSome then
    let _ ← peekToken
  return node

/-- The first document of a text, if it has one. -/
def document? (text : List Text.Piece) : Except SyntaxFault (Option Node) :=
  let cursor := Cursor.ofText (if text.isEmpty then [.char '\n'] else text)
  ((readDocument (4 * cursor.size + 16)).run { queue := { cursor } }).map (·.1)

end WatchTrial.Yaml
