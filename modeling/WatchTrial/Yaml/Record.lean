import WatchTrial.Yaml.Document
import WatchTrial.Text.Quoted
import WatchTrial.Duration
import Std.Data.TreeSet
/-!
# Filling a record from a document

A document is laid over a record: a mapping sets the fields that it names and leaves the others. A value
of a wrong type is noted with its line and the field keeps what it had; the notes are given together.
Only a document that contradicts itself stops the filling.
-/
namespace WatchTrial.Yaml

/-- A place in a record that a node can fill. -/
inductive Slot (σ : Type) where
  | text (set : String → σ → σ)
  | int (set : Int64 → σ → σ)
  | duration (set : Int64 → σ → σ)
  /-- A list of texts; null makes it absent. -/
  | texts (set : Option (List String) → σ → σ)
  /-- A group of named places, and the name of its type. -/
  | group (typeName : String) (fields : List (String × Slot σ))

def Slot.typeName {σ : Type} : Slot σ → String
  | .text _ => "string"
  | .int _ => "int"
  | .duration _ => "time.Duration"
  | .texts _ => "[]string"
  | .group name _ => name

structure Filling (σ : Type) where
  value : σ
  /-- What did not fit, the latest first. -/
  notes : List String := []
  /-- While other mappings are merged in: the keys that are already taken. -/
  taken : Option (Std.TreeSet String) := none
  /-- How many nodes were visited, and how many of them through aliases. -/
  visits : Nat := 0
  aliasVisits : Nat := 0

/-- Fills a record; a fault that stops it is its words. -/
abbrev Fill (σ α : Type) := StateT (Filling σ) (Except String) α

variable {σ : Type}

/-- A text of more than ten bytes, cut to seven. -/
def clip (s : String) : String :=
  if s.utf8ByteSize ≤ 10 then s
  else Text.ofBytes (s.toUTF8.toList.take 7) ++ "..."

def note (s : String) : Fill σ Unit :=
  modify fun f => { f with notes := s :: f.notes }

def mismatch (node : Node) (typeName : String) : Fill σ Unit :=
  let shown :=
    if node.tag = "!!seq" ∨ node.tag = "!!map" then node.text else " `" ++ clip node.text ++ "`"
  note ("line " ++ toString node.line ++ ": cannot unmarshal " ++ node.tag ++ shown ++ " into " ++ typeName)

/-- How far aliases may multiply a document: 99 of 100 visits, and fewer in a large one. -/
def excessive (visits aliasVisits : Nat) : Bool :=
  let allowed : Float :=
    if visits ≤ 400000 then 0.99
    else if 4000000 ≤ visits then 0.10
    else 0.99 - 0.89 * (Float.ofNat (visits - 400000) / 3600000.0)
  100 < aliasVisits && 1000 < visits && decide (allowed < Float.ofNat aliasVisits / Float.ofNat visits)

/-- Counts a visit of a node. -/
def visit (inAlias : Bool) : Fill σ Unit := do
  modify fun f => { f with visits := f.visits + 1, aliasVisits := f.aliasVisits + (if inAlias then 1 else 0) }
  let f ← get
  if excessive f.visits f.aliasVisits then throw "document contains excessive aliasing"

def noteRepeats : List (Node × Node) → Fill σ Unit
  | [] => return ()
  | (key, _) :: rest => do
    for (later, _) in rest do
      if key.sameKey later then
        note ("line " ++ toString later.line ++ ": mapping key " ++ Text.quote later.text ++
          " already defined at line " ++ toString key.line)
    noteRepeats rest

/-- Whether some key comes twice, `seen` being the kinds and texts of those before. -/
def hasRepeats (seen : Std.TreeSet (Nat × String) (compareLex (compareOn Prod.fst) (compareOn Prod.snd))) :
    List (Node × Node) → Bool
  | [] => false
  | (key, _) :: rest => seen.contains key.likeness || hasRepeats (seen.insert key.likeness) rest

/-- Notes the keys of a mapping that are equal to an earlier one, and says whether there were none. -/
def distinctKeys (entries : List (Node × Node)) : Fill σ Bool := do
  if hasRepeats {} entries then
    noteRepeats entries
    return false
  else return true

/-- Reads a text, if the node is one. -/
def readText (inAlias : Bool) : (fuel : Nat) → Node → Fill σ (Option String)
  | 0, _ => return none
  | fuel + 1, node => do
    visit inAlias
    match node with
    | .reference _ name none => throw ("anchor '" ++ name ++ "' value contains itself")
    | .reference _ _ (some target) => readText true fuel target
    | .scalar _ tag text =>
      match ← scalarValue tag text with
      | .null => return none
      | .text s => return some s
      | _ => return some text
    | .sequence .. =>
      mismatch node "string"
      return none
    | .mapping _ _ entries =>
      if ← distinctKeys entries then mismatch node "string"
      return none

/-- The number of a whole or broken value, if it fits into 64 bits from above. -/
def asInt64? : Value → Option Int64
  | .int n => if n < Nat.pow 2 63 then some (Int64.ofInt n) else none
  | .float x =>
    if x ≤ 9223372036854775808.0 then
      some (if 9223372036854775808.0 ≤ x then Int64.minValue else x.toInt64)
    else none
  | _ => none

/-- Whether a key merges the mapping that is its value. -/
def isMerge : Node → Bool
  | .scalar _ tag text => text == "<<" && tag == "!!merge"
  | _ => false

/-- The text of a key, if it stands for one. -/
def keyText (inAlias : Bool) (key : Node) : Fill σ (Option String) := do
  visit inAlias
  match key with
  | .scalar _ tag text => ofValue <$> (scalarValue tag text : Except String Value)
  | .reference _ _ (some (.scalar _ tag text)) =>
    visit true
    ofValue <$> (scalarValue tag text : Except String Value)
  | _ => return none
where
  /-- The text of a value that is one. -/
  ofValue : Value → Option String
    | .text s => some s
    | _ => none

def textKeys (inAlias : Bool) (entries : List (Node × Node)) : Fill σ (Std.TreeSet String) := do
  let mut keys := {}
  for (key, _) in entries do
    if let some s ← keyText inAlias key then keys := keys.insert s
  return keys

def mergeFault : String := "map merge requires map or sequence of maps as the value"

def isMapping : Node → Bool
  | .mapping .. => true
  | .reference _ _ (some (.mapping ..)) => true
  | .reference _ _ none => true
  | _ => false

def mergeSources (node : Node) : List Node :=
  match node with
  | .sequence _ _ items => items
  | node => [node]

/-- Fills named places from entries, and merges at the end. `fill` fills a place that is one level down. -/
def fillFields (fill : Slot σ → Node → Fill σ Unit) (name : String) (fields : List (String × Slot σ)) (inAlias : Bool)
    (fuel : Nat) (taken : Option (Std.TreeSet String)) (all : List (Node × Node)) : Fill σ Unit := do
  let mut taken := taken
  let mut done : List String := []
  let mut merged : Option Node := none
  for (key, value) in all do
    if isMerge key then
      merged := some value
      continue
    match ← readText inAlias fuel key with
    | none => continue
    | some field =>
      match taken with
      | some names =>
        if names.contains field then continue
        taken := some (names.insert field)
      | none => pure ()
      match fields.find? (·.1 = field) with
      | none => continue
      | some (_, slot) =>
        if done.contains field then
          note ("line " ++ toString key.line ++ ": field " ++ field ++ " already set in type " ++ name)
          continue
        done := field :: done
        fill slot value
  modify fun f => { f with taken }
  match merged with
  | none => return ()
  | some node =>
    if taken.isNone then
      let keys ← textKeys inAlias all
      modify fun f => { f with taken := some keys }
    for source in mergeSources node do
      if ! isMapping source then throw mergeFault
      fill (.group name fields) source
    if taken.isNone then
      modify fun f => { f with taken := none }

def fill (slot : Slot σ) (inAlias : Bool) : (fuel : Nat) → Node → Fill σ Unit
  | 0, _ => return ()
  | fuel + 1, node => do
    let put (g : σ → σ) : Fill σ Unit := modify fun f => { f with value := g f.value }
    match slot, node with
    | .text set, _ =>
      match ← readText inAlias (fuel + 1) node with
      | some s => put (set s)
      | none => return ()
    | _, .reference _ name none =>
      visit inAlias
      throw ("anchor '" ++ name ++ "' value contains itself")
    | _, .reference _ _ (some target) =>
      visit inAlias
      fill slot true fuel target
    | _, .scalar _ tag text =>
      visit inAlias
      let value ← scalarValue tag text
      match slot, value with
      | .texts set, .null => put (set none)
      | _, .null => return ()
      | .duration set, .text s =>
        match Duration.read? s with
        | some d => put (set d)
        | none => mismatch node slot.typeName
      | .int set, value =>
        match asInt64? value with
        | some n => put (set n)
        | none => mismatch node slot.typeName
      | _, _ => mismatch node slot.typeName
    | .texts set, .sequence _ _ items =>
      visit inAlias
      let found ← items.mapM (readText inAlias fuel)
      put (set (some (found.filterMap id)))
    | .group name fields, .mapping _ _ entries =>
      visit inAlias
      if ← distinctKeys entries then
        let taken := (← get).taken
        modify fun f => { f with taken := none }
        fillFields (fun slot node => fill slot inAlias fuel node) name fields inAlias fuel taken entries
    | _, .mapping _ _ entries =>
      visit inAlias
      if ← distinctKeys entries then mismatch node slot.typeName
    | _, .sequence .. =>
      visit inAlias
      mismatch node slot.typeName

def fillFrom (slot : Slot σ) (value : σ) (source : List Text.Piece) : Except String σ :=
  match document? source with
  | .error fault => .error ("yaml: " ++ fault.message)
  | .ok none => .ok value
  | .ok (some node) =>
    match (do visit false; fill slot false (4 * source.length + 16) node).run { value } with
    | .error problem => .error ("yaml: " ++ problem)
    | .ok (_, f) =>
      if f.notes.isEmpty then .ok f.value
      else .error ("yaml: unmarshal errors:\n  " ++ "\n  ".intercalate f.notes.reverse)

end WatchTrial.Yaml
