import WatchTrial.Text.Decimal
/-!
# Nodes of a document

A node is a scalar, a sequence, a mapping, or an alias of an earlier node. Each has the line it starts
on, counted from one, and a tag. A plain scalar without a tag gets one from its text.
-/
namespace WatchTrial.Yaml

/-- A node. An alias inside the node that it names has no target. -/
inductive Node where
  | scalar (line : Nat) (tag text : String)
  | sequence (line : Nat) (tag : String) (items : List Node)
  | mapping (line : Nat) (tag : String) (entries : List (Node × Node))
  | reference (line : Nat) (name : String) (target : Option Node)
deriving Repr, Inhabited

namespace Node

def line : Node → Nat
  | scalar line _ _ | sequence line _ _ | mapping line _ _ | reference line _ _ => line

/-- The tag of a node; an alias has none. -/
def tag : Node → String
  | scalar _ tag _ | sequence _ tag _ | mapping _ tag _ => tag
  | reference .. => ""

/-- The text of a scalar, the name of an alias, and nothing for a collection. -/
def text : Node → String
  | scalar _ _ text => text
  | reference _ name _ => name
  | _ => ""

/-- What two equal keys have in common: the kind of node, as a number, and the text. -/
def likeness : Node → Nat × String
  | scalar _ _ text => (0, text)
  | sequence .. => (1, "")
  | mapping .. => (2, "")
  | reference _ name _ => (3, name)

/-- Whether two nodes are of one kind and have one text, as two equal keys do. -/
def sameKey (a b : Node) : Bool := a.likeness == b.likeness

end Node

/-- Tags of the core types are written with two marks. -/
def shortTag (tag : String) : String :=
  if tag.startsWith "tag:yaml.org,2002:" then
    "!!" ++ String.ofList (tag.toList.drop "tag:yaml.org,2002:".length)
  else tag

end WatchTrial.Yaml
