import Landmarks.Yaml.Error
import Landmarks.Yaml.Tag

/-!
# Graphs of nodes

* `Node` : a scalar, a sequence or a mapping, with its type. Collections hold the numbers of other
  nodes, so an alias is just one more place with the same number, and a collection may hold itself.
* `Graph` : the nodes of a document by number.
* `Graph.flatten` : the entries that merge keys bring into a mapping put in front of its own.
-/

namespace Landmarks.Yaml

/-- What is in a node. -/
inductive Content
  | scalar (text : Str)
  | sequence (items : List Nat)
  | mapping (entries : List (Nat × Nat))
  deriving Repr

/-- A node. -/
structure Node where
  tag : Tag
  content : Content
  deriving Repr

/-- The node that stands for nothing. -/
def Node.empty : Node := ⟨.null, .scalar ""⟩

/-- Nodes by number. -/
structure Graph where
  nodes : Array Node := #[]
  deriving Repr

namespace Graph

/-- The node with a number. -/
def node (g : Graph) (n : Nat) : Node := g.nodes.getD n .empty

/-- With one more node, which has the next number. -/
def add (g : Graph) (node : Node) : Graph := ⟨g.nodes.push node⟩

/-- With other content in a node. -/
def setContent (g : Graph) (n : Nat) (c : Content) : Graph :=
  ⟨g.nodes.modify n fun node => { node with content := c }⟩

/-- With another type of a node. -/
def setTag (g : Graph) (n : Nat) (t : Tag) : Graph :=
  ⟨g.nodes.modify n fun node => { node with tag := t }⟩

/-- The entries of a mapping; other nodes have none. -/
def entries (g : Graph) (n : Nat) : List (Nat × Nat) :=
  match (g.node n).content with
  | .mapping es => es
  | _ => []

/-- The number of entries of all mappings. -/
def entryCount (g : Graph) : Nat := g.nodes.foldl (fun k node =>
  match node.content with
  | .mapping es => k + es.length
  | _ => k) 0

/-! ## Merging -/

/-- A change of a graph. -/
abbrev Change := StateT Graph (Except Error)

/-- The entries of a node that must be a mapping, once it is flat. -/
def flatEntries (flatten : Nat → Change Unit) (n : Nat) : Change (List (Nat × Nat)) := do
  match ((← get).node n).content with
  | .mapping _ =>
    flatten n
    return (← get).entries n
  | _ => throw .malformed

/-- The entries that the value of a merge key brings in: those of one mapping, or of several, where an
earlier one overrides a later one. -/
def mergedEntries (flatten : Nat → Change Unit) (value : Nat) : Change (List (Nat × Nat)) := do
  match ((← get).node value).content with
  | .sequence items => return (← items.mapM (flatEntries flatten)).reverse.flatten
  | _ => flatEntries flatten value

/-- Look through `count` entries of a mapping from a place on. Merge keys leave the mapping, and what
they bring in is the answer; a key `=` becomes an ordinary string for good. -/
def takeMerges (flatten : Nat → Change Unit) (n : Nat) :
    (count place : Nat) → Change (List (Nat × Nat))
  | 0, _ => return []
  | count + 1, place => do
    let g ← get
    match (g.entries n)[place]? with
    | none => return []
    | some (key, value) =>
      if (g.node key).tag == .merge then
        set (g.setContent n (.mapping ((g.entries n).eraseIdx place)))
        let merged ← mergedEntries flatten value
        return merged ++ (← takeMerges flatten n count place)
      else
        if (g.node key).tag == .value then set (g.setTag key .str)
        takeMerges flatten n count (place + 1)

/-- Put the entries that merge keys bring into a mapping in front of its own, which override them. A
merge key is gone before the mapping under it is looked at, so a mapping that is merged into itself
is no obstacle, and `depth` need not exceed the number of entries. -/
def flattenWithin : (depth : Nat) → (n : Nat) → Change Unit
  | 0, _ => throw .malformed
  | depth + 1, n => do
    let merged ← takeMerges (flattenWithin depth) n ((← get).entries n).length 0
    modify fun g => if merged.isEmpty then g else g.setContent n (.mapping (merged ++ g.entries n))

/-- Put the entries that merge keys bring into a mapping in front of its own. -/
def flatten (n : Nat) : Change Unit := do flattenWithin ((← get).entryCount + 1) n

end Graph

end Landmarks.Yaml
