import Landmarks.Yaml.Graph
import Landmarks.Yaml.Scalar
import Landmarks.Yaml.SetOrder

/-!
# Documents

* `Shape` : what a node denotes: a scalar value, or a collection of nodes.
* `Build` : the denotations of nodes, found from the root down. A collection counts as found when it
  is met, and its inside is looked at only after all collections that were met before it; so of two
  faults the one nearer to the root is met first.
* `Document` : the denotations of all nodes of a document and its root.
* `Document.value` : the value of a node. A collection inside itself is cut off.
-/

namespace Landmarks.Yaml

/-- What a node denotes. -/
inductive Shape
  | scalar (value : Value)
  | list (items : List Nat)
  | map (entries : List (Nat × Nat))
  | set (items : List Nat)
  | pairs (items : List (Nat × Nat))
  deriving Repr

/-- The state of finding denotations: the graph, which merging changes, what was found, and the
collections that were met and not looked into, last one first. -/
structure Building where
  graph : Graph
  shapes : Array (Option Shape)
  met : List Nat := []

/-- Finding of denotations. -/
abbrev Build := StateT Building (Except Error)

namespace Build

/-- The node with a number. -/
def nodeAt (n : Nat) : Build Node := do return (← get).graph.node n

/-- Note what a node denotes. -/
def found (n : Nat) (s : Shape) : Build Unit :=
  modify fun b => { b with shapes := b.shapes.setIfInBounds n (some s) }

/-- The text of a node as a scalar: a mapping may give it under the key `=`. `depth` bounds how many
such mappings are passed. -/
def scalarText (g : Graph) : (depth : Nat) → Nat → Except Error Str
  | 0, _ => .error .malformed
  | depth + 1, n =>
    match (g.node n).content with
    | .scalar text => .ok text
    | .sequence _ => .error .malformed
    | .mapping entries =>
      match entries.find? fun e => (g.node e.1).tag == .value with
      | some (_, v) => scalarText g depth v
      | none => .error .malformed

/-- The value of a node of a scalar type. A time must be written in the node itself. -/
def scalarValue (g : Graph) (n : Nat) : Except Error Value := do
  let node := g.node n
  match node.tag, node.content with
  | .merge, _ | .value, _ | .other, _ => .error .malformed
  | tag, content =>
    let text ← scalarText g (g.nodes.size + 1) n
    match tag, content with
    | .timestamp, .mapping _ => .error .notText
    | _, _ => Value.ofScalar tag text

/-- Meet a node: a scalar is read at once, the inside of a collection is left for later. -/
def meet (n : Nat) : Build Unit := do
  let b ← get
  if (b.shapes.getD n none).isSome then return
  else if (b.graph.node n).tag.isCollection then
    found n (.list [])
    modify fun b => { b with met := n :: b.met }
  else
    match scalarValue b.graph n with
    | .ok v => found n (.scalar v)
    | .error e => throw e

/-- Whether two nodes are the same key of a mapping. The word for what is not a number always denotes
the same value; other numbers that are none are equal to nothing but themselves. -/
def sameKey (b : Building) (m n : Nat) : Bool :=
  let isNan (k : Nat) : Bool :=
    match b.graph.node k with
    | ⟨.float, .scalar text⟩ => isNanWord text.toChars
    | _ => false
  match b.shapes.getD m none, b.shapes.getD n none with
  | some (.scalar x), some (.scalar y) => m == n || (isNan m && isNan n) || x.sameKey y
  | _, _ => false

/-- Set an entry: an old value is replaced in its place, a new entry comes last. -/
def put (b : Building) (key value : Nat) : List (Nat × Nat) → List (Nat × Nat)
  | [] => [(key, value)]
  | (k, v) :: rest => if sameKey b k key then (k, value) :: rest else (k, v) :: put b key value rest

/-- Meet the nodes of a mapping, its merge keys resolved: each key once. A collection is no key. -/
def meetEntries (n : Nat) : Build (List (Nat × Nat)) := do
  let b ← get
  match (Graph.flatten n).run b.graph with
  | .error e => throw e
  | .ok (_, graph) =>
    set { b with graph }
    (graph.entries n).foldlM (fun acc (key, value) => do
      meet key
      if (← nodeAt key).tag.isCollection then throw .malformed
      meet value
      return put (← get) key value acc) []

/-- Meet the nodes of a mapping of one entry. -/
def meetPair (n : Nat) : Build (Nat × Nat) := do
  match (← nodeAt n).content with
  | .mapping [(key, value)] =>
    meet key
    meet value
    return (key, value)
  | _ => throw .malformed

/-- Look into a collection. -/
def fill (n : Nat) : Build Unit := do
  let node ← nodeAt n
  match node.tag, node.content with
  | .seq, .sequence items =>
    items.forM meet
    found n (.list items)
  | .map, .mapping _ => found n (.map (← meetEntries n))
  | .set, .mapping _ => found n (.set ((← meetEntries n).map (·.1)))
  | .omap, .sequence items | .pairs, .sequence items => found n (.pairs (← items.mapM meetPair))
  | _, _ => throw .malformed

/-- Look into all collections that were met, in the order in which they were met, until no new ones
are met. Each is met once, so the number of nodes bounds the rounds. -/
def fillAll : (rounds : Nat) → Build Unit
  | 0 => throw .malformed
  | rounds + 1 => do
    let met := (← get).met.reverse
    if met.isEmpty then return
    modify fun b => { b with met := [] }
    met.forM fill
    fillAll rounds

end Build

/-- What the nodes of a document denote, and its root. -/
structure Document where
  shapes : Array Shape
  root : Nat
  deriving Repr

namespace Document

/-- The document that is an empty mapping. -/
def empty : Document := ⟨#[.map []], 0⟩

/-- The document of a graph with a root. -/
def ofGraph (g : Graph) (root : Nat) : Except Error Document := do
  let size := g.nodes.size
  let build : Build Unit := do
    Build.meet root
    Build.fillAll (size + 1)
  let (_, b) ← build.run { graph := g, shapes := Array.replicate size none }
  return ⟨b.shapes.map fun s => s.getD (.scalar .null), root⟩

/-- What a node denotes. -/
def shape (d : Document) (n : Nat) : Shape := d.shapes.getD n (.scalar .null)

/-- The value of a node that was reached through the collections `path`; each of them is cut off where
it comes again. -/
def valueWithin (d : Document) : (depth : Nat) → (path : List Nat) → Nat → Value
  | 0, _, _ => .null
  | depth + 1, path, n =>
    let inner := d.valueWithin depth (n :: path)
    match d.shape n with
    | .scalar v => v
    | .list items => if path.contains n then .cycle false else .list (items.map inner)
    | .map entries =>
      if path.contains n then .cycle true else .map (entries.map fun (k, v) => (inner k, inner v))
    | .set items => .set (Value.inSetOrder (items.map inner))
    | .pairs items =>
      if path.contains n then .cycle false
      else .list (items.map fun (k, v) => .pair (inner k) (inner v))

/-- The value of a node. No path has more collections than there are nodes. -/
def value (d : Document) (n : Nat) : Value := d.valueWithin (d.shapes.size + 1) [] n

/-- The entries of a mapping, each value as it is seen by itself; other nodes have none. -/
def entries (d : Document) (n : Nat) : List (Value × Value) :=
  match d.shape n with
  | .map es => es.map fun (k, v) => (d.value k, d.value v)
  | _ => []

/-- Whether the root is a mapping. -/
def isMap (d : Document) : Bool :=
  match d.shape d.root with
  | .map _ => true
  | _ => false

/-- The entries of the mapping that the root has under a key. -/
def sectionEntries (d : Document) (key : String) : List (Value × Value) :=
  match d.shape d.root with
  | .map es =>
    match es.find? fun e => (d.value e.1).sameKey (.str key) with
    | some (_, n) => d.entries n
    | none => []
  | _ => []

end Document

end Landmarks.Yaml
