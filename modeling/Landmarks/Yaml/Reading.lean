import Landmarks.Yaml.Graph
import Landmarks.Yaml.Token

/-!
# Reading a graph of nodes

* `Read` : reading of a part of a document, token by token. A fault of the text is met only when the
  tokens before it are used up, so what is wrong with those comes first.
* `Graph.ofTokens` : the graph of the one document of a text with the number of its root; an empty
  text has none.
-/

namespace Landmarks.Yaml

/-- The state of reading nodes: the tokens left, what anchors refer to, the stems of tag handles, and
the nodes so far. -/
structure Reading where
  tokens : Tokens
  anchors : List (List Char × Nat) := []
  handles : List (List Char × List Char) := []
  graph : Graph := {}

/-- Reading of a part of a document. -/
abbrev Read := StateT Reading (Except Error)

namespace Read

/-- The next token. -/
def peek : Read Token := do
  let ts := (← get).tokens
  match ts.ready, ts.fault with
  | t :: _, _ => return t
  | [], some e => throw e
  | [], none => return .streamEnd

/-- Past one token. -/
def advance : Read Unit :=
  modify fun r => { r with tokens := { r.tokens with ready := r.tokens.ready.tail } }

/-- Whether the next token is one of the given ones. -/
def at? (ts : List Token) : Read Bool := do return ts.contains (← peek)

/-- A text that is no document. -/
def fail {α : Type} : Read α := throw .malformed

/-! ## Nodes -/

/-- A new node. -/
def add (node : Node) : Read Nat := do
  let n := (← get).graph.nodes.size
  modify fun r => { r with graph := r.graph.add node }
  return n

/-- The node that stands for nothing. -/
def nothing : Read Nat := add .empty

/-- Give an anchor to a node. -/
def bindAnchor (name : Option (List Char)) (n : Nat) : Read Unit :=
  modify fun r => { r with anchors := (name.toList.map fun name => (name, n)) ++ r.anchors }

/-- The node that an alias refers to. -/
def resolveAlias (name : List Char) : Read Nat := do
  match (← get).anchors.find? fun e => e.1 == name with
  | some (_, n) => return n
  | none => fail

/-- A new scalar. -/
def scalar (name : Option (List Char)) (tag : Tag) (text : Str) : Read Nat := do
  let n ← add ⟨tag, .scalar text⟩
  bindAnchor name n
  return n

/-- A new collection. Its anchor can be used inside it. -/
def collection (name : Option (List Char)) (tag : Tag) (content : Read Content) : Read Nat := do
  let n ← add ⟨tag, .scalar ""⟩
  bindAnchor name n
  let c ← content
  modify fun r => { r with graph := r.graph.setContent n c }
  return n

/-! ## Properties -/

/-- A tag as it is written, if one comes next. -/
def tag? : Read (Option (Option (List Char) × List Char)) := do
  match ← peek with
  | .tag handle suffix =>
    advance
    return some (handle, suffix)
  | _ => return none

/-- An anchor, if one comes next. -/
def anchor? : Read (Option (List Char)) := do
  match ← peek with
  | .anchor name =>
    advance
    return some name
  | _ => return none

/-- The full form of a tag. -/
def fullTag (tag : Option (Option (List Char) × List Char)) : Read (Option (List Char)) := do
  match tag with
  | none => return none
  | some (none, suffix) => return some suffix
  | some (some h, suffix) =>
    match (← get).handles.find? fun e => e.1 == h with
    | some (_, stem) => return some (stem ++ suffix)
    | none => fail

/-- An anchor and a tag in either order. -/
def properties : Read (Option (List Char) × Option (List Char)) := do
  match ← anchor? with
  | some name => return (some name, ← fullTag (← tag?))
  | none =>
    let tag ← tag?
    let name ← if tag.isSome then anchor? else pure none
    return (name, ← fullTag tag)

/-- The type of a scalar; a lone exclamation mark asks for the type of its form. -/
def scalarTag (tag : Option (List Char)) (plain : Bool) (text : Str) : Tag :=
  match tag with
  | none => if plain then Tag.ofPlain text.toChars else .str
  | some t => if t == ['!'] then Tag.ofPlain text.toChars else Tag.ofText t

/-- The type of a collection. -/
def collectionTag (tag : Option (List Char)) (standard : Tag) : Tag :=
  match tag with
  | none => standard
  | some t => if t == ['!'] then standard else Tag.ofText t

/-! ## The grammar -/

mutual

/-- A node. Block collections may come only when `block`, and the entries of a sequence without an
indent of its own only when `bare`. -/
def node : (fuel : Nat) → (block bare : Bool) → Read Nat
  | 0, _, _ => fail
  | fuel + 1, block, bare => do
    match ← peek with
    | .alias name =>
      advance
      resolveAlias name
    | _ =>
      let (name, tag) ← properties
      let t ← peek
      if (← get).anchors.any fun e => some e.1 == name then fail
      let sequence := collection name (collectionTag tag .seq)
      let mapping := collection name (collectionTag tag .map)
      let missing : Read Nat :=
        if name.isSome || tag.isSome then scalar name (scalarTag tag true "") "" else fail
      if bare && t == .blockEntry then sequence (do return .sequence (← bareEntries fuel))
      else
        match t with
        | .scalar text plain =>
          advance
          scalar name (scalarTag tag plain text) text
        | .flowSequence =>
          advance
          sequence do return .sequence (← flowItems fuel true)
        | .flowMapping =>
          advance
          mapping do return .mapping (← flowEntries fuel true)
        | .blockSequence =>
          if block then
            advance
            sequence do return .sequence (← blockEntries fuel)
          else missing
        | .blockMapping =>
          if block then
            advance
            mapping do return .mapping (← mappingEntries fuel)
          else missing
        | _ => missing

/-- The entries of a block sequence up to its end. -/
def blockEntries : (fuel : Nat) → Read (List Nat)
  | 0 => fail
  | fuel + 1 => do
    match ← peek with
    | .blockEntry =>
      advance
      let item ← if ← at? [.blockEntry, .blockEnd] then nothing else node fuel true false
      return item :: (← blockEntries fuel)
    | .blockEnd =>
      advance
      return []
    | _ => fail

/-- The entries of a sequence that has no indent of its own. -/
def bareEntries : (fuel : Nat) → Read (List Nat)
  | 0 => fail
  | fuel + 1 => do
    match ← peek with
    | .blockEntry =>
      advance
      let item ←
        if ← at? [.blockEntry, .key, .value, .blockEnd] then nothing else node fuel true false
      return item :: (← bareEntries fuel)
    | _ => return []

/-- The entries of a block mapping up to its end. -/
def mappingEntries : (fuel : Nat) → Read (List (Nat × Nat))
  | 0 => fail
  | fuel + 1 => do
    match ← peek with
    | .key =>
      advance
      let k ← if ← at? [.key, .value, .blockEnd] then nothing else node fuel true true
      let v ← mappingValue fuel
      return (k, v) :: (← mappingEntries fuel)
    | .blockEnd =>
      advance
      return []
    | _ => fail

/-- The value of an entry of a block mapping. -/
def mappingValue : (fuel : Nat) → Read Nat
  | 0 => fail
  | fuel + 1 => do
    match ← peek with
    | .value =>
      advance
      if ← at? [.key, .value, .blockEnd] then nothing else node fuel true true
    | _ => nothing

/-- The items of a flow sequence up to its end. -/
def flowItems : (fuel : Nat) → (first : Bool) → Read (List Nat)
  | 0, _ => fail
  | fuel + 1, first => do
    match ← peek with
    | .flowSequenceEnd =>
      advance
      return []
    | t =>
      if !first then
        if t == .flowEntry then advance else fail
      match ← peek with
      | .flowSequenceEnd =>
        advance
        return []
      | .key =>
        advance
        let item ← collection none .map do
          let k ←
            if ← at? [.value, .flowEntry, .flowSequenceEnd] then nothing
            else node fuel false false
          return .mapping [(k, ← flowValue fuel .flowSequenceEnd)]
        return item :: (← flowItems fuel false)
      | _ =>
        let item ← node fuel false false
        return item :: (← flowItems fuel false)

/-- The entries of a flow mapping up to its end. -/
def flowEntries : (fuel : Nat) → (first : Bool) → Read (List (Nat × Nat))
  | 0, _ => fail
  | fuel + 1, first => do
    match ← peek with
    | .flowMappingEnd =>
      advance
      return []
    | t =>
      if !first then
        if t == .flowEntry then advance else fail
      match ← peek with
      | .flowMappingEnd =>
        advance
        return []
      | .key =>
        advance
        let k ←
          if ← at? [.value, .flowEntry, .flowMappingEnd] then nothing
          else node fuel false false
        let v ← flowValue fuel .flowMappingEnd
        return (k, v) :: (← flowEntries fuel false)
      | _ =>
        let k ← node fuel false false
        let v ← nothing
        return (k, v) :: (← flowEntries fuel false)

/-- The value of an entry of a flow collection that ends with `closing`. -/
def flowValue : (fuel : Nat) → (closing : Token) → Read Nat
  | 0, _ => fail
  | fuel + 1, closing => do
    match ← peek with
    | .value =>
      advance
      if ← at? [.flowEntry, closing] then nothing else node fuel false false
    | _ => nothing

end

/-- The stems of the handles that need no directive. -/
def standardHandles : List (List Char × List Char) :=
  [(['!'], ['!']), (['!', '!'], Tag.stem.toList)]

/-- The directives before a document, up to its start mark. Gives the stems of the handles that they
declare. -/
def directives : (fuel : Nat) → (seenVersion : Bool) → List (List Char × List Char) →
    Read (List (List Char × List Char))
  | 0, _, _ => fail
  | fuel + 1, seenVersion, handles => do
    match ← peek with
    | .yamlDirective major =>
      advance
      if seenVersion || major != 1 then fail else directives fuel true handles
    | .tagDirective handle stem =>
      advance
      if handles.any fun e => e.1 == handle then fail
      else directives fuel seenVersion ((handle, stem) :: handles)
    | .otherDirective =>
      advance
      directives fuel seenVersion handles
    | .documentStart =>
      advance
      return handles
    | _ => fail

/-- Whether a token is a directive. -/
def isDirective : Token → Bool
  | .yamlDirective _ | .tagDirective _ _ | .otherDirective => true
  | _ => false

/-- Past all end marks. -/
def skipEnds : (fuel : Nat) → Read Unit
  | 0 => fail
  | fuel + 1 => do
    if ← at? [.documentEnd] then
      advance
      skipEnds fuel

/-- The one document of a text: nothing but end marks may follow it. -/
def document : Read (Option Nat) := do
  let first ← peek
  if first == .streamEnd then return none
  else
    let size := (← get).tokens.ready.length
    let root ←
      if isDirective first || first == .documentStart then do
        let declared ← directives (size + 1) false []
        modify fun r => { r with handles := declared ++ standardHandles }
        let t ← peek
        if isDirective t || t == .documentStart || t == .documentEnd || t == .streamEnd then nothing
        else node (2 * size + 2) true false
      else do
        modify fun r => { r with handles := standardHandles }
        node (2 * size + 2) true false
    skipEnds (size + 1)
    let next ← peek
    if next == .streamEnd then return some root
    else
      if isDirective next then
        let _ ← directives (size + 1) false []
      fail

end Read

/-- The graph of the one document of a text, with the number of its root. -/
def Graph.ofTokens (ts : Tokens) : Except Error (Option (Graph × Nat)) := do
  let (root, r) ← Read.document.run { tokens := ts }
  return root.map fun n => (r.graph, n)

end Landmarks.Yaml
