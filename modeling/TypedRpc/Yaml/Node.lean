import TypedRpc.Yaml.Lexer
import TypedRpc.Yaml.Tag

/-!
# Nodes

The tree that the tokens of a YAML text describe: scalars, sequences and mappings, each with its
tag.  No two nodes of a document may have the same anchor.  An alias stands for the node that its
anchor marks.  Where it stands inside that node, the node cannot be put in its place: what is left
there is a reference by the name of the anchor.

Collections are numbered, so that a collection that stands in several places is known as one.  They
may stand inside each other only so deep, since a reader that goes into each of them would run out
of frames.

A text holds at most one document; a text without any has no node.
-/

namespace TypedRpc
namespace Yaml

/-- A node of a document. -/
inductive Node where
  | scalar (tag : Tag) (text : String)
  | sequence (number : Nat) (tag : Tag) (items : List Node)
  | mapping (number : Nat) (tag : Tag) (entries : List (Node × Node))
  /-- The node around this one that has an anchor. -/
  | reference (anchor : String)
  deriving Repr

/-- What is left to read, the nodes with anchors that have been begun, the next number of a
collection, and how many collections are open.  Anchors without a node mark nodes that have not been
read to their end. -/
structure Source where
  tokens : List Token
  anchors : List (String × Option Node) := []
  number : Nat := 0
  depth : Nat := 0

/-- The most collections that may stand inside each other: each takes two of the thousand frames
that a reader has, and the work around it takes the rest. -/
def maxDepth : Nat := 490

/-- The names that stand for the beginnings of tags. -/
abbrev Handles : Type := List (String × String)

/-- The handles of a document that declares none. -/
def defaultHandles : Handles := [("!", "!"), ("!!", coreTagPrefix)]

/-- What stands before a value: an anchor and a tag. -/
structure Properties where
  anchor : Option String := none
  tag : Option TagToken := none

/-- A node that has been read, and what is left. -/
abbrev NodeRead : Type := Except Failure (Node × Source)

namespace Source

/-- The source without its first token. -/
def drop (source : Source) : Source :=
  { source with tokens := source.tokens.drop 1 }

/-- Whether one of some tokens comes next. -/
def nextIn (source : Source) (expected : List Token) : Bool :=
  match source.tokens with
  | token :: _ => expected.contains token
  | [] => false

/-- The anchor and the tag here, in either order. -/
def properties (source : Source) : Properties × Source :=
  match source.tokens with
  | .anchor name :: .tag tag :: rest => (⟨some name, some tag⟩, { source with tokens := rest })
  | .tag tag :: .anchor name :: rest => (⟨some name, some tag⟩, { source with tokens := rest })
  | .anchor name :: rest => (⟨some name, none⟩, { source with tokens := rest })
  | .tag tag :: rest => (⟨none, some tag⟩, { source with tokens := rest })
  | _ => ({}, source)

/-- Begins a node with an anchor. -/
def beginAnchor (source : Source) : Option String → Except Failure Source
  | none => .ok source
  | some name =>
    if (source.anchors.lookup name).isSome then .error .malformed
    else .ok { source with anchors := (name, none) :: source.anchors }

/-- The node that an anchor marks. -/
def marked (source : Source) (anchor : String) : Except Failure Node :=
  match source.anchors.lookup anchor with
  | some (some node) => .ok node
  | some none => .ok (.reference anchor)
  | none => .error .malformed

/-- Opens a collection, if there are not too many around it. -/
def enter (source : Source) : Except Failure Source :=
  if source.depth < maxDepth then .ok { source with depth := source.depth + 1 }
  else .error .tooDeep

/-- Ends a collection, given how the node is made from its number. -/
def collect (source : Source) (node : Nat → Node) : Node × Source :=
  (node source.number, { source with number := source.number + 1, depth := source.depth - 1 })

/-- Ends a node with an anchor. -/
def finishAnchor (source : Source) (node : Node) : Option String → Source
  | none => source
  | some name => { source with anchors := (name, some node) :: source.anchors }

end Source

/-- The full name of a tag; none where the form of the node decides. -/
def tagName? (handles : Handles) : Option TagToken → Except Failure (Option String)
  | none => .ok none
  | some ⟨none, "!"⟩ => .ok none
  | some ⟨none, suffix⟩ => .ok (some suffix)
  | some ⟨some handle, suffix⟩ =>
    match handles.lookup handle with
    | some beginning => .ok (some (beginning ++ suffix))
    | none => .error .malformed

/-- The tag of a scalar.  Without a name, plain scalars and those behind a lone exclamation mark get
the tag of their notation, others that of texts. -/
def scalarTag (name : Option String) (bare plain : Bool) (text : String) : Tag :=
  match name with
  | some name => .ofName name
  | none => if plain || !bare then .ofPlain text else .text

/-- A node that is not written. -/
def emptyNode : Node := .scalar .null ""

/-- A scalar with the properties before it. -/
def scalarNode (properties : Properties) (name : Option String) (text : String) (plain : Bool) :
    Node :=
  .scalar (scalarTag name properties.tag.isNone plain text) text

/-- The tag of a collection. -/
def collectionTag (name : Option String) (form : Tag) : Tag :=
  (name.map Tag.ofName).getD form

mutual

/-- The node here, in `fuel` steps.  Collections that go by columns are read in `block` only, and
items on the column of the key before them in `indentless` only. -/
def readNode (handles : Handles) : (fuel : Nat) → (block indentless : Bool) → Source → NodeRead
  | 0, _, _, _ => .error .malformed
  | fuel + 1, block, indentless, source =>
    match source.tokens with
    | .alias name :: _ => do
      let node ← source.marked name
      pure (node, source.drop)
    | _ => do
      let (properties, source) := source.properties
      let name ← tagName? handles properties.tag
      let source ← source.beginAnchor properties.anchor
      let (node, source) ←
        match source.tokens with
        | .blockEntry :: _ =>
          if indentless then do
            let (items, source) ← readIndentless handles fuel (← source.enter)
            pure (source.collect (.sequence · (collectionTag name .sequence) items))
          else readMissing properties name source
        | .scalar text plain :: _ => pure (scalarNode properties name text plain, source.drop)
        | .flowSequenceStart :: _ => do
          let (items, source) ← readFlowItems handles fuel true (← source.drop.enter)
          pure (source.collect (.sequence · (collectionTag name .sequence) items))
        | .flowMappingStart :: _ => do
          let (entries, source) ← readFlowEntries handles fuel true (← source.drop.enter)
          pure (source.collect (.mapping · (collectionTag name .mapping) entries))
        | .blockSequenceStart :: _ =>
          if block then do
            let (items, source) ← readBlockItems handles fuel (← source.drop.enter)
            pure (source.collect (.sequence · (collectionTag name .sequence) items))
          else readMissing properties name source
        | .blockMappingStart :: _ =>
          if block then do
            let (entries, source) ← readBlockEntries handles fuel (← source.drop.enter)
            pure (source.collect (.mapping · (collectionTag name .mapping) entries))
          else readMissing properties name source
        | _ => readMissing properties name source
      pure (node, source.finishAnchor node properties.anchor)

/-- A node that consists of its properties only. -/
def readMissing (properties : Properties) (name : Option String) (source : Source) : NodeRead :=
  if properties.anchor.isNone && properties.tag.isNone then .error .malformed
  else .ok (scalarNode properties name "" true, source)

/-- A node, or nothing if one of some tokens comes next. -/
def readUnless (handles : Handles) (stops : List Token) :
    (fuel : Nat) → (block indentless : Bool) → Source → NodeRead
  | 0, _, _, _ => .error .malformed
  | fuel + 1, block, indentless, source =>
    if source.nextIn stops then .ok (emptyNode, source)
    else readNode handles fuel block indentless source

/-- The items of a sequence that goes by columns. -/
def readBlockItems (handles : Handles) :
    (fuel : Nat) → Source → Except Failure (List Node × Source)
  | 0, _ => .error .malformed
  | fuel + 1, source =>
    match source.tokens with
    | .blockEntry :: _ => do
      let (item, source) ←
        readUnless handles [.blockEntry, .blockEnd] fuel true false source.drop
      let (items, source) ← readBlockItems handles fuel source
      pure (item :: items, source)
    | .blockEnd :: _ => .ok ([], source.drop)
    | _ => .error .malformed

/-- Items on the column of the key before them. -/
def readIndentless (handles : Handles) :
    (fuel : Nat) → Source → Except Failure (List Node × Source)
  | 0, _ => .error .malformed
  | fuel + 1, source =>
    match source.tokens with
    | .blockEntry :: _ => do
      let (item, source) ←
        readUnless handles [.blockEntry, .key, .value, .blockEnd] fuel true false source.drop
      let (items, source) ← readIndentless handles fuel source
      pure (item :: items, source)
    | _ => .ok ([], source)

/-- The value behind a key, or nothing if there is no colon. -/
def readValue (handles : Handles) (stops : List Token) :
    (fuel : Nat) → (block : Bool) → Source → NodeRead
  | 0, _, _ => .error .malformed
  | fuel + 1, block, source =>
    match source.tokens with
    | .value :: _ => readUnless handles stops fuel block block source.drop
    | _ => .ok (emptyNode, source)

/-- The entries of a mapping that goes by columns. -/
def readBlockEntries (handles : Handles) :
    (fuel : Nat) → Source → Except Failure (List (Node × Node) × Source)
  | 0, _ => .error .malformed
  | fuel + 1, source =>
    match source.tokens with
    | .key :: _ => do
      let stops := [.key, .value, .blockEnd]
      let (key, source) ← readUnless handles stops fuel true true source.drop
      let (value, source) ← readValue handles stops fuel true source
      let (entries, source) ← readBlockEntries handles fuel source
      pure ((key, value) :: entries, source)
    | .blockEnd :: _ => .ok ([], source.drop)
    | _ => .error .malformed

/-- The items of a sequence in brackets.  A key among them is a mapping with one entry. -/
def readFlowItems (handles : Handles) :
    (fuel : Nat) → (first : Bool) → Source → Except Failure (List Node × Source)
  | 0, _, _ => .error .malformed
  | fuel + 1, first, source =>
    match source.tokens with
    | .flowSequenceEnd :: _ => .ok ([], source.drop)
    | _ =>
      if !first && !source.nextIn [.flowEntry] then .error .malformed
      else
        let source := if first then source else source.drop
        match source.tokens with
        | .flowSequenceEnd :: _ => .ok ([], source.drop)
        | .key :: _ => do
          let source ← source.drop.enter
          let (key, source) ←
            readUnless handles [.value, .flowEntry, .flowSequenceEnd] fuel false false source
          let (value, source) ←
            readValue handles [.flowEntry, .flowSequenceEnd] fuel false source
          let (pair, source) := source.collect (.mapping · .mapping [(key, value)])
          let (items, source) ← readFlowItems handles fuel false source
          pure (pair :: items, source)
        | _ => do
          let (item, source) ← readNode handles fuel false false source
          let (items, source) ← readFlowItems handles fuel false source
          pure (item :: items, source)

/-- The entries of a mapping in braces.  A key without a colon has no value. -/
def readFlowEntries (handles : Handles) :
    (fuel : Nat) → (first : Bool) → Source → Except Failure (List (Node × Node) × Source)
  | 0, _, _ => .error .malformed
  | fuel + 1, first, source =>
    match source.tokens with
    | .flowMappingEnd :: _ => .ok ([], source.drop)
    | _ =>
      if !first && !source.nextIn [.flowEntry] then .error .malformed
      else
        let source := if first then source else source.drop
        match source.tokens with
        | .flowMappingEnd :: _ => .ok ([], source.drop)
        | .key :: _ => do
          let (key, source) ←
            readUnless handles [.value, .flowEntry, .flowMappingEnd] fuel false false source.drop
          let (value, source) ← readValue handles [.flowEntry, .flowMappingEnd] fuel false source
          let (entries, source) ← readFlowEntries handles fuel false source
          pure ((key, value) :: entries, source)
        | _ => do
          let (key, source) ← readNode handles fuel false false source
          let (entries, source) ← readFlowEntries handles fuel false source
          pure ((key, emptyNode) :: entries, source)

end

/-- The handles that directives declare, and the tokens behind them.  `versioned` tells whether a
version has been demanded. -/
def readDirectives : (versioned : Bool) → Handles → List Token →
    Except Failure (Handles × List Token)
  | versioned, handles, .directive directive :: rest =>
    match directive with
    | .version major =>
      if versioned || major ≠ 1 then .error .malformed else readDirectives true handles rest
    | .tag handle beginning =>
      if (handles.lookup handle).isSome then .error .malformed
      else readDirectives versioned ((handle, beginning) :: handles) rest
    | .other => readDirectives versioned handles rest
  | _, handles, tokens => .ok (handles, tokens)

/-- A number of steps that is enough to read some tokens. -/
def enoughSteps (tokens : List Token) : Nat :=
  4 * tokens.length + 8

/-- A document as nodes. -/
structure Graph where
  root : Node
  anchors : List (String × Node) := []
  /-- A number above those of all collections. -/
  size : Nat := 0
  /-- A number of steps that is enough to walk through nested nodes. -/
  steps : Nat := 1

/-- The nodes of a document, and the tokens behind it. -/
def readRoot (handles : Handles) (tokens : List Token) : Except Failure (Graph × List Token) := do
  let (node, source) ←
    readNode handles (enoughSteps tokens) true false { tokens := tokens }
  let anchors := source.anchors.filterMap fun (name, found) => found.map fun node => (name, node)
  pure (⟨node, anchors, source.number, tokens.length + 1⟩, source.tokens)

/-- The first document among some tokens, and the tokens behind it. -/
def readDocument (tokens : List Token) : Except Failure (Graph × List Token) :=
  match tokens with
  | .directive _ :: _ | .documentStart :: _ => do
    let (declared, rest) ← readDirectives false [] tokens
    let handles := declared ++ defaultHandles
    match rest with
    | .documentStart :: rest =>
      match rest with
      | [] => pure ({ root := emptyNode }, [])
      | .directive _ :: _ | .documentStart :: _ | .documentEnd :: _ =>
        pure ({ root := emptyNode }, rest)
      | _ => readRoot handles rest
    | _ => .error .malformed
  | _ => readRoot defaultHandles tokens

namespace Graph

/-- The only document of a text, if there is one. -/
def ofText (cs : List Char) : Except Failure (Option Graph) := do
  let tokens ← tokens cs
  if tokens.isEmpty then pure none
  else
    let (graph, rest) ← readDocument tokens
    if rest.all (· == .documentEnd) then pure (some graph) else .error .malformed

/-- The node itself, not a reference to it. -/
def resolve (graph : Graph) : Node → Node
  | .reference anchor => (graph.anchors.lookup anchor).getD emptyNode
  | node => node

end Graph
end Yaml
end TypedRpc
