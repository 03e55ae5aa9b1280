import TypedRpc.Value.Document
import TypedRpc.Yaml.Merge
import TypedRpc.Yaml.Scalar

/-!
# Reading YAML

The document that a YAML text stands for.  Keys must be scalars, and an entry of a mapping replaces
the value of an earlier one with the same key.

A collection is read in two stages.  At first only its form and its number are known, which is
enough to refer to it, also from inside itself.  Later it is filled with what it holds, in the order
in which collections are met: those near the top of the document come first.  Where a document has
several failures, the first in this order is reported.

As in JSON, half of a pair that an escape writes is read as U+FFFD, though texts with such halves
would be refused where they are checked.
-/

namespace TypedRpc
namespace Yaml

/-- The form of the values with a tag, if they are collections. -/
def Tag.form? : Tag → Option CollectionForm
  | .orderedMap | .pairs | .sequence => some .list
  | .set => some .set
  | .mapping => some .map
  | _ => none

namespace Graph

variable (graph : Graph)

/-- The number of a collection.  A scalar under the tag of a collection has the one above all. -/
def numberOf (node : Node) : Nat :=
  match graph.resolve node with
  | .sequence number _ _ | .mapping number _ _ => number
  | _ => graph.size

/-- The text of a scalar, or of what a mapping has under the key `=`, in `steps` steps. -/
def textWithin : (steps : Nat) → Node → Except Failure String
  | 0, _ => .error .endlessText
  | steps + 1, node =>
    match graph.resolve node with
    | .scalar _ text => .ok text
    | .mapping _ _ entries =>
      match entries.find? fun entry => graph.tagOf entry.1 = .value with
      | some (_, value) => textWithin steps value
      | none => .error .malformed
    | _ => .error .malformed

/-- The text of a node as a scalar. -/
def textOf (node : Node) : Except Failure String :=
  graph.textWithin graph.steps node

/-- The value of a node under a tag of scalars.  Tags that no value has are refused first. -/
def scalarOf (tag : Tag) (node : Node) : Except Failure Value :=
  if tag ∈ [.merge, .value, .unknown] then .error .malformed
  else do
    let text ← graph.textOf node
    match tag, graph.resolve node with
    | .timestamp, .mapping _ _ _ => .error .timestampInEntries
    | _, _ => scalarValue tag text

/-- The value of a node; a collection is referred to. -/
def valueOf (node : Node) : Except Failure Value :=
  let tag := graph.tagOf node
  match tag.form? with
  | some form => .ok (.part form (graph.numberOf node))
  | none => graph.scalarOf tag node

/-- The value of a node as a key. -/
def keyOf (node : Node) : Except Failure Value :=
  let tag := graph.tagOf node
  if tag = .value then (graph.textOf node).map .text
  else if tag.form?.isSome then .error .malformed
  else graph.scalarOf tag node

/-- The key and the value of an entry. -/
def entryOf (entry : Entry) : Except Failure (Value × Value) := do
  let key ← graph.keyOf entry.1
  let value ← graph.valueOf entry.2
  pure (key, value)

/-- The only entry of a node in a list of pairs. -/
def pairOf (node : Node) : Except Failure Entry :=
  match graph.resolve node with
  | .mapping _ _ [entry] => .ok entry
  | _ => .error .malformed

/-- The nodes that are collections. -/
def collections (nodes : List Node) : List Node :=
  nodes.filter fun node => (graph.tagOf node).form?.isSome

/-- What a collection holds, and the collections among it. -/
def contentOf (node : Node) : Except Failure (Value × List Node) :=
  match graph.tagOf node, graph.resolve node with
  | .sequence, .sequence _ _ items => do
    let values ← items.mapM graph.valueOf
    pure (.list values, graph.collections items)
  | .orderedMap, .sequence _ _ items | .pairs, .sequence _ _ items => do
    let read ← items.mapM fun item => do
      let (key, value) ← graph.pairOf item
      pure (Value.tuple [← graph.valueOf key, ← graph.valueOf value], [key, value])
    pure (.list (read.map Prod.fst), graph.collections (read.flatMap Prod.snd))
  | .mapping, .mapping number _ entries => do
    let entries ← graph.flatten number entries
    let read ← entries.mapM graph.entryOf
    pure (.map (Value.ofEntries read), graph.collections (entries.map Prod.snd))
  | .set, .mapping number _ entries => do
    let entries ← graph.flatten number entries
    let read ← entries.mapM graph.entryOf
    pure (.set ((Value.ofEntries read).map Prod.fst), graph.collections (entries.map Prod.snd))
  | _, _ => .error .malformed

/-- Fills collections one after the other, together with those in them.  `unfilled` holds the
numbers of all that have not been filled. -/
def fill (unfilled : List Nat) (parts : Array Value) :
    List Node → Except Failure (Array Value)
  | [] => .ok parts
  | node :: rest =>
    let number := graph.numberOf node
    if _member : number ∈ unfilled then do
      let (content, inner) ← graph.contentOf node
      fill (unfilled.erase number) (parts.setIfInBounds number content) (rest ++ inner)
    else if number = graph.size then .error .malformed
    else fill unfilled parts rest
termination_by queue => (unfilled.length, queue.length)
decreasing_by
  · have shorter : (unfilled.erase (graph.numberOf node)).length = unfilled.length - 1 :=
      List.length_erase_of_mem _member
    have := List.length_pos_of_mem _member
    exact Prod.Lex.left _ _ (by omega)
  · exact Prod.Lex.right _ (by simp)

/-- The document that nodes stand for. -/
def document : Except Failure Document := do
  let value ← graph.valueOf graph.root
  let parts ← graph.fill (List.range graph.size) (Array.replicate graph.size .null)
    (graph.collections [graph.root])
  pure ⟨value, parts⟩

end Graph

/-- The document that a text stands for; a text without any stands for null. -/
def read (cs : List Char) : Except Failure Document := do
  match ← Graph.ofText cs with
  | none => pure { value := .null }
  | some graph => graph.document

end Yaml
end TypedRpc
