import TypedRpc.Yaml.Node

/-!
# Merged mappings

The value under a key `<<` is a mapping, or a sequence of mappings, whose entries are merged into
the mapping around it.  Merged entries come before the others; of the mappings of a sequence, the
last comes first.

A mapping may be merged into itself.  While one of its merges is carried out it counts as having its
other entries only, with those merges left out that are done already.
-/

namespace TypedRpc
namespace Yaml

/-- A key and its value. -/
abbrev Entry : Type := Node × Node

/-- What the mappings that are being merged into count as, under their numbers. -/
abbrev Merging : Type := List (Nat × List Entry)

namespace Graph

variable (graph : Graph)

/-- The tag of a node. -/
def tagOf (node : Node) : Tag :=
  match graph.resolve node with
  | .scalar tag _ | .sequence _ tag _ | .mapping _ tag _ => tag
  | .reference _ => .unknown

/-- The entries that a node contributes where it is merged, given how a mapping is flattened. -/
def contribution (flatten : Nat → List Entry → Except Failure (List Entry)) (node : Node) :
    Except Failure (List Entry) :=
  match graph.resolve node with
  | .mapping number _ entries => flatten number entries
  | .sequence _ _ items => do
    let contributed ← items.mapM fun item =>
      match graph.resolve item with
      | .mapping number _ entries => flatten number entries
      | _ => .error .malformed
    pure contributed.reverse.flatten
  | _ => .error .malformed

/-- The merged entries of a mapping and its own, given what a node contributes while the mapping
counts as having some entries.  `before` holds own entries from the nearest to the farthest. -/
def splitMerged (contribute : List Entry → Node → Except Failure (List Entry))
    (before : List Entry) : List Entry → Except Failure (List Entry × List Entry)
  | [] => .ok ([], [])
  | (key, value) :: rest =>
    if graph.tagOf key = .merge then do
      let here ← contribute (before.reverse ++ rest) value
      let (merged, own) ← splitMerged contribute before rest
      pure (here ++ merged, own)
    else do
      let (merged, own) ← splitMerged contribute ((key, value) :: before) rest
      pure (merged, (key, value) :: own)

/-- The entries of a mapping with those of merged mappings in front, in `steps` merges. -/
def flattenWithin : (steps : Nat) → Merging → Nat → List Entry → Except Failure (List Entry)
  | 0, _, _, _ => .error .malformed
  | steps + 1, merging, number, entries => do
    let contribute (counted : List Entry) : Node → Except Failure (List Entry) :=
      let merging := (number, counted) :: merging
      graph.contribution fun number entries =>
        flattenWithin steps merging number ((merging.lookup number).getD entries)
    let (merged, own) ← graph.splitMerged contribute [] entries
    pure (merged ++ own)

/-- The entries of a mapping with those of merged mappings in front.  No entry is merged inside its
own merge, so there are enough steps for all. -/
def flatten (number : Nat) (entries : List Entry) : Except Failure (List Entry) :=
  graph.flattenWithin graph.steps [] number entries

end Graph
end Yaml
end TypedRpc
