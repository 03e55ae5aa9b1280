/-!
# Grouping by key

Items are put into groups by a key.  Groups stand in the order in which their keys first appear, and
the items of a group in their own order.
-/

namespace TypedRpc

/-- Adds an item to the group of a key. -/
def addToGroup {κ α : Type} [DecidableEq κ] (key : κ) (item : α) :
    List (κ × List α) → List (κ × List α)
  | [] => [(key, [item])]
  | (other, items) :: rest =>
    if other = key then (other, items ++ [item]) :: rest
    else (other, items) :: addToGroup key item rest

/-- The groups of some items. -/
def groupBy {κ α : Type} [DecidableEq κ] (key : α → κ) (items : List α) : List (κ × List α) :=
  items.foldl (fun groups item => addToGroup (key item) item groups) []

/-- The groups with more than one item. -/
def clashes {κ α : Type} [DecidableEq κ] (key : α → κ) (items : List α) : List (κ × List α) :=
  (groupBy key items).filter fun group => 1 < group.2.length

end TypedRpc
