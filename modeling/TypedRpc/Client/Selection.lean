import TypedRpc.Schema.Basic
import TypedRpc.Value.Shown

/-!
# Selections

A selection lists fields, and relationships with a selection each.  The document does not say what a
nested selection may hold, so anything may be found in it: a text is a selection of its characters
and a map one of its keys, and what is neither a field nor a relationship is a stray item.
-/

namespace TypedRpc

/-- An item of a selection. -/
inductive Selection where
  | field (name : String)
  /-- A relationship and what is selected of it. -/
  | nested (key : Value) (inner : List Selection)
  /-- A relationship with something that has no items. -/
  | unusable (key : Value) (kind : String)
  /-- Something that is neither a field nor a relationship. -/
  | stray (kind : String)
  deriving Repr

namespace Selection

/-- The item that a key stands for where the keys of a map are selected. -/
def keyItem : Value → Selection
  | .text name => .field name
  | key => .stray key.kindName

mutual

/-- The items of a nested selection, if it has items. -/
def itemsOf? : Value → Option (List Selection)
  | .list values | .tuple values | .set values => some (ofItems values)
  | .text s => some (s.toList.map fun c => .field (String.singleton c))
  | .map entries => some (entries.map fun entry => keyItem entry.1)
  | .bytes bytes => some (bytes.map fun _ => .stray "int")
  | _ => none

/-- The items that values stand for. -/
def ofItems : List Value → List Selection
  | [] => []
  | .text name :: rest => .field name :: ofItems rest
  | .map entries :: rest => ofEntries entries ++ ofItems rest
  | value :: rest => .stray value.kindName :: ofItems rest

/-- The items that the entries of a map stand for. -/
def ofEntries : List (Value × Value) → List Selection
  | [] => []
  | (key, value) :: rest =>
    (match itemsOf? value with
      | some inner => .nested key inner
      | none => .unusable key value.kindName) :: ofEntries rest

end

/-- The items that an entry of a typed query stands for. -/
def ofEntry : SelectionEntry → List Selection
  | .field name => [.field name]
  | .nested selections =>
    selections.map fun selection => .nested (.text selection.1) (ofItems selection.2)

end Selection

/-- What a typed query selects. -/
def TypedQuery.selection (query : TypedQuery) : List Selection :=
  query.fields.flatMap Selection.ofEntry

end TypedRpc
