import TypedRpc.Value.Basic

/-!
# Values in their documents

A document keeps some of its collections under numbers, so that a collection may stand in several
places and even inside itself.  A value is read together with the collections that it refers to,
one level at a time.  The **whole** of a value has the collections in place of their numbers, down
to those that stand inside themselves.
-/

namespace TypedRpc

/-- A value and the collections that it refers to. -/
structure Document where
  value : Value
  parts : Array Value := #[]
  deriving Repr, Inhabited

/-- The entries of a map whose values are read in their document. -/
abbrev Entries : Type := List (Value × Document)

namespace Document

/-- Another value of the same document. -/
def within (document : Document) (value : Value) : Document :=
  { document with value := value }

/-- The number of the value, if the document keeps it under one. -/
def number? (document : Document) : Option Nat :=
  match document.value with
  | .part _ number => some number
  | _ => none

/-- The value itself, not its number. -/
def content (document : Document) : Value :=
  match document.value with
  | .part form number => (document.parts[number]?).getD (.part form number)
  | value => value

/-- Some values of the document. -/
def items (document : Document) (values : List Value) : List Document :=
  values.map document.within

/-- Some entries of the document. -/
def entries (document : Document) (found : List (Value × Value)) : Entries :=
  found.map fun entry => (entry.1, document.within entry.2)

end Document

namespace Value

mutual

/-- A value with the collections in place of their numbers, given the numbers of those around it.
At most `depth` collections stand inside each other. -/
def unfold (parts : Array Value) (depth : Nat) (around : List Nat) : Value → Value
  | .part form number =>
    if around.contains number then .part form number
    else
      match depth with
      | 0 => .part form number
      | inner + 1 =>
        ((parts[number]?).map (unfold parts inner (number :: around))).getD (.part form number)
  | .list items => .list (unfoldItems parts depth around items)
  | .tuple items => .tuple (unfoldItems parts depth around items)
  | .map entries => .map (unfoldEntries parts depth around entries)
  | value => value
termination_by value => (depth, sizeOf value)

/-- The values of a list with the collections in place of their numbers. -/
def unfoldItems (parts : Array Value) (depth : Nat) (around : List Nat) :
    List Value → List Value
  | [] => []
  | item :: rest => unfold parts depth around item :: unfoldItems parts depth around rest
termination_by items => (depth, sizeOf items)

/-- The entries of a map with the collections in place of their numbers. -/
def unfoldEntries (parts : Array Value) (depth : Nat) (around : List Nat) :
    List (Value × Value) → List (Value × Value)
  | [] => []
  | (key, value) :: rest =>
    (key, unfold parts depth around value) :: unfoldEntries parts depth around rest
termination_by entries => (depth, sizeOf entries)

end

end Value

/-- The whole of a value.  Without any collections under numbers it is the value as it stands. -/
def Document.whole (document : Document) : Value :=
  if document.parts.isEmpty then document.value
  else document.value.unfold document.parts document.parts.size []

end TypedRpc
