import TypedRpc.Schema.Checked
import TypedRpc.Schema.Kinds

/-!
# Nesting of type descriptors

Descriptors stand inside each other, and a document may hold one that stands inside itself.  Reading
a descriptor therefore leaves a mark for as long as it lasts.  A value with an open mark of the same
sort is not read again, and there is room for a limited number of open marks.

Arrays, unions and structs may hold descriptors.  The outermost one opens a scope of its own, in
which it is marked once more.  From the scope of unions the first array leads on to that of arrays;
the fields of structs are marked too, and have a scope of theirs.  No other descriptor changes the
scope.
-/

namespace TypedRpc

/-- What a descriptor is read as a part of. -/
inductive Scope where
  | outer
  | array
  | union
  | struct
  | field
  deriving DecidableEq, Repr

/-- The scope that a descriptor opens, if it opens one. -/
def Scope.opened? : Scope → DescriptorKind → Option Scope
  | .outer, .array => some .array
  | .outer, .union => some .union
  | .outer, .struct => some .struct
  | .union, .array => some .array
  | _, _ => none

/-- What is being read.  Fields of structs are no descriptors and have no kind. -/
structure Mark where
  scope : Scope
  kind : Option DescriptorKind
  number : Nat
  deriving DecidableEq, Repr

/-- The most marks that may be open. -/
def maxMarks : Nat := 255

/-- What is open around a descriptor. -/
structure Nesting where
  scope : Scope := .outer
  /-- How many more marks may be opened. -/
  room : Nat := maxMarks
  /-- The open marks of values that may stand inside themselves. -/
  marks : List Mark := []
  deriving Repr

namespace Nesting

/-- Opens a mark. -/
def mark (nesting : Nesting) (kind : Option DescriptorKind) (document : Document) :
    Except Cause Nesting :=
  let marks := document.number?.toList.map fun number => Mark.mk nesting.scope kind number
  if marks.any nesting.marks.contains then .error .cyclic
  else
    match nesting.room with
    | 0 => .error .tooDeep
    | room + 1 => .ok { nesting with room := room, marks := marks ++ nesting.marks }

/-- Begins to read a descriptor. -/
def enter (nesting : Nesting) (kind : DescriptorKind) (document : Document) :
    Except Cause Nesting := do
  let inner ← nesting.mark (some kind) document
  match nesting.scope.opened? kind with
  | none => pure inner
  | some scope => Nesting.mark { inner with scope := scope } (some kind) document

/-- Begins to read a field of a struct. -/
def enterField (nesting : Nesting) (document : Document) : Except Cause Nesting :=
  Nesting.mark { nesting with scope := .field } none document

/-- A mark takes up room. -/
theorem room_lt_of_mark {nesting inner : Nesting} {kind : Option DescriptorKind}
    {document : Document} (h : nesting.mark kind document = .ok inner) :
    inner.room < nesting.room := by
  simp only [mark] at h
  split at h
  · contradiction
  · split at h
    · contradiction
    · cases h
      simp_all

/-- Descriptors take up room. -/
theorem room_lt_of_enter {nesting inner : Nesting} {kind : DescriptorKind} {document : Document}
    (h : nesting.enter kind document = .ok inner) : inner.room < nesting.room := by
  cases first : nesting.mark (some kind) document with
  | error cause => simp [enter, first, bind, Except.bind] at h
  | ok marked =>
    have lower := room_lt_of_mark first
    cases opened : nesting.scope.opened? kind with
    | none =>
      simp only [enter, first, opened, bind, Except.bind, pure, Except.pure] at h
      cases h
      exact lower
    | some scope =>
      simp only [enter, first, opened, bind, Except.bind] at h
      exact Nat.lt_trans (room_lt_of_mark h) lower

/-- Fields take up room. -/
theorem room_lt_of_enterField {nesting inner : Nesting} {document : Document}
    (h : nesting.enterField document = .ok inner) : inner.room < nesting.room := by
  have := room_lt_of_mark h
  exact this

end Nesting
end TypedRpc
