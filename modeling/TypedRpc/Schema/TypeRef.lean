import TypedRpc.Schema.Kinds
import TypedRpc.Value.Basic

/-!
# Types of schemas

A type descriptor says what values a field holds: a primitive, an array, an enumeration, a tagged
union, a struct, a reference to a resource, or something the generator knows nothing about.  Unions
keep their members, and structs their fields, in the order of the document.

Two descriptors are the same when they say the same: numbers are compared by value, and the members
of nested unions and the renames of structs without regard to order.
-/

namespace TypedRpc

/-- A table from names to names. -/
abbrev Renames : Type := List (String × String)

/-- A numeric bound. -/
inductive Bound where
  | int (value : Int)
  | float (value : Binary64)
  deriving DecidableEq, Repr

/-- The value of a bound in a document. -/
def Bound.toValue : Bound → Value
  | .int n => .int n
  | .float x => .float x

/-- Restrictions on the values of a type. -/
structure Constraints where
  min : Option Bound := none
  max : Option Bound := none
  minLength : Option Int := none
  maxLength : Option Int := none
  pattern : Option String := none
  deriving DecidableEq, Repr

/-- Whether no restriction is set. -/
def Constraints.isEmpty (c : Constraints) : Bool :=
  c.min.isNone && c.max.isNone && c.minLength.isNone && c.maxLength.isNone && c.pattern.isNone

/-- A named value of some type: an attribute, an argument, a member of a struct. -/
structure Field (τ : Type) where
  name : String
  type : τ
  nullable : Bool := true
  default : Value := .null
  description : Option String := none
  deriving Repr

/-- A type descriptor. -/
inductive TypeRef where
  | primitive (kind : PrimitiveKind) (constraints : Constraints)
  | array (item : TypeRef) (constraints : Constraints)
  | enum (values : List String) (name : Option String)
  | union (members : List (String × TypeRef)) (name : Option String)
  | struct (container : Container) (fields : List (Field TypeRef)) (instanceOf : Option String)
      (fieldNames : Renames)
  | resource (id : String)
  | unknown (name : Option String)
  deriving Repr

instance : Inhabited TypeRef := ⟨.unknown none⟩

/-- A named value with a type descriptor. -/
abbrev FieldSpec : Type := Field TypeRef

/-- A text that says something: neither absent nor empty. -/
def given? : Option String → Option String
  | some s => if s.isEmpty then none else some s
  | none => none

/-- Whether two optional values are both absent or satisfy a relation. -/
def sameOption {α : Type} (same : α → α → Bool) : Option α → Option α → Bool
  | none, none => true
  | some x, some y => same x y
  | _, _ => false

/-- Whether two bounds are the same number. -/
def Bound.same (a b : Bound) : Bool :=
  a.toValue.sameScalar b.toValue

/-- Whether two sets of restrictions are the same. -/
def Constraints.same (a b : Constraints) : Bool :=
  sameOption Bound.same a.min b.min && sameOption Bound.same a.max b.max &&
    a.minLength == b.minLength && a.maxLength == b.maxLength && a.pattern == b.pattern

/-- Whether two tables hold the same entries. -/
def sameTable (a b : Renames) : Bool :=
  (a.all fun entry => b.lookup entry.1 == some entry.2) &&
    b.all fun entry => (a.lookup entry.1).isSome

namespace TypeRef

mutual

/-- The number of nodes of a descriptor, an upper bound of the steps it takes to walk through
it. -/
def size : TypeRef → Nat
  | .array item _ => item.size + 1
  | .union members _ => sizeMembers members + 1
  | .struct _ fields _ _ => sizeFields fields + 2
  | .primitive _ _ | .enum _ _ | .resource _ | .unknown _ => 1

/-- The number of nodes of all members of a union. -/
def sizeMembers : List (String × TypeRef) → Nat
  | [] => 0
  | (_, type) :: rest => type.size + sizeMembers rest + 1

/-- The number of nodes of all fields of a struct. -/
def sizeFields : List (Field TypeRef) → Nat
  | [] => 0
  | field :: rest => field.type.size + sizeFields rest + 1

end

mutual

/-- Whether two descriptors say the same. -/
def same : TypeRef → TypeRef → Bool
  | .primitive k c, .primitive k' c' => k == k' && c.same c'
  | .array t c, .array t' c' => same t t' && c.same c'
  | .enum vs n, .enum vs' n' => vs == vs' && n == n'
  | .union ms n, .union ms' n' =>
    sameMembers ms ms' && (ms'.all fun member => (ms.lookup member.1).isSome) && n == n'
  | .struct c fs i ns, .struct c' fs' i' ns' =>
    c == c' && sameFields fs fs' && i == i' && sameTable ns ns'
  | .resource i, .resource i' => i == i'
  | .unknown n, .unknown n' => n == n'
  | _, _ => false

/-- Whether every member has a member with the same tag and type among others. -/
def sameMembers : List (String × TypeRef) → List (String × TypeRef) → Bool
  | [], _ => true
  | (tag, type) :: rest, others =>
    (match others.lookup tag with
      | some other => same type other
      | none => false) && sameMembers rest others

/-- Whether two lists of fields are the same in the same order. -/
def sameFields : List (Field TypeRef) → List (Field TypeRef) → Bool
  | [], [] => true
  | f :: rest, g :: others =>
    f.name == g.name && same f.type g.type && f.nullable == g.nullable &&
      f.default.same g.default && f.description == g.description && sameFields rest others
  | _, _ => false

end

end TypeRef
end TypedRpc
