import TypedRpc.Discovery.Basic
import TypedRpc.Typing.Property

/-!
# Records, enumerations and unions

The declarations for the types that discovery finds.  A record holds the public attributes of a
resource and then its public relationships, which are null unless they are asked for.  A union has a
variant for each member: a struct with fields of its own brings them along, any other member is held
as a single value.
-/

namespace TypedRpc

open Target (TypeExpr Property DataClass SealedClass EnumClass)

namespace Typing

variable (typing : Typing)

/-- The property of a record for an attribute. -/
def attributeProperty (resource : Resource) (stored : Attribute) : Property :=
  SourceField.output
    { name := stored.name
      type := typing.fieldType stored.toField
      nullable := stored.nullable
      rename := resource.fieldRename? stored.name }
    typing.options

/-- The property of a record for a relationship. -/
def relationshipProperty (resource : Resource) (relationship : Relationship) : Property :=
  SourceField.output
    { name := relationship.name
      type := typing.relatedType relationship.destination relationship.cardinality
      nullable := true
      rename := resource.fieldRename? relationship.name
      initializer := some "null" }
    typing.options

/-- The record of a resource. -/
def record (resource : Resource) : DataClass where
  name := resource.declaredTypeName
  properties := resource.publicAttributes.map (typing.attributeProperty resource) ++
    resource.publicRelationships.map (typing.relationshipProperty resource)

/-- The property of a variant for a field of a struct. -/
def structFieldProperty (renames : Renames) (field : FieldSpec) : Property :=
  SourceField.output
    { name := field.name
      type := typing.fieldType field
      nullable := field.nullable
      rename := renames.lookup field.name }
    typing.options

/-- The only property of a variant that holds a single value. -/
def valueProperty (tag : String) (member : TypeRef) : Property where
  kotlinName := "value"
  wireName := "value"
  type := typing.valueType tag member false

/-- The properties of a variant. -/
def memberProperties (tag : String) (member : TypeRef) : List Property :=
  match member with
  | .struct _ fields instanceOf renames =>
    if fields.isEmpty || (given? instanceOf).isSome then [typing.valueProperty tag member]
    else fields.map (typing.structFieldProperty renames)
  | _ => [typing.valueProperty tag member]

/-- The variant for a member of a union. -/
def variant (union tag : String) (member : TypeRef) : DataClass where
  name := Naming.pascalCase tag
  properties := typing.memberProperties tag member
  serialName := some tag
  variantOf := some union

/-- The declaration of a union. -/
def union (found : UnionDef) : SealedClass where
  name := found.name
  variants := found.members.map fun (tag, member) => typing.variant found.name tag member

end Typing

/-- The declaration of an enumeration. -/
def EnumDef.declaration (found : EnumDef) : EnumClass :=
  ⟨found.name, found.values⟩

end TypedRpc
