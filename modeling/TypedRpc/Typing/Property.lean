import TypedRpc.Target.Declaration
import TypedRpc.Typing.TypeName

/-!
# Properties for fields

A field of the schema becomes a property.  Its name on the wire is the name in the schema under the
convention of the wire, whatever it is called in the code; its name in the code is the one that the
document gives, or else the name in the schema in camelCase.  A property that admits null is null by
default, unless the options ask for every value to be spelled out.
-/

namespace TypedRpc

open Target (TypeExpr Property)

/-- A field of the schema on its way to a property. -/
structure SourceField where
  name : String
  type : TypeExpr
  nullable : Bool
  /-- The name that the document gives; an empty one does not count. -/
  rename : Option String := none
  initializer : Option String := none
  annotations : List String := []
  deriving Repr

/-- The name in the code. -/
def kotlinNameOf (name : String) (rename : Option String) : String :=
  (given? rename).getD (Naming.camelCase name)

/-- The default of a property without one of its own. -/
def Options.nullDefault (options : Options) (nullable : Bool) : Option String :=
  if nullable && options.nullableStrategy = .explicit then some "null" else none

/-- The property for a field under a convention of the wire. -/
def SourceField.property (field : SourceField) (options : Options) (format : Naming.WireFormat) :
    Property where
  kotlinName := kotlinNameOf field.name field.rename
  wireName := format.apply field.name
  type := if field.nullable then field.type.orNull else field.type
  initializer := field.initializer.or (options.nullDefault field.nullable)
  annotations := field.annotations

/-- The property for a field that the server answers with. -/
def SourceField.output (field : SourceField) (options : Options) : Property :=
  field.property options options.outputFormat

end TypedRpc
