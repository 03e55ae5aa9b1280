import TypedRpc.Client.ActionTypes
import TypedRpc.Log
import TypedRpc.Typing.InputCheck
import TypedRpc.Typing.Default

/-!
# Inputs of actions

The input of an action holds the attributes that it accepts and then its public arguments.  Their
names on the wire follow the convention for inputs, required fields have no default, and when the
options ask for it the restrictions of a field stand above it as annotations.
-/

namespace TypedRpc

open Target (TypeExpr Property DataClass)

namespace Typing

variable (typing : Typing)

/-- The property for an input field, given its annotations. -/
def inputProperty (shape : ActionShape) (annotations : List String) (field : FieldSpec) :
    Property :=
  SourceField.property
    { name := field.name
      type := typing.fieldType field
      nullable := field.nullable
      rename := shape.inputNames.lookup field.name
      initializer := field.defaultLiteral?
      annotations := annotations }
    typing.options typing.options.inputFormat

/-- The annotations of an input field that the options ask for. -/
def inputAnnotations (field : FieldSpec) : Except Breakdown (List String) :=
  if typing.options.validationAnnotations then field.annotationTexts else .ok []

/-- Makes the property for an input field; a default that does not fit is warned about, and one that
cannot be written is a breakdown. -/
def makeInputProperty (shape : ActionShape) (field : FieldSpec) : Logged Property := do
  let annotations ← Logged.ofExcept (typing.inputAnnotations field)
  Logged.ofExcept field.checkDefault
  match field.defaultWarning? (typing.fieldType field) with
  | some warning => Logged.line .warning .typeDeclarations warning.message
  | none => pure ()
  pure (typing.inputProperty shape annotations field)

/-- The input type of an action, if it takes any input. -/
def inputClass? (shape : ActionShape) : Logged (Option DataClass) :=
  match shape.inputName? with
  | none => pure none
  | some name => do
    let properties ← shape.inputFields.mapM fun field => typing.makeInputProperty shape field.spec
    pure (some { name := name, properties := properties })

/-- The declaration of the input type of an action, or nothing. -/
def inputText (shape : ActionShape) : Logged String := do
  let declared ← typing.inputClass? shape
  pure ((declared.map DataClass.text).getD "")

end Typing
end TypedRpc
