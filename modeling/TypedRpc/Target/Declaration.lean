import TypedRpc.Target.Literal
import TypedRpc.Target.TypeExpr
import TypedRpc.Text.Lines

/-!
# Declarations of the generated language

Records, enumerations and sealed classes as data, and how they are written.  A property carries two
names: the one in the generated code and the one on the wire.  The wire name is written beside a
property only when the two differ.
-/

namespace TypedRpc
namespace Target

open Text

/-- A property of a class. -/
structure Property where
  kotlinName : String
  wireName : String
  type : TypeExpr
  initializer : Option String := none
  annotations : List String := []
  deriving DecidableEq, Repr

/-- A serializable class that holds properties. -/
structure DataClass where
  name : String
  properties : List Property
  /-- The name that tells a variant of a sealed class apart on the wire. -/
  serialName : Option String := none
  /-- The sealed class that a variant belongs to. -/
  variantOf : Option String := none
  deriving Repr

/-- A serializable class with a fixed set of variants. -/
structure SealedClass where
  name : String
  variants : List DataClass
  deriving Repr

/-- A serializable enumeration of wire values. -/
structure EnumClass where
  name : String
  values : List String
  deriving Repr

/-- A field of a record of call parameters. -/
structure ConfigField where
  name : String
  type : TypeExpr
  initializer : Option String := none
  deriving DecidableEq, Repr

/-- A record of call parameters; it never travels. -/
structure ConfigRecord where
  name : String
  fields : List ConfigField
  deriving Repr

/-- The mark of a name on the wire. -/
def serialNameMark (name : String) : String :=
  "@SerialName(" ++ stringLiteral name ++ ")"

/-- An initializer behind an equals sign, if there is one. -/
def initialized : Option String → String
  | some value => " = " ++ value
  | none => ""

namespace Property

/-- The mark of the wire name, when it differs from the name in the code. -/
def mark (property : Property) : List String :=
  if property.kotlinName = property.wireName then [] else [serialNameMark property.wireName]

/-- The declaration of the property without its marks. -/
def declaration (property : Property) : String :=
  "val " ++ identifier property.kotlinName ++ ": " ++ property.type.text ++
    initialized property.initializer

/-- The lines of a property: annotations, the wire name, and the declaration. -/
def lines (property : Property) : List String :=
  property.annotations ++ property.mark ++ [property.declaration]

/-- The property as it is written inside a class. -/
def text (property : Property) : String :=
  joinLines (property.lines.map (defaultMargin ++ ·))

end Property

/-- Properties as they are written inside a class. -/
def propertiesText (properties : List Property) : String :=
  ",\n".intercalate (properties.map Property.text)

namespace DataClass

/-- The line that says what a class is a variant of. -/
def ending (declared : DataClass) : String :=
  match declared.variantOf with
  | some name => " : " ++ name ++ "()"
  | none => ""

/-- The marks above a class. -/
def marks (declared : DataClass) : List String :=
  "@Serializable" :: (declared.serialName.map serialNameMark).toList

/-- A class without its marks.  One without properties is a plain class. -/
def body (declared : DataClass) : String :=
  if declared.properties.isEmpty then "class " ++ declared.name ++ declared.ending
  else "data class " ++ declared.name ++ "(\n" ++ propertiesText declared.properties ++ "\n)" ++
    declared.ending

/-- The class as it is written. -/
def text (declared : DataClass) : String :=
  joinLines (declared.marks ++ [declared.body])

end DataClass

/-- The sealed class as it is written: its variants inside it, one level deeper. -/
def SealedClass.text (declared : SealedClass) : String :=
  let variants := declared.variants.map fun variant => Text.indent variant.text
  "@Serializable\nsealed class " ++ declared.name ++ " \x7b\n" ++ joinBlocks variants ++ "\n\x7d"

/-- An entry of an enumeration as it is written. -/
def entryText (value : String) : String :=
  defaultMargin ++ serialNameMark value ++ " " ++ enumEntry value

/-- The enumeration as it is written. -/
def EnumClass.text (declared : EnumClass) : String :=
  "@Serializable\nenum class " ++ declared.name ++ " \x7b\n" ++
    ",\n".intercalate (declared.values.map entryText) ++ "\n\x7d"

/-- A field of a record as it is written. -/
def ConfigField.text (field : ConfigField) : String :=
  defaultMargin ++ "val " ++ field.name ++ ": " ++ field.type.text ++ initialized field.initializer

/-- The record as it is written. -/
def ConfigRecord.text (declared : ConfigRecord) : String :=
  "data class " ++ declared.name ++ "(\n" ++
    ",\n".intercalate (declared.fields.map ConfigField.text) ++ "\n)"

end Target
end TypedRpc
