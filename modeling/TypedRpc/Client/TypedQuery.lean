import TypedRpc.Breakdown
import TypedRpc.Client.Record
import TypedRpc.Client.Selection

/-!
# Typed queries

A typed query names a read action and a selection of fields.  The client gets a class for the
records of the selection, a class for each relationship in it, and the selection itself as a
constant.  A class comes before those nested in it, and those in the order of the selection.

A selection may hold items that no class can be made of; these break the generation down.  The
verification reports what it knows of them beforehand.
-/

namespace TypedRpc

open Target (TypeExpr Property DataClass)
open Text (joinLines joinBlocks)

/-- The name of the class of a typed query. -/
def TypedQuery.className (query : TypedQuery) : String :=
  (given? query.resultTypeName).getD (Naming.pascalCase query.name ++ "Result")

/-- The name of the constant of a typed query. -/
def TypedQuery.constantName (query : TypedQuery) : String :=
  (given? query.fieldsConstName).getD (Naming.pascalCase query.name ++ "Fields")

/-- The name of the class nested under a relationship. -/
def nestedClassName (parent relationship : String) : String :=
  parent ++ Naming.pascalCase relationship ++ "Result"

/-- A relationship of a resource and the resource it leads to. -/
def Schema.destination? (schema : Schema) (resource : Resource) (name : String) :
    Option (Relationship × Resource) := do
  let relationship ← resource.relationship? name
  let destination ← schema.resource? relationship.destination
  pure (relationship, destination)

/-- The attribute or calculation of a name. -/
def Resource.storedField? (resource : Resource) (name : String) : Option FieldSpec :=
  ((resource.attribute? name).map (·.toField)).or ((resource.calculation? name).map (·.toField))

/-- The resources with typed queries, in the order of the document. -/
def Schema.queriedResources (schema : Schema) : List (Resource × List TypedQuery) :=
  schema.rpcResources.filterMap fun rpcResource =>
    if rpcResource.typedQueries.isEmpty then none
    else (schema.resource? rpcResource.resource).map fun resource =>
      (resource, rpcResource.typedQueries)

/-- The text of a key of a nested selection. -/
def keyText : Value → Except Breakdown String
  | .text name => .ok name
  | key => .error (.keyWithoutText key.kindName)

namespace Typing

variable (typing : Typing)

/-- A property of a query class, under the name that the document gives to the field. -/
def queryProperty (resource : Resource) (name : String) (type : TypeExpr) (nullable : Bool)
    (initializer : Option String) : Property :=
  SourceField.output
    { name := name, type := type, nullable := nullable, rename := resource.fieldRename? name
      initializer := initializer }
    typing.options

/-- The property for a selected field: an attribute, a calculation, an aggregate or a whole
relationship.  A field that does not exist holds anything. -/
def selectedField (schema : Schema) (resource : Resource) (name : String) : Property :=
  match resource.storedField? name with
  | some field =>
    typing.queryProperty resource name (typing.fieldType field) field.nullable none
  | none =>
    match resource.aggregate? name with
    | some aggregate =>
      let type := typing.valueType name (schema.aggregateType resource aggregate) true
      typing.queryProperty resource name type aggregate.nullable none
    | none =>
      match resource.relationship? name with
      | some relationship =>
        let type := typing.relatedType relationship.destination relationship.cardinality
        typing.queryProperty resource name type true (some "null")
      | none => typing.queryProperty resource name Target.anyType true none

/-- The property for a relationship with a selection of its own. -/
def selectedRelationship (schema : Schema) (resource : Resource) (parent name : String) :
    Property :=
  match schema.destination? resource name with
  | none => typing.queryProperty resource name Target.anyType true none
  | some (relationship, _) =>
    let nested := TypeExpr.named (nestedClassName parent name)
    match relationship.cardinality with
    | .many => typing.queryProperty resource name (.list nested) false none
    | .one => typing.queryProperty resource name nested true none

/-- The property for an item of a selection. -/
def selectedProperty (schema : Schema) (resource : Resource) (parent : String) :
    Selection → Except Breakdown Property
  | .field name => .ok (typing.selectedField schema resource name)
  | .nested key _ | .unusable key _ => do
    let name ← keyText key
    pure (typing.selectedRelationship schema resource parent name)
  | .stray kind => .error (.noEntries kind)

/-- The class for a selection, without those nested in it. -/
def selectedClass (schema : Schema) (resource : Resource) (name : String)
    (items : List Selection) : Except Breakdown DataClass := do
  let properties ← items.mapM (typing.selectedProperty schema resource name)
  pure { name := name, properties := properties }

mutual

/-- The classes nested under an item of a selection. -/
def nestedClasses (schema : Schema) (resource : Resource) (parent : String) :
    Selection → Except Breakdown (List DataClass)
  | .field _ | .stray _ => .ok []
  | .unusable key kind => do
    let name ← keyText key
    match schema.destination? resource name with
    | none => pure []
    | some _ => .error (.noItems kind)
  | .nested key inner => do
    let name ← keyText key
    match schema.destination? resource name with
    | none => pure []
    | some (_, destination) =>
      let nested := nestedClassName parent name
      let first ← typing.selectedClass schema destination nested inner
      let others ← nestedClassesOf schema destination nested inner
      pure (first :: others)

/-- The classes nested under the items of a selection. -/
def nestedClassesOf (schema : Schema) (resource : Resource) (parent : String) :
    List Selection → Except Breakdown (List DataClass)
  | [] => .ok []
  | item :: rest => do
    let here ← nestedClasses schema resource parent item
    let others ← nestedClassesOf schema resource parent rest
    pure (here ++ others)

end

/-- The classes of a typed query. -/
def queryClasses (schema : Schema) (resource : Resource) (query : TypedQuery) :
    Except Breakdown (List DataClass) := do
  let first ← typing.selectedClass schema resource query.className query.selection
  let others ← typing.nestedClassesOf schema resource query.className query.selection
  pure (first :: others)

/-- A name of a selection as a literal. -/
def wireLiteral (name : String) : String :=
  Target.stringLiteral (typing.options.outputFormat.apply name)

/-- A list of literals. -/
def listLiteral (items : List String) : String :=
  "listOf(" ++ Text.listing items ++ ")"

mutual

/-- An item of a selection as a literal. -/
def itemLiteral : Selection → Except Breakdown String
  | .field name => .ok (typing.wireLiteral name)
  | .nested key inner => do
    let items ← itemLiterals inner
    let name ← keyText key
    pure ("mapOf(" ++ typing.wireLiteral name ++ " to " ++ listLiteral items ++ ")")
  | .unusable _ kind => .error (.noItems kind)
  | .stray kind => .error (.noEntries kind)

/-- The items of a selection as literals. -/
def itemLiterals : List Selection → Except Breakdown (List String)
  | [] => .ok []
  | item :: rest => do
    let here ← itemLiteral item
    let others ← itemLiterals rest
    pure (here :: others)

end

/-- The selection of a typed query as a literal. -/
def selectionLiteral (query : TypedQuery) : Except Breakdown String :=
  (typing.itemLiterals query.selection).map listLiteral

/-- Whether a typed query reads a list of records. -/
def readsList (resource : Resource) (query : TypedQuery) : Bool :=
  match resource.action? query.action with
  | some action => action.kind == .read && !action.get
  | none => false

/-- The classes, the list type and the constant of a typed query. -/
def queryText (schema : Schema) (resource : Resource) (query : TypedQuery) :
    Except Breakdown String := do
  let classes ← typing.queryClasses schema resource query
  let literal ← typing.selectionLiteral query
  let name := query.className
  let listAlias :=
    if readsList resource query then ["typealias " ++ name ++ "List = List<" ++ name ++ ">"] else []
  let constant := joinLines [
    "// Field selection for " ++ query.name,
    "object " ++ query.constantName ++ " \x7b",
    "    val fields = " ++ literal,
    "\x7d"]
  pure (joinBlocks (("// Type for " ++ query.name) :: classes.map DataClass.text ++ listAlias ++
    [constant]))

/-- The typed queries of a resource. -/
def resourceQueriesText (schema : Schema) (resource : Resource) (queries : List TypedQuery) :
    Except Breakdown String := do
  let texts ← queries.mapM (typing.queryText schema resource)
  pure ("// " ++ resource.declaredTypeName ++ " Typed Queries\n\n" ++ joinBlocks texts)

/-- All typed queries of a schema. -/
def typedQueriesText (schema : Schema) : Except Breakdown String := do
  let sections ← (schema.queriedResources).mapM fun (resource, queries) =>
    typing.resourceQueriesText schema resource queries
  pure (joinBlocks sections)

end Typing
end TypedRpc
