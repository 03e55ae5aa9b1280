import TypedRpc.Client.ActionTypes

/-!
# Filter inputs

A filter input says which records of a resource are wanted.  It combines filters with *and*, *or*
and *not*, compares public attributes and calculations, counts and sums, and descends into related
resources that have a filter input themselves.  A value without a filter of its own kind is compared
as a text.
-/

namespace TypedRpc

open Target (TypeExpr Property DataClass)
open Text (joinBlocks)

/-- The filter for values of a primitive type. -/
def PrimitiveKind.filterName : PrimitiveKind → String
  | .integer => "IntFilter"
  | .float => "DoubleFilter"
  | .decimal => "DecimalFilter"
  | .boolean => "BooleanFilter"
  | .uuid => "UuidFilter"
  | .date => "DateFilter"
  | .utcDatetime | .utcDatetimeUsec | .datetime | .naiveDatetime => "InstantFilter"
  | _ => "StringFilter"

/-- The filter for values of a type. -/
def TypeRef.filterName : TypeRef → String
  | .primitive kind _ => kind.filterName
  | _ => "StringFilter"

/-! ## Base filters -/

/-- A comparison that may be left out. -/
def comparison (valueType name : String) : Property :=
  optionalProperty name valueType

/-- The comparison with a list of values. -/
def membership (valueType : String) : Property where
  kotlinName := "inValues"
  wireName := "in"
  type := .nullable (.list (.named valueType))
  initializer := some "null"

/-- The comparisons by order. -/
def orderComparisons : List String :=
  ["greaterThan", "greaterThanOrEqual", "lessThan", "lessThanOrEqual"]

/-- A filter for single values. -/
structure BaseFilter where
  name : String
  valueType : String
  isOrdered : Bool
  hasMembership : Bool := true

/-- The declaration of a filter for single values. -/
def BaseFilter.declaration (filter : BaseFilter) : DataClass where
  name := filter.name
  properties :=
    (["eq", "notEq"] ++ if filter.isOrdered then orderComparisons else []).map
        (comparison filter.valueType) ++
      if filter.hasMembership then [membership filter.valueType] else []

/-- The filters for single values. -/
def Options.baseFilters (options : Options) : List BaseFilter :=
  let (date, instant) :=
    match options.datetimeLibrary with
    | .kotlinx => ("kotlinx.datetime.LocalDate", "kotlinx.datetime.Instant")
    | .javaTime => ("java.time.LocalDate", "java.time.Instant")
  [ { name := "StringFilter", valueType := "String", isOrdered := false },
    { name := "IntFilter", valueType := "Int", isOrdered := true },
    { name := "DoubleFilter", valueType := "Double", isOrdered := true },
    { name := "BooleanFilter", valueType := "Boolean", isOrdered := false, hasMembership := false },
    { name := "UuidFilter", valueType := "String", isOrdered := false },
    { name := "DateFilter", valueType := date, isOrdered := true },
    { name := "InstantFilter", valueType := instant, isOrdered := true },
    { name := "DecimalFilter", valueType := "String", isOrdered := true }]

/-- The declarations of the filters for single values. -/
def Options.baseFiltersText (options : Options) : String :=
  joinBlocks (options.baseFilters.map fun filter => filter.declaration.text)

/-! ## Filters of resources -/

namespace Typing

variable (typing : Typing)

/-- The name of the filter input of a resource. -/
def filterInputName (id : String) : String :=
  (typing.recordType id).text ++ "FilterInput"

/-- A property that combines filters. -/
def combinator (filterInput name : String) : Property where
  kotlinName := name
  wireName := name
  type := .nullable (.list (.named filterInput))
  initializer := some "null"

/-- The property that filters by a field. -/
def filterProperty (resource : Resource) (name filter : String) : Property :=
  SourceField.output
    { name := name
      type := .named filter
      nullable := true
      rename := resource.fieldRename? name
      initializer := some "null" }
    typing.options

/-- The filter for an aggregate: counts and sums have one. -/
def aggregateFilter? (schema : Schema) (resource : Resource) (aggregate : Aggregate) :
    Option String :=
  match aggregate.kind with
  | .count => some "IntFilter"
  | .sum =>
    match schema.aggregateType resource aggregate with
    | .unknown _ => none
    | type => some type.filterName
  | _ => none

/-- The properties that filter by aggregates. -/
def aggregateFilters (schema : Schema) (resource : Resource) : List Property :=
  resource.publicAggregates.filterMap fun aggregate =>
    (aggregateFilter? schema resource aggregate).map
      (typing.filterProperty resource aggregate.name)

/-- The properties that descend into related resources. -/
def relationshipFilters (resource : Resource) (allowed : List String) : List Property :=
  (resource.publicRelationships.filter fun relationship =>
      allowed.contains relationship.destination).map fun relationship =>
    typing.filterProperty resource relationship.name
      (typing.filterInputName relationship.destination)

/-- The filter input of a resource, given the ids of the resources that have one. -/
def filterInput (schema : Schema) (allowed : List String) (resource : Resource) : DataClass :=
  let name := typing.filterInputName resource.id
  { name := name
    properties :=
      ["and", "or", "not"].map (combinator name) ++
        (resource.publicAttributes.map fun stored =>
          typing.filterProperty resource stored.name stored.type.filterName) ++
        (resource.publicCalculations.map fun calculation =>
          typing.filterProperty resource calculation.name calculation.type.filterName) ++
        typing.aggregateFilters schema resource ++
        typing.relationshipFilters resource allowed }

/-- The filter inputs of some resources. -/
def filterInputs (schema : Schema) (ids : List String) : List DataClass :=
  (ids.filterMap schema.resource?).map (typing.filterInput schema ids)

/-- The declarations of the base filters and of the filter inputs of some resources. -/
def filterTypesText (schema : Schema) (ids : List String) : String :=
  joinBlocks (typing.options.baseFiltersText ::
    (typing.filterInputs schema ids).map DataClass.text)

end Typing
end TypedRpc
