import TypedRpc.Proofs.Client.NameTree
import TypedRpc.Proofs.Client.Plan
import TypedRpc.Schema.Document

/-!
# Typed queries show what they select

Three walks go over the selection of a typed query: the check of the selection, the one that makes
the classes, and the one that writes the constant.  Where the check has found nothing, every name of
the selection is a member of the resource that the path of relationships leads to, so the classes
show members only, one class for each selection and one property for each item.

* `Typing.Shows`, `Typing.ShowsBranch`: how a property shows an item and a class a selection.
* `Typing.exists_queryClasses`: the classes of a checked selection.
* `Plan.typedQuery_rendered`: a well-formed query of a plan without faults.
* `Plan.typedQueriesText_isOk_iff`: the queries of a plan without faults can be written exactly when
  their selections hold names.  `stray_selection_unreported` is about one that holds a number.
-/

namespace TypedRpc

open Target (TypeExpr Property DataClass)

/-! ## What a class shows -/

/-- How a property shows an item of a selection on a resource, in a class of some name.  A name that
the resource does not have is not shown in any way. -/
inductive Typing.Shows (typing : Typing) (schema : Schema) (holder : Resource)
    (className : String) : NameTree → Property → Prop
  | stored {name : String} {field : FieldSpec} (found : holder.storedField? name = some field) :
    Shows typing schema holder className (.field name)
      (typing.queryProperty holder name (typing.fieldType field) field.nullable none)
  | aggregate {name : String} {aggregate : Aggregate} (unstored : holder.storedField? name = none)
    (found : holder.aggregate? name = some aggregate) :
    Shows typing schema holder className (.field name)
      (typing.queryProperty holder name
        (typing.valueType name (schema.aggregateType holder aggregate) true) aggregate.nullable
        none)
  | related {name : String} {relationship : Relationship}
    (unstored : holder.storedField? name = none) (single : holder.aggregate? name = none)
    (found : holder.relationship? name = some relationship) :
    Shows typing schema holder className (.field name)
      (typing.queryProperty holder name
        (typing.relatedType relationship.destination relationship.cardinality) true (some "null"))
  | one {name : String} {inner : List NameTree} {relationship : Relationship}
    {destination : Resource}
    (found : schema.destination? holder name = some (relationship, destination))
    (one : relationship.cardinality = .one) :
    Shows typing schema holder className (.nested name inner)
      (typing.queryProperty holder name (.named (nestedClassName className name)) true none)
  | many {name : String} {inner : List NameTree} {relationship : Relationship}
    {destination : Resource}
    (found : schema.destination? holder name = some (relationship, destination))
    (many : relationship.cardinality = .many) :
    Shows typing schema holder className (.nested name inner)
      (typing.queryProperty holder name (.list (.named (nestedClassName className name))) false
        none)

/-- Whether a class shows a selection at the end of a path: it is named after the path, and its
properties show the items on the resource that the path leads to. -/
structure Typing.ShowsBranch (typing : Typing) (schema : Schema) (root : Resource)
    (rootName : String) (branch : NameTree.Branch) (declared : DataClass) : Prop where
  plain : declared = {
    name := branch.path.foldl nestedClassName rootName, properties := declared.properties }
  properties : ∃ holder, schema.relatedResource? (some root) branch.path = some holder ∧
    List.Forall₂ (typing.Shows schema holder declared.name) branch.items declared.properties

/-- The names of the properties of a class on the wire. -/
def Target.DataClass.wireNames (declared : DataClass) : List String :=
  declared.properties.map (·.wireName)

section Shown

variable {typing : Typing} {schema : Schema}

/-- A property goes by the name of its item, under the convention of the wire. -/
theorem Typing.Shows.wireName_eq {holder : Resource} {className : String} {item : NameTree}
    {property : Property} (shown : typing.Shows schema holder className item property) :
    property.wireName = typing.options.outputFormat.apply item.name := by
  cases shown <;> rfl

theorem Typing.ShowsBranch.wireNames_eq {root : Resource} {rootName : String}
    {branch : NameTree.Branch} {declared : DataClass}
    (shown : typing.ShowsBranch schema root rootName branch declared) :
    declared.wireNames = branch.names.map typing.options.outputFormat.apply := by
  obtain ⟨_, -, each⟩ := shown.properties
  rw [Target.DataClass.wireNames, NameTree.Branch.names, List.map_map, ← List.forall₂_eq_eq_eq,
    List.forall₂_map_left_iff, List.forall₂_map_right_iff]
  exact each.flip.imp fun _ _ shows => shows.wireName_eq

/-! ## What the check of a selection tells -/

variable {query : String} {holder : Resource}

theorem selectionsFaults_cons_eq_nil_iff {item : Selection} {rest : List Selection} :
    selectionsFaults schema query holder (item :: rest) = .ok [] ↔
      selectionFaults schema query holder item = .ok [] ∧
        selectionsFaults schema query holder rest = .ok [] := by
  rw [selectionsFaults_cons_eq_ok_iff]
  constructor
  · rintro ⟨here, first, others, rest, none⟩
    obtain ⟨rfl, rfl⟩ := List.append_eq_nil_iff.mp none
    exact ⟨first, rest⟩
  · rintro ⟨first, rest⟩
    exact ⟨[], first, [], rest, rfl⟩

theorem hasMember_of_selectionFaults {name : String}
    (checked : selectionFaults schema query holder (.field name) = .ok []) :
    holder.hasMember name := by
  rw [selectionFaults] at checked
  split at checked
  · assumption
  · cases checked

theorem eq_of_selectedMember? {name selected : String}
    (h : selectedMember? holder (.text name) = some selected) : selected = name := by
  rw [selectedMember?] at h
  split at h
  · exact (Option.some.inj h).symm
  · cases h

theorem destination_of_selectionFaults {name : String} {inner : List Selection}
    (checked : selectionFaults schema query holder (.nested (.text name) inner) = .ok []) :
    ∃ relationship destination,
      schema.destination? holder name = some (relationship, destination) ∧
        selectionsFaults schema query destination inner = .ok [] := by
  rw [selectionFaults] at checked
  split at checked
  · cases checked
  · next selected known =>
    rw [eq_of_selectedMember? known] at checked
    split at checked
    · cases checked
    · next relationship destination found => exact ⟨relationship, destination, found, checked⟩

/-! ## The classes of a selection -/

theorem Resource.hasMember_iff {name : String} :
    holder.hasMember name ↔ (holder.storedField? name).isSome ∨
      (holder.aggregate? name).isSome ∨ (holder.relationship? name).isSome := by
  simp [hasMember, storedField?, or_assoc]

/-- A checked field is shown. -/
theorem Typing.shows_selectedField {name : String} (className : String)
    (known : holder.hasMember name) :
    typing.Shows schema holder className (.field name)
      (typing.selectedField schema holder name) := by
  rw [selectedField]
  cases stored : holder.storedField? name with
  | some field => exact .stored stored
  | none =>
    cases single : holder.aggregate? name with
    | some aggregate => exact .aggregate stored single
    | none =>
      cases related : holder.relationship? name with
      | some relationship => exact .related stored single related
      | none => simp [Resource.hasMember_iff, stored, single, related] at known

/-- A checked relationship with a selection of its own is shown. -/
theorem Typing.shows_selectedRelationship {name : String} (className : String)
    (inner : List NameTree) {relationship : Relationship} {destination : Resource}
    (found : schema.destination? holder name = some (relationship, destination)) :
    typing.Shows schema holder className (.nested name inner)
      (typing.selectedRelationship schema holder className name) := by
  simp only [selectedRelationship, found]
  cases cardinality : relationship.cardinality with
  | one => exact .one found cardinality
  | many => exact .many found cardinality

/-- A checked item has a property that shows it. -/
theorem Typing.exists_shows {item : NameTree} (className : String)
    (checked : selectionFaults schema query holder item.selection = .ok []) :
    ∃ property, typing.selectedProperty schema holder className item.selection = .ok property ∧
      typing.Shows schema holder className item property := by
  cases item with
  | field name =>
    exact ⟨_, rfl, shows_selectedField className (hasMember_of_selectionFaults checked)⟩
  | nested name inner =>
    obtain ⟨_, _, found, -⟩ := destination_of_selectionFaults checked
    exact ⟨_, rfl, shows_selectedRelationship className inner found⟩

/-- A checked selection has properties that show its items. -/
theorem Typing.exists_forall₂_shows {items : List NameTree} (className : String)
    (checked : selectionsFaults schema query holder (NameTree.selections items) = .ok []) :
    ∃ properties, typing.selectedClass schema holder className (NameTree.selections items) =
        .ok { name := className, properties := properties } ∧
      List.Forall₂ (typing.Shows schema holder className) items properties := by
  suffices shown : ∃ properties,
      (NameTree.selections items).mapM (typing.selectedProperty schema holder className) =
        .ok properties ∧ List.Forall₂ (typing.Shows schema holder className) items properties by
    obtain ⟨properties, each, shows⟩ := shown
    exact ⟨properties, by rw [selectedClass, each]; rfl, shows⟩
  simp only [mapM_eq_ok_iff]
  induction items with
  | nil => exact ⟨[], .nil, .nil⟩
  | cons item rest ih =>
    obtain ⟨first, others⟩ := selectionsFaults_cons_eq_nil_iff.mp checked
    obtain ⟨property, made, shows⟩ := exists_shows className first
    obtain ⟨properties, each, all⟩ := ih others
    exact ⟨property :: properties, .cons made each, .cons shows all⟩

theorem Schema.relatedResource?_concat {root : Resource} {path : List String} {name : String}
    {relationship : Relationship} {destination : Resource}
    (reached : schema.relatedResource? (some root) path = some holder)
    (found : schema.destination? holder name = some (relationship, destination)) :
    schema.relatedResource? (some root) (path ++ [name]) = some destination := by
  obtain ⟨_, known, found⟩ := Option.bind_eq_some_iff.mp found
  obtain ⟨_, existing, same⟩ := Option.bind_eq_some_iff.mp found
  cases same
  rw [relatedResource?] at reached ⊢
  rw [List.foldl_concat, reached]
  simp only [Option.bind_eq_bind, Option.bind_some, known, existing]

/-- The class of a checked selection at the end of a path shows it. -/
theorem Typing.exists_showsBranch {root : Resource} {rootName : String} {path : List String}
    {items : List NameTree} (reached : schema.relatedResource? (some root) path = some holder)
    (checked : selectionsFaults schema query holder (NameTree.selections items) = .ok []) :
    ∃ declared, typing.selectedClass schema holder (path.foldl nestedClassName rootName)
        (NameTree.selections items) = .ok declared ∧
      typing.ShowsBranch schema root rootName ⟨path, items⟩ declared := by
  obtain ⟨properties, made, shows⟩ :=
    exists_forall₂_shows (path.foldl nestedClassName rootName) checked
  exact ⟨_, made, rfl, holder, reached, shows⟩

/-- The classes for a relationship are the one for its own selection and those below. -/
theorem Typing.nestedClasses_nested {parent name nested : String} {inner : List Selection}
    {relationship : Relationship} {destination : Resource} {first : DataClass}
    {others : List DataClass}
    (found : schema.destination? holder name = some (relationship, destination))
    (named : nested = nestedClassName parent name)
    (made : typing.selectedClass schema destination nested inner = .ok first)
    (below : typing.nestedClassesOf schema destination nested inner = .ok others) :
    typing.nestedClasses schema holder parent (.nested (.text name) inner) =
      .ok (first :: others) := by
  subst named
  rw [nestedClasses]
  simp only [keyText, found, made, below, bind, Except.bind, pure, Except.pure]

/-- The classes below a checked selection are those of the selections that are nested in it, each
before the ones nested in itself. -/
theorem Typing.exists_nestedClasses {root : Resource} {rootName : String} {items : List NameTree}
    {path : List String} (reached : schema.relatedResource? (some root) path = some holder)
    (checked : selectionsFaults schema query holder (NameTree.selections items) = .ok []) :
    ∃ classes, typing.nestedClassesOf schema holder (path.foldl nestedClassName rootName)
        (NameTree.selections items) = .ok classes ∧
      List.Forall₂ (typing.ShowsBranch schema root rootName) (NameTree.branchesBelow path items)
        classes := by
  -- The check has gone on with the resource that the path leads to, so both change together.
  induction items using NameTree.items_induction generalizing holder path with
  | nil => exact ⟨[], rfl, .nil⟩
  | field name rest ih =>
    obtain ⟨-, others⟩ := selectionsFaults_cons_eq_nil_iff.mp checked
    obtain ⟨classes, made, shown⟩ := ih reached others
    refine ⟨classes, ?_, shown⟩
    rw [NameTree.selections, NameTree.selection, nestedClassesOf, made]
    rfl
  | nested name inner rest inner_ih rest_ih =>
    obtain ⟨first, others⟩ := selectionsFaults_cons_eq_nil_iff.mp checked
    obtain ⟨relationship, destination, found, below⟩ := destination_of_selectionFaults first
    have onward := Schema.relatedResource?_concat reached found
    obtain ⟨declared, made_here, shown_here⟩ := exists_showsBranch onward below
    obtain ⟨nested, made_nested, shown_nested⟩ := inner_ih onward below
    obtain ⟨classes, made, shown⟩ := rest_ih reached others
    refine ⟨declared :: nested ++ classes, ?_,
      .cons shown_here (List.rel_append shown_nested shown)⟩
    rw [NameTree.selections, NameTree.selection, nestedClassesOf,
      nestedClasses_nested found (List.foldl_concat ..) made_here made_nested, made]
    rfl

/-- The classes of a checked query are those of its selection and of the selections nested in it, in
preorder. -/
theorem Typing.exists_queryClasses (typing : Typing) {resource : Resource} {query : TypedQuery}
    {names : List NameTree} (selects : query.selection = NameTree.selections names)
    (checked : selectionsFaults schema query.name resource query.selection = .ok []) :
    ∃ classes, typing.queryClasses schema resource query = .ok classes ∧
      List.Forall₂ (typing.ShowsBranch schema resource query.className) (NameTree.preorder names)
        classes := by
  rw [selects] at checked
  have reached : schema.relatedResource? (some resource) [] = some resource := rfl
  obtain ⟨declared, made_here, shown_here⟩ := exists_showsBranch reached checked
  obtain ⟨nested, made_nested, shown_nested⟩ := exists_nestedClasses reached checked
  rw [List.foldl_nil] at made_here made_nested
  refine ⟨declared :: nested, ?_, .cons shown_here shown_nested⟩
  rw [queryClasses, selects, made_here, bind_eq_ok_iff]
  exact ⟨declared, rfl, bind_eq_ok_iff.mpr ⟨nested, made_nested, rfl⟩⟩

/-- The constant of a query whose selection holds names. -/
theorem Typing.selectionLiteral_eq {query : TypedQuery} {names : List NameTree}
    (selects : query.selection = NameTree.selections names) :
    typing.selectionLiteral query = .ok (NameTree.listLiteral
      (NameTree.renameAll typing.options.outputFormat.apply names)) := by
  rw [selectionLiteral, selects, itemLiterals_selections]
  rfl

theorem Typing.exists_of_selectionLiteral {query : TypedQuery} {literal : String}
    (spelled : typing.selectionLiteral query = .ok literal) :
    ∃ texts, typing.itemLiterals query.selection = .ok texts := by
  rw [selectionLiteral] at spelled
  cases each : typing.itemLiterals query.selection with
  | ok texts => exact ⟨texts, rfl⟩
  | error _ =>
    rw [each] at spelled
    cases spelled

end Shown

/-! ## The text of a query -/

/-- The name for a list of the records of a query that reads one. -/
def TypedQuery.listAlias (query : TypedQuery) (resource : Resource) : List String :=
  if Typing.readsList resource query then
    ["typealias " ++ query.className ++ "List = List<" ++ query.className ++ ">"]
  else []

/-- The constant of a query. -/
def TypedQuery.constant (query : TypedQuery) (literal : String) : String :=
  Text.joinLines [
    "// Field selection for " ++ query.name,
    "object " ++ query.constantName ++ " \x7b",
    "    val fields = " ++ literal,
    "\x7d"]

/-- A query as it is written: its classes, the list type, and the constant. -/
def TypedQuery.text (query : TypedQuery) (resource : Resource) (classes : List DataClass)
    (literal : String) : String :=
  Text.joinBlocks (("// Type for " ++ query.name) :: classes.map DataClass.text ++
    query.listAlias resource ++ [query.constant literal])

section Written

variable {typing : Typing} {schema : Schema} {resource : Resource} {query : TypedQuery}

theorem Typing.queryText_eq_ok_iff {text : String} :
    typing.queryText schema resource query = .ok text ↔
      ∃ classes, typing.queryClasses schema resource query = .ok classes ∧
        ∃ literal, typing.selectionLiteral query = .ok literal ∧
          query.text resource classes literal = text := by
  rw [queryText, bind_eq_ok_iff]
  simp only [bind_eq_ok_iff, pure, Except.pure, Except.ok.injEq]
  rfl

/-- A checked query can be written exactly when its selection holds names. -/
theorem Typing.queryText_isOk_iff
    (checked : selectionsFaults schema query.name resource query.selection = .ok []) :
    (∃ text, typing.queryText schema resource query = .ok text) ↔
      Selection.HoldNames query.selection := by
  constructor
  · rintro ⟨_, written⟩
    obtain ⟨_, -, _, spelled, -⟩ := queryText_eq_ok_iff.mp written
    exact typing.itemLiterals_isOk_iff.mp (exists_of_selectionLiteral spelled)
  · rintro ⟨names, selects⟩
    obtain ⟨classes, made, -⟩ := typing.exists_queryClasses selects checked
    exact ⟨_, queryText_eq_ok_iff.mpr ⟨classes, made, _, selectionLiteral_eq selects, rfl⟩⟩

/-- Where nothing is found for a query, nothing is found for its selection. -/
theorem selectionsFaults_of_queryFaults (checked : queryFaults schema resource query = .ok []) :
    selectionsFaults schema query.name resource query.selection = .ok [] := by
  rw [queryFaults] at checked
  split at checked
  · exact checked
  · cases checked

/-- All queries can be written exactly when each can, on its resource. -/
theorem Typing.typedQueriesText_isOk_iff_forall :
    (∃ text, typing.typedQueriesText schema = .ok text) ↔
      ∀ entry ∈ schema.rpcResources, ∀ resource, schema.resource? entry.resource = some resource →
        ∀ query ∈ entry.typedQueries,
          ∃ text, typing.queryText schema resource query = .ok text := by
  have sections : (∃ text, typing.typedQueriesText schema = .ok text) ↔
      ∀ queried ∈ schema.queriedResources, ∀ query ∈ queried.2,
        ∃ text, typing.queryText schema queried.1 query = .ok text := by
    simp only [typedQueriesText, resourceQueriesText, bind_pure_isOk_iff, mapM_isOk_iff]
  rw [sections]
  simp only [Schema.queriedResources, List.mem_filterMap]
  constructor
  · intro each entry listed resource known query held
    have some : ¬ entry.typedQueries.isEmpty := by
      rw [List.isEmpty_iff]
      exact List.ne_nil_of_mem held
    refine each (resource, entry.typedQueries) ⟨entry, listed, ?_⟩ query held
    rw [if_neg some, known]
    rfl
  · rintro each queried ⟨entry, listed, found⟩ query held
    split at found
    · cases found
    · obtain ⟨resource, known, rfl⟩ := Option.map_eq_some_iff.mp found
      exact each entry listed resource known query held

end Written

namespace Plan

variable {schema : Schema} {options : Options} {plan : Plan}

/-- The typed queries of a plan without faults are on resources that exist, and nothing is found for
their selections. -/
theorem query_checked (made : Plan.make schema options = .ok plan)
    (clean : plan.verification.faults = []) {entry : RpcResource}
    (listed : entry ∈ schema.rpcResources) :
    ∃ resource, schema.resource? entry.resource = some resource ∧
      ∀ query ∈ entry.typedQueries,
        selectionsFaults schema query.name resource query.selection = .ok [] := by
  obtain ⟨resource, known, -, queries⟩ := entries_inOrder made clean entry listed
  exact ⟨resource, known, fun query held => selectionsFaults_of_queryFaults (queries query held)⟩

/-- **A well-formed typed query shows what it selects.**  In a plan without faults it can be
written.  There is a class for its selection and one for each selection nested in it, in preorder,
and the properties of a class show the items of its selection one after the other; so there is none
for a name that the resource does not have.  The constant spells one selection: the same one with
every name as it is on the wire, and these are the names of the properties on the wire. -/
theorem typedQuery_rendered (typing : Typing) (made : Plan.make schema options = .ok plan)
    (clean : plan.verification.faults = []) {entry : RpcResource}
    (listed : entry ∈ schema.rpcResources) {query : TypedQuery} (held : query ∈ entry.typedQueries)
    (formed : query.wellFormed) :
    ∃ resource names classes literal,
      schema.resource? entry.resource = some resource ∧
      query.selection = NameTree.selections names ∧
      typing.queryText schema resource query = .ok (query.text resource classes literal) ∧
      List.Forall₂ (typing.ShowsBranch schema resource query.className) (NameTree.preorder names)
        classes ∧
      (∀ spelled, NameTree.listLiteral spelled = literal ↔
        spelled = NameTree.renameAll typing.options.outputFormat.apply names) ∧
      classes.map DataClass.wireNames = (NameTree.preorder
        (NameTree.renameAll typing.options.outputFormat.apply names)).map
          NameTree.Branch.names := by
  obtain ⟨resource, known, checked⟩ := query_checked made clean listed
  obtain ⟨names, selects⟩ := TypedQuery.holdNames_of_wellFormed formed
  obtain ⟨classes, made_classes, shown⟩ :=
    typing.exists_queryClasses selects (checked query held)
  have written := Typing.queryText_eq_ok_iff.mpr
    ⟨classes, made_classes, _, Typing.selectionLiteral_eq selects, rfl⟩
  refine ⟨resource, names, classes, _, known, selects, written, shown,
    fun spelled => ⟨NameTree.listLiteral_inj, congrArg NameTree.listLiteral⟩, ?_⟩
  rw [NameTree.map_names_preorder, ← List.forall₂_eq_eq_eq, List.forall₂_map_left_iff,
    List.forall₂_map_right_iff]
  exact shown.flip.imp fun _ _ shows => shows.wireNames_eq

end Plan

/-- A query for the to-dos and, with each, the others of its owner. -/
def overviewQuery : TypedQuery where
  name := "overview"
  action := "read"
  fields := [.field "title", .nested [("owner",
    [.text "name", .map [(.text "todos", .list [.text "title", .text "due_date"])]])]]

/-- What clients may do with the to-dos of owners. -/
def ownedEntry : RpcResource where
  resource := "Todo"
  actions := [{ name := "list_todos", action := "read" }]
  typedQueries := [overviewQuery]

/-- To-dos and their owners. -/
def ownedSchema : Schema where
  resources := [
    { id := "Todo"
      attributes := [
        { name := "title", type := .primitive .string {} },
        { name := "due_date", type := .primitive .date {} }]
      relationships := [{ name := "owner", kind := .belongsTo, destination := "User" }]
      actions := [{ name := "read", kind := .read }] },
    { id := "User"
      attributes := [{ name := "name", type := .primitive .string {} }]
      relationships := [{ name := "todos", kind := .hasMany, destination := "Todo" }] }]
  domains := [{ name := "Main", rpc := [ownedEntry] }]

theorem exists_ownedPlan :
    ∃ plan, Plan.make ownedSchema {} = .ok plan ∧ plan.verification.faults = [] := by
  have evaluated : (Plan.make ownedSchema {}).toOption.map (·.verification.faults) = some [] := by
    cbv
  exact Plan.exists_of_evaluated evaluated

/-- The query for to-dos with the others of their owners shows what it selects. -/
theorem overview_rendered :
    ∃ plan, Plan.make ownedSchema {} = .ok plan ∧ plan.verification.faults = [] ∧
      ownedEntry ∈ ownedSchema.rpcResources ∧ overviewQuery ∈ ownedEntry.typedQueries ∧
      overviewQuery.wellFormed ∧
      ∃ resource names classes literal,
        ownedSchema.resource? ownedEntry.resource = some resource ∧
        overviewQuery.selection = NameTree.selections names ∧
        (Typing.ofSchema ownedSchema {}).queryText ownedSchema resource overviewQuery =
          .ok (overviewQuery.text resource classes literal) ∧
        List.Forall₂
          ((Typing.ofSchema ownedSchema {}).ShowsBranch ownedSchema resource
            overviewQuery.className)
          (NameTree.preorder names) classes ∧
        (∀ spelled, NameTree.listLiteral spelled = literal ↔
          spelled = NameTree.renameAll ({} : Options).outputFormat.apply names) ∧
        classes.map DataClass.wireNames = (NameTree.preorder
          (NameTree.renameAll ({} : Options).outputFormat.apply names)).map
            NameTree.Branch.names := by
  obtain ⟨plan, made, clean⟩ := exists_ownedPlan
  have listed : ownedEntry ∈ ownedSchema.rpcResources := List.mem_singleton.mpr rfl
  have held : overviewQuery ∈ ownedEntry.typedQueries := List.mem_singleton.mpr rfl
  have formed : overviewQuery.wellFormed := by rfl
  exact ⟨plan, made, clean, listed, held, formed,
    Plan.typedQuery_rendered (.ofSchema ownedSchema {}) made clean listed held formed⟩

example : (Typing.ofSchema ownedSchema {}).selectionLiteral overviewQuery =
    .ok ("listOf(\"title\", mapOf(\"owner\" to listOf(\"name\", " ++
      "mapOf(\"todos\" to listOf(\"title\", \"dueDate\")))))") := by
  decide +kernel

namespace Plan

variable {schema : Schema} {options : Options} {plan : Plan}

/-- **When the typed queries of a plan without faults can be written:** exactly when every selection
holds names, at every depth. -/
theorem typedQueriesText_isOk_iff (typing : Typing) (made : Plan.make schema options = .ok plan)
    (clean : plan.verification.faults = []) :
    (∃ text, typing.typedQueriesText schema = .ok text) ↔
      ∀ entry ∈ schema.rpcResources, ∀ query ∈ entry.typedQueries,
        Selection.HoldNames query.selection := by
  rw [Typing.typedQueriesText_isOk_iff_forall]
  refine forall₂_congr fun entry listed => ?_
  obtain ⟨resource, known, checked⟩ := query_checked made clean listed
  simp only [known, Option.some.injEq, forall_eq']
  exact forall₂_congr fun query held => Typing.queryText_isOk_iff (checked query held)

end Plan

/-- The queries for the to-dos of owners can be written. -/
theorem owned_queries_written :
    ∃ plan, Plan.make ownedSchema {} = .ok plan ∧ plan.verification.faults = [] ∧
      ∃ text, (Typing.ofSchema ownedSchema {}).typedQueriesText ownedSchema = .ok text := by
  obtain ⟨plan, made, clean⟩ := exists_ownedPlan
  have formed : ∀ entry ∈ ownedSchema.rpcResources, ∀ query ∈ entry.typedQueries,
      query.wellFormed := by decide +kernel
  exact ⟨plan, made, clean, (Plan.typedQueriesText_isOk_iff _ made clean).mpr
    fun entry listed query held =>
      TypedQuery.holdNames_of_wellFormed (formed entry listed query held)⟩

/-- A document with a query that selects a number of the owner of a to-do. -/
def strayDocument : Document where
  value := .record [
    ("resources", .list [
      .record [
        ("id", .text "Todo"),
        ("relationships", .list [.record [
          ("name", .text "owner"), ("type", .text "belongs_to"), ("destination", .text "User")]]),
        ("actions", .list [.record [("name", .text "read"), ("type", .text "read")]])],
      .record [
        ("id", .text "User"),
        ("attributes", .list [.record [
          ("name", .text "name"),
          ("type", .record [("kind", .text "primitive"), ("primitive", .text "string")])]])]]),
    ("domains", .list [.record [
      ("name", .text "Main"),
      ("rpc", .list [.record [
        ("resource", .text "Todo"),
        ("rpc_actions", .list [
          .record [("name", .text "list_todos"), ("action", .text "read")]]),
        ("typed_queries", .list [.record [
          ("name", .text "overview"),
          ("action", .text "read"),
          ("fields", .list [.record [("owner", .list [.text "name", .int 5])]])]])]])]])]

/-- The schema that the document describes. -/
def straySchema : Schema where
  resources := [
    { id := "Todo"
      relationships := [{ name := "owner", kind := .belongsTo, destination := "User" }]
      actions := [{ name := "read", kind := .read }] },
    { id := "User", attributes := [{ name := "name", type := .primitive .string {} }] }]
  domains := [{
    name := "Main"
    rpc := [{
      resource := "Todo"
      actions := [{ name := "list_todos", action := "read" }]
      typedQueries := [{
        name := "overview"
        action := "read"
        fields := [.nested [("owner", [.text "name", .int 5])]] }] }] }]

/-- Nothing is found about a number among the names of a nested selection, and the query cannot be
written. -/
theorem stray_selection_unreported :
    ∃ schema, Schema.ofDocument strayDocument = .ok schema ∧
      ∃ plan, Plan.make schema {} = .ok plan ∧ plan.verification.faults = [] ∧
        (Typing.ofSchema schema {}).typedQueriesText schema = .error (.noEntries "int") := by
  have accepted : Schema.ofDocument strayDocument = .ok straySchema := by cbv
  have evaluated : (Plan.make straySchema {}).toOption.map (·.verification.faults) = some [] := by
    cbv
  obtain ⟨plan, made, clean⟩ := Plan.exists_of_evaluated evaluated
  exact ⟨straySchema, accepted, plan, made, clean, by rfl⟩

end TypedRpc
