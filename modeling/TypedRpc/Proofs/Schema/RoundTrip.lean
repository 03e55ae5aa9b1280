import TypedRpc.Proofs.Schema.Nesting
import TypedRpc.Proofs.Verification.RpcConfig
import TypedRpc.Schema.Document

/-!
# Schemas are read back

A schema that is written with every field spelled out says the same as before, whatever it holds:
each part is read back from what is written of it.  The one thing that may stand in the way is how
deep its descriptors stand inside each other.  Since nothing deeper is ever read, a schema that has
been read from some document is read back from its own.

* `Checked.schema_inverts`: schemas are read back exactly as far as their descriptors fit.
* `Schema.reads_back`: the same for documents, and what follows for schemas that have been read.
  `nested_arrays_refused` shows descriptors that stand too deep.
-/

namespace TypedRpc

/-! ## The descriptors of a schema -/

/-- Whether there is room for a descriptor that stands inside no other. -/
def TypeRef.Fits (type : TypeRef) : Prop :=
  type.marksIn .outer ≤ maxMarks

/-- The descriptors of an action. -/
def Action.descriptors (action : Action) : List TypeRef :=
  action.arguments.map (·.type) ++ action.metadata.map (·.type) ++ action.returns.toList

/-- The descriptors of a resource. -/
def Resource.descriptors (resource : Resource) : List TypeRef :=
  resource.attributes.map (·.type) ++ resource.calculations.map (·.type) ++
    resource.actions.flatMap Action.descriptors

/-- The descriptors of a schema. -/
def Schema.descriptors (schema : Schema) : List TypeRef :=
  schema.resources.flatMap Resource.descriptors

theorem Action.forall_descriptors_iff {action : Action} {P : TypeRef → Prop} :
    (∀ type ∈ action.descriptors, P type) ↔
      (∀ argument ∈ action.arguments, P argument.type) ∧
        (∀ field ∈ action.metadata, P field.type) ∧ ∀ type ∈ action.returns, P type := by
  simp only [descriptors, List.forall_mem_append, List.forall_mem_map, Option.mem_toList,
    Option.mem_def, and_assoc]

theorem Resource.forall_descriptors_iff {resource : Resource} {P : TypeRef → Prop} :
    (∀ type ∈ resource.descriptors, P type) ↔
      (∀ stored ∈ resource.attributes, P stored.type) ∧
        (∀ calculation ∈ resource.calculations, P calculation.type) ∧
          ∀ action ∈ resource.actions, ∀ type ∈ action.descriptors, P type := by
  simp only [descriptors, List.forall_mem_append, List.forall_mem_map, List.forall_mem_flatMap,
    and_assoc]

namespace Checked

/-! ## Vocabularies -/

theorem faithful_aggregateKind : Faithful AggregateKind := by
  intro kind
  cases kind <;> rfl

theorem faithful_relationshipKind : Faithful RelationshipKind := by
  intro kind
  cases kind <;> rfl

theorem faithful_actionKind : Faithful ActionKind := by
  intro kind
  cases kind <;> rfl

theorem faithful_multitenancy : Faithful Multitenancy := by
  intro way
  cases way <;> rfl

/-! ## Members of resources -/

theorem descriptor_inverts : Inverts descriptor TypeRef.toValue TypeRef.Fits :=
  descriptorIn_inverts {}

/-- A named value is read back when its type fits, whatever stands behind its fields. -/
theorem fieldOf_written {field : FieldSpec} (fits : field.type.Fits)
    (others : List (String × Value)) : fieldOf (written (field.entries ++ others)) = .ok field :=
  namedValue_written (descriptor_inverts.reads field.type fits) others

theorem yields_fieldOf (fields : Entries) : (fieldOf fields).Yields fun field => field.type.Fits :=
  yields_namedValue descriptor_inverts.admits fields

theorem storedAttribute_inverts :
    Inverts storedAttribute Attribute.toValue fun stored => stored.type.Fits where
  reads stored fits := (record_written _ _ _).trans <|
    seq_ok (seq_ok (map_ok _
      (fieldOf_written fits _))
      (optional_written rfl (boolean_written stored.isPublic)))
      (optional_written rfl (boolean_written stored.isPrimaryKey))
  admits := yields_record (fun fields => by
    simp only [yields_seq, yields_map]
    exact fun field given _ _ _ _ => yields_fieldOf fields field given) _

theorem calculation_inverts :
    Inverts calculation Calculation.toValue fun calculation => calculation.type.Fits where
  reads calculation fits := (record_written _ _ _).trans <|
    seq_ok (map_ok _
      (fieldOf_written fits _))
      (optional_written rfl (boolean_written calculation.isPublic))
  admits := yields_record (fun fields => by
    simp only [yields_seq, yields_map]
    exact fun field given _ _ => yields_fieldOf fields field given) _

theorem argument_inverts :
    Inverts argument Argument.toValue fun argument => argument.type.Fits where
  reads argument fits := (record_written _ _ _).trans <|
    seq_ok (map_ok _
      (fieldOf_written fits _))
      (optional_written rfl (boolean_written argument.isPublic))
  admits := yields_record (fun fields => by
    simp only [yields_seq, yields_map]
    exact fun field given _ _ => yields_fieldOf fields field given) _

theorem metadataField_inverts :
    Inverts metadataField Field.toValue fun field => field.type.Fits where
  reads field fits := (record_written _ _ _).trans <| by
    simpa only [List.append_nil] using fieldOf_written fits []
  admits := yields_record yields_fieldOf _

theorem aggregate_written (aggregate : Aggregate) :
    Checked.aggregate { value := aggregate.toValue } = .ok aggregate :=
  (record_written _ _ _).trans <|
    seq_ok (seq_ok (seq_ok (seq_ok (seq_ok (map_ok _
      (required_written rfl (text_written aggregate.name)))
      (required_written rfl (word_written faithful_aggregateKind aggregate.kind)))
      (optional_written rfl (texts_written aggregate.relationshipPath)))
      (optional_written rfl (text?_written aggregate.field)))
      (optional_written rfl (boolean_written aggregate.isPublic)))
      (optional_written rfl (boolean_written aggregate.nullable))

theorem relationship_written (relationship : Relationship) :
    Checked.relationship { value := relationship.toValue } = .ok relationship :=
  (record_written _ _ _).trans <|
    seq_ok (seq_ok (seq_ok (map_ok _
      (required_written rfl (text_written relationship.name)))
      (required_written rfl (word_written faithful_relationshipKind relationship.kind)))
      (required_written rfl (text_written relationship.destination)))
      (optional_written rfl (boolean_written relationship.isPublic))

theorem identity_written (identity : Identity) :
    Checked.identity { value := identity.toValue } = .ok identity :=
  (record_written _ _ _).trans <|
    seq_ok (map_ok _
      (required_written rfl (text_written identity.name)))
      (optional_written rfl (texts_written identity.keys))

theorem pagination_written (pagination : Pagination) :
    Checked.pagination { value := pagination.toValue } = .ok pagination :=
  (record_written _ _ _).trans <|
    seq_ok (seq_ok (seq_ok (seq_ok (map_ok _
      (optional_written rfl (boolean_written pagination.offset)))
      (optional_written rfl (boolean_written pagination.keyset)))
      (optional_written rfl (boolean_written pagination.required)))
      (optional_written rfl (boolean_written pagination.countable)))
      (optional_written rfl (integer?_written pagination.defaultLimit))

theorem pagination?_written (found : Option Pagination) :
    orNull pagination { value := (found.map Pagination.toValue).getD .null } = .ok found :=
  orNull_written (fun _ _ => nofun) fun pagination _ => pagination_written pagination

theorem descriptor?_inverts : Inverts (orNull descriptor)
    (fun found => (found.map TypeRef.toValue).getD .null) fun found => ∀ type ∈ found, type.Fits :=
  descriptor_inverts.orNull fun type => by
    rw [type.toValue_eq_record]
    nofun

theorem action_inverts :
    Inverts action Action.toValue fun action => ∀ type ∈ action.descriptors, type.Fits where
  reads action fits := by
    obtain ⟨arguments, metadata, returns⟩ := Action.forall_descriptors_iff.mp fits
    exact (record_written _ _ _).trans <|
      seq_ok (seq_ok (seq_ok (seq_ok (seq_ok (seq_ok (seq_ok (seq_ok (map_ok _
        (required_written rfl (text_written action.name)))
        (required_written rfl (word_written faithful_actionKind action.kind)))
        (optional_written rfl (argument_inverts.list.reads action.arguments arguments)))
        (optional_written rfl (texts_written action.accept)))
        (optional_written rfl (boolean_written action.get)))
        (optional_written rfl (pagination?_written action.pagination)))
        (optional_written rfl (metadataField_inverts.list.reads action.metadata metadata)))
        (optional_written rfl (descriptor?_inverts.reads action.returns returns)))
        (optional_written rfl (text?_written action.description))
  admits := yields_record (fun fields => by
    simp only [yields_seq, yields_map]
    intro _ _ _ _ arguments readArguments _ _ _ _ _ _ metadata readMetadata returns readReturns _ _
    exact Action.forall_descriptors_iff.mpr
      ⟨argument_inverts.admits_items fields _ arguments readArguments,
        metadataField_inverts.admits_items fields _ metadata readMetadata,
        yields_optional nofun descriptor?_inverts.admits fields _ returns readReturns⟩) _

theorem resource_inverts :
    Inverts resource Resource.toValue
      fun resource => ∀ type ∈ resource.descriptors, type.Fits where
  reads resource fits := by
    obtain ⟨attributes, calculations, actions⟩ := Resource.forall_descriptors_iff.mp fits
    exact (record_written _ _ _).trans <|
      seq_ok (seq_ok (seq_ok (seq_ok (seq_ok (seq_ok (seq_ok (seq_ok (seq_ok (seq_ok (seq_ok
        (map_ok _
        (required_written rfl (text_written resource.id)))
        (optional_written rfl (text?_written resource.typeName)))
        (optional_written rfl (boolean_written resource.embedded)))
        (optional_written rfl (word_written faithful_multitenancy resource.multitenancy)))
        (optional_written rfl (storedAttribute_inverts.list.reads resource.attributes attributes)))
        (optional_written rfl (list_written fun relationship _ =>
          relationship_written relationship)))
        (optional_written rfl (calculation_inverts.list.reads resource.calculations calculations)))
        (optional_written rfl (list_written fun aggregate _ => aggregate_written aggregate)))
        (optional_written rfl (list_written fun identity _ => identity_written identity)))
        (optional_written rfl (action_inverts.list.reads resource.actions actions)))
        (optional_written rfl (renames_written resource.fieldNames)))
        (optional_written rfl (table_written fun entry _ => renames_written entry.2))
  admits := yields_record (fun fields => by
    simp only [yields_seq, yields_map]
    intro _ _ _ _ _ _ _ _ attributes readAttributes _ _ calculations readCalculations _ _ _ _
      actions readActions _ _ _ _
    exact Resource.forall_descriptors_iff.mpr
      ⟨storedAttribute_inverts.admits_items fields _ attributes readAttributes,
        calculation_inverts.admits_items fields _ calculations readCalculations,
        action_inverts.admits_items fields _ actions readActions⟩) _

/-! ## Members of domains -/

theorem metadataChoice_written (choice : MetadataChoice) :
    metadataChoice { value := choice.toValue } = .ok choice := by
  cases choice with
  | all shown => rfl
  | only names =>
    rw [metadataChoice, MetadataChoice.toValue, texts_written]
    rfl

theorem metadataChoice?_written (found : Option MetadataChoice) :
    orNull metadataChoice { value := (found.map MetadataChoice.toValue).getD .null } = .ok found :=
  orNull_written (fun choice _ => by cases choice <;> nofun) fun choice _ =>
    metadataChoice_written choice

theorem texts?_written (found : Option (List String)) :
    orNull (list text) { value := (found.map Value.texts).getD .null } = .ok found :=
  orNull_written (fun _ _ => nofun) fun names _ => texts_written names

theorem rpcAction_written (rpcAction : RpcAction) :
    Checked.rpcAction { value := rpcAction.toValue } = .ok rpcAction :=
  (record_written _ _ _).trans <|
    seq_ok (seq_ok (seq_ok (seq_ok (seq_ok (seq_ok (map_ok _
      (required_written rfl (text_written rpcAction.name)))
      (required_written rfl (text_written rpcAction.action)))
      (optional_written rfl (texts?_written rpcAction.identities)))
      (optional_written rfl (metadataChoice?_written rpcAction.showMetadata)))
      (optional_written rfl (renames_written rpcAction.metadataFieldNames)))
      (optional_written rfl (boolean_written rpcAction.get)))
      (optional_written rfl (texts_written rpcAction.getBy))

/-- Any values are read back from a list of them. -/
theorem values_written (values : List Value) :
    list anything { value := .list values } = .ok values := by
  have written := @list_written _ anything id values fun value _ => anything_written value
  rwa [List.map_id] at written

theorem selectionEntry_written (entry : SelectionEntry) :
    selectionEntry { value := entry.toValue } = .ok entry := by
  cases entry with
  | field name => rfl
  | nested selections =>
    have held : table (list anything) { value := (SelectionEntry.nested selections).toValue } =
        .ok selections :=
      table_written fun entry _ => values_written entry.2
    rw [selectionEntry, held]
    rfl

theorem typedQuery_written (query : TypedQuery) :
    Checked.typedQuery { value := query.toValue } = .ok query :=
  (record_written _ _ _).trans <|
    seq_ok (seq_ok (seq_ok (seq_ok (map_ok _
      (required_written rfl (text_written query.name)))
      (required_written rfl (text_written query.action)))
      (optional_written rfl (list_written fun entry _ => selectionEntry_written entry)))
      (optional_written rfl (text?_written query.resultTypeName)))
      (optional_written rfl (text?_written query.fieldsConstName))

theorem rpcResource_written (rpcResource : RpcResource) :
    Checked.rpcResource { value := rpcResource.toValue } = .ok rpcResource :=
  (record_written _ _ _).trans <|
    seq_ok (seq_ok (map_ok _
      (required_written rfl (text_written rpcResource.resource)))
      (optional_written rfl (list_written fun rpcAction _ => rpcAction_written rpcAction)))
      (optional_written rfl (list_written fun query _ => typedQuery_written query))

theorem domain_written (domain : Domain) :
    Checked.domain { value := domain.toValue } = .ok domain :=
  (record_written _ _ _).trans <|
    seq_ok (seq_ok (map_ok _
      (required_written rfl (text_written domain.name)))
      (optional_written rfl (texts_written domain.resources)))
      (optional_written rfl (list_written fun rpcResource _ => rpcResource_written rpcResource))

/-! ## Schemas -/

/-- **Schemas are read back exactly as far as their descriptors fit.** -/
theorem schema_inverts :
    Inverts schema Schema.toValue fun schema => ∀ type ∈ schema.descriptors, type.Fits where
  reads schema fits := by
    rw [Schema.descriptors, List.forall_mem_flatMap] at fits
    exact (record_written _ _ _).trans <|
      seq_ok (seq_ok (map_ok _
        (optional_written rfl (text_written schema.app)))
        (optional_written rfl (resource_inverts.list.reads schema.resources fits)))
        (optional_written rfl (list_written fun domain _ => domain_written domain))
  admits := yields_record (fun fields => by
    simp only [yields_seq, yields_map]
    intro _ _ resources given _ _
    rw [Schema.descriptors, List.forall_mem_flatMap]
    exact resource_inverts.admits_items fields _ resources given) _

end Checked

namespace Schema

/-- The descriptors of a schema that has been read have found room. -/
theorem fits_of_ofDocument {document : Document} {schema : Schema}
    (given : ofDocument document = .ok schema) : ∀ type ∈ schema.descriptors, type.Fits := by
  unfold ofDocument at given
  split at given
  · split at given
    · next read =>
      cases given
      exact Checked.schema_inverts.admits document schema read
    · contradiction
  · contradiction

theorem ofDocument_toValue {schema : Schema} (fits : ∀ type ∈ schema.descriptors, type.Fits) :
    ofDocument { value := schema.toValue } = .ok schema := by
  have read := Checked.schema_inverts.reads schema fits
  unfold ofDocument
  split
  · rw [read]
  · next other => exact (other _ rfl).elim

/-- What is read from a text is read from the document that it holds. -/
theorem exists_ofDocument_of_read {format : DocumentFormat} {text : List Char} {schema : Schema}
    (given : read format text = .ok schema) :
    ∃ document, ofDocument document = .ok schema := by
  obtain ⟨document, -, described⟩ := bind_eq_ok_iff.mp given
  refine ⟨document, ?_⟩
  cases here : ofDocument document with
  | error fault =>
    rw [here] at described
    contradiction
  | ok other =>
    rw [here] at described
    cases described
    rfl

/-- **A schema is read back from its own document**, whatever it holds, exactly as long as there is
room for its descriptors.  There is for every schema that has been read from a text, in either
format: reading it once more changes nothing. -/
theorem reads_back (schema : Schema) :
    (ofDocument { value := schema.toValue } = .ok schema ↔
      ∀ type ∈ schema.descriptors, type.marksIn .outer ≤ maxMarks) ∧
    ∀ format text, read format text = .ok schema →
      ofDocument { value := schema.toValue } = .ok schema := by
  refine ⟨⟨fits_of_ofDocument, ofDocument_toValue⟩, fun format text given => ?_⟩
  obtain ⟨document, described⟩ := exists_ofDocument_of_read given
  exact ofDocument_toValue (fits_of_ofDocument described)

end Schema

/-- A text inside a number of arrays. -/
def nestedArrays : Nat → TypeRef
  | 0 => .primitive .string {}
  | depth + 1 => .array (nestedArrays depth) {}

theorem marksIn_nestedArrays (depth : Nat) : (nestedArrays depth).marksIn .array = depth + 1 := by
  induction depth with
  | zero => rfl
  | succ depth ih =>
    rw [nestedArrays, TypeRef.marksIn, show Scope.inside .array .array = .array from rfl, ih,
      show Scope.marks .array .array = 1 from rfl, Nat.add_comm]

/-- A resource with a text inside so many arrays that there is no room for it. -/
def deepSchema : Schema where
  resources := [{ id := "Deep", attributes := [{ name := "items", type := nestedArrays 254 }] }]

/-- A schema whose descriptors stand too deep is not read back. -/
theorem nested_arrays_refused :
    Schema.ofDocument { value := deepSchema.toValue } ≠ .ok deepSchema := by
  intro given
  have fits : (nestedArrays 254).Fits := Schema.fits_of_ofDocument given _ (.head _)
  rw [TypeRef.Fits, nestedArrays, TypeRef.marksIn,
    show Scope.inside .outer .array = .array from rfl, marksIn_nestedArrays] at fits
  exact absurd fits (by decide)

end TypedRpc
