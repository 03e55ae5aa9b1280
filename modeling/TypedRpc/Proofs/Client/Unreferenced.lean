import TypedRpc.Proofs.Client.Agreement

/-!
# What is not referred to does not matter

A resource at the end of a schema is found by its id only.  When an earlier resource has that id, or
nothing in the schema says it, the resource is never found: the schema has the same plan and the
same client without it.

* `Schema.Says`: where an id occurs in a schema.
* `Schema.exposeAlike_append`: a schema agrees with itself and one more such resource.
* `generate_append`: the statement about plans and clients.
-/

namespace TypedRpc

open Discovery (NotEmpty)

/-- A type mentions more when more ids count. -/
theorem TypeRef.Mentions.mono {counts others : String → Prop} (more : ∀ id, counts id → others id)
    {type : TypeRef} {id : String} (mentioned : type.Mentions counts id) :
    type.Mentions others id := by
  induction mentioned with
  | reference id => exact .reference id
  | item constraints inside ih => exact .item constraints ih
  | member name listed inside ih => exact .member name listed ih
  | field container instanceOf renames listed inside ih =>
    exact .field container instanceOf renames listed ih
  | instanceOf container fields renames known =>
    exact .instanceOf container fields renames (more _ known)

namespace Schema

/-- Whether an id occurs in a schema: a relationship leads there, whether clients see it or not, a
type mentions it at some depth, or a domain lists it or says what clients may do with it. -/
inductive Says (schema : Schema) (id : String) : Prop where
  | relationship (resource : Resource) (listed : resource ∈ schema.resources)
      (relationship : Relationship) (held : relationship ∈ resource.relationships)
      (leads : relationship.destination = id)
  | type (resource : Resource) (listed : resource ∈ schema.resources) (type : TypeRef)
      (declared : resource.HasType type) (mentioned : type.Mentions (fun _ => True) id)
  | domain (domain : Domain) (listed : domain ∈ schema.domains) (held : id ∈ domain.resources)
  | entry (domain : Domain) (listed : domain ∈ schema.domains) (entry : RpcResource)
      (held : entry ∈ domain.rpc) (opened : entry.resource = id)

/-- A schema with one more resource at its end. -/
def append (schema : Schema) (resource : Resource) : Schema :=
  { schema with resources := schema.resources ++ [resource] }

/-- A resource at the end is found by its own id at most, and only if no other one has it. -/
theorem resource?_append (schema : Schema) (resource : Resource) (id : String) :
    (schema.append resource).resource? id =
      (schema.resource? id).or (if resource.id = id then some resource else none) := by
  rw [resource?, append, List.find?_append, List.find?_singleton]
  simp only [beq_iff_eq]
  rfl

variable {schema : Schema} {resource : Resource}

theorem resource?_append_of_taken
    (taken : ∃ earlier ∈ schema.resources, earlier.id = resource.id) (id : String) :
    (schema.append resource).resource? id = schema.resource? id := by
  rw [resource?_append]
  split
  · next same =>
    obtain ⟨earlier, listed, first⟩ := taken
    have found : (schema.resource? id).isSome := by
      rw [resource?, List.find?_isSome]
      exact ⟨earlier, listed, by rw [first, same, beq_self_eq_true]⟩
    obtain ⟨named, here⟩ := Option.isSome_iff_exists.mp found
    rw [here, Option.some_or]
  · exact Option.or_none

/-- Everything in a schema where an id does not occur names other ids. -/
theorem within_of_not_says {id : String} (unsaid : ¬ schema.Says id)
    (listed : resource ∈ schema.resources) : resource.Within (· ≠ id) where
  types type declared other mentioned := by
    rintro rfl
    exact unsaid (.type resource listed type declared (mentioned.mono fun _ _ => trivial))
  destinations relationship held leads :=
    unsaid (.relationship resource listed relationship held leads)

/-- **A resource that is never found leaves the schema as it is** to whoever looks ids up. -/
theorem exposeAlike_append
    (unseen : (∃ earlier ∈ schema.resources, earlier.id = resource.id) ∨
      ¬ schema.Says resource.id) :
    ∃ known, ExposeAlike known schema (schema.append resource) := by
  rcases unseen with taken | unsaid
  · -- every id names the same resource
    have agree := AgreeOn.of_lookup fun id => (resource?_append_of_taken taken id).symm
    exact ⟨fun _ => True, agree, rfl, fun _ _ => trivial⟩
  · -- every id but one does, and nothing leads to that one
    refine ⟨(· ≠ resource.id), ⟨⟨fun {id} other => ?_, fun _ named =>
      within_of_not_says unsaid (mem_of_resource? named)⟩, rfl, fun entry listed same => ?_⟩⟩
    · rw [resource?_append, if_neg (Ne.symm other), Option.or_none]
    · obtain ⟨domain, listed, held⟩ := List.mem_flatMap.mp listed
      exact unsaid (.entry domain listed entry held same)

end Schema

/-- **Only what is referred to matters.**  A resource that is added at the end of a schema, and
whose id an earlier one has or nothing in the schema says, changes nothing: what is exposed, what is
discovered, the faults and the warnings are the same, and so are the client and the log. -/
theorem generate_append {schema : Schema} {resource : Resource} (options : Options)
    (unseen : (∃ earlier ∈ schema.resources, earlier.id = resource.id) ∨
      ¬ schema.Says resource.id) :
    Plan.make (schema.append resource) options = Plan.make schema options ∧
      generate (schema.append resource) options = generate schema options := by
  obtain ⟨known, alike⟩ := Schema.exposeAlike_append unseen
  exact ⟨(Plan.make_agree alike options).symm, (generate_agree alike rfl).symm⟩

/-- A note of a diary. -/
def diaryNote : Resource where
  id := "Note"
  attributes := [{ name := "text", type := .primitive .string {} }]
  actions := [{ name := "read", kind := .read }]

/-- Notes that clients may list. -/
def diarySchema : Schema where
  resources := [diaryNote]
  domains := [{
    name := "Main"
    resources := ["Note"]
    rpc := [{
      resource := "Note"
      actions := [{ name := "list_notes", action := "read" }] }] }]

/-- Nothing about notes says that there are drafts. -/
theorem diary_silent : ¬ diarySchema.Says "Draft" := by
  rintro (⟨_, listed, _, held, -⟩ | ⟨_, listed, type, declared, mentioned⟩ | ⟨_, listed, held⟩ |
    ⟨_, listed, _, held, opened⟩)
  · obtain rfl := List.mem_singleton.mp listed
    exact absurd held List.not_mem_nil
  · obtain rfl := List.mem_singleton.mp listed
    cases declared with
    | stored stored held =>
      obtain rfl := List.mem_singleton.mp held
      cases mentioned
    | calculation calculation held => exact absurd held List.not_mem_nil
    | argument action argument held taken =>
      obtain rfl := List.mem_singleton.mp held
      exact absurd taken List.not_mem_nil
    | result action type held returned =>
      obtain rfl := List.mem_singleton.mp held
      cases returned
    | metadata action field held shown =>
      obtain rfl := List.mem_singleton.mp held
      exact absurd shown List.not_mem_nil
  · obtain rfl := List.mem_singleton.mp listed
    exact absurd held (by decide)
  · obtain rfl := List.mem_singleton.mp listed
    obtain rfl := List.mem_singleton.mp held
    exact absurd opened (by decide)

/-- Neither a second resource of one id nor one that nothing leads to changes the client for
notes. -/
theorem diary_append :
    (Plan.make (diarySchema.append { id := "Note", embedded := true }) {} =
        Plan.make diarySchema {} ∧
      generate (diarySchema.append { id := "Note", embedded := true }) {} =
        generate diarySchema {}) ∧
      Plan.make (diarySchema.append { id := "Draft" }) {} = Plan.make diarySchema {} ∧
        generate (diarySchema.append { id := "Draft" }) {} = generate diarySchema {} :=
  ⟨generate_append {} (.inl ⟨diaryNote, List.mem_singleton.mpr rfl, rfl⟩),
    generate_append {} (.inr diary_silent)⟩

end TypedRpc
