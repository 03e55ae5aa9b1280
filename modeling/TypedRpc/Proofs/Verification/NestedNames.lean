import Mathlib
import TypedRpc.Proofs.Discovery.Graph
import TypedRpc.Proofs.Worklist
import TypedRpc.Verification.NestedNames

/-!
# Every illegal name in the types of an action is reported

The walk through the types of an action looks at each resource once, whatever path it comes by.
What stands inside types is said here without a walk: a type holds the fields of the structs in it,
it leads to the resources that it mentions, and it nests what it holds and what those nest.  The
walk ends, and it reports a name exactly when the name is illegal and the types nest it.

* `TypeRef.Holds`, `TypeRef.Nests`: what stands inside a type.
* `Covered`: what a type holds and mentions has been dealt with, or is left to do.
* `Walking`: everything that holds along a walk.
* `nestedNames_reported`: the statement about whole walks.

A struct that is an instance of the empty id leads nowhere, also where a resource has that id;
`empty_instance_not_walked` shows such a schema.
-/

namespace TypedRpc

open Discovery (NotEmpty given?_eq_some)

/-! ## What stands inside types -/

/-- Whether a field of some name stands inside a type where no resource has to be entered.  It comes
with its name after the renames of its struct. -/
inductive TypeRef.Holds : TypeRef → String → String → Prop where
  | item {item : TypeRef} {name mapped : String} (constraints : Constraints)
      (inside : Holds item name mapped) : Holds (.array item constraints) name mapped
  | member {members : List (String × TypeRef)} {tag : String} {type : TypeRef}
      {name mapped : String} (title : Option String) (listed : (tag, type) ∈ members)
      (inside : Holds type name mapped) : Holds (.union members title) name mapped
  | field {fields : List FieldSpec} {field : FieldSpec} (container : Container)
      (instanceOf : Option String) (renames : Renames) (listed : field ∈ fields) :
      Holds (.struct container fields instanceOf renames) field.name
        ((renames.lookup field.name).getD field.name)
  | inField {fields : List FieldSpec} {field : FieldSpec} {name mapped : String}
      (container : Container) (instanceOf : Option String) (renames : Renames)
      (listed : field ∈ fields) (inside : Holds field.type name mapped) :
      Holds (.struct container fields instanceOf renames) name mapped

/-- Whether a field stands inside a type or inside what it leads to: the public attributes and
calculations of the resources that it mentions, and their types. -/
inductive TypeRef.Nests (schema : Schema) (counts : String → Prop) :
    TypeRef → String → String → Prop where
  | held {type : TypeRef} {name mapped : String} (inside : type.Holds name mapped) :
      Nests schema counts type name mapped
  | ofResource {type : TypeRef} {id : String} {resource : Resource} {field : FieldSpec}
      (mentioned : type.Mentions counts id) (named : schema.resource? id = some resource)
      (listed : field ∈ NestedNames.nestedFields resource) :
      Nests schema counts type field.name
        ((resource.fieldNames.lookup field.name).getD field.name)
  | inResource {type : TypeRef} {id : String} {resource : Resource} {field : FieldSpec}
      {name mapped : String} (mentioned : type.Mentions counts id)
      (named : schema.resource? id = some resource)
      (listed : field ∈ NestedNames.nestedFields resource)
      (inside : Nests schema counts field.type name mapped) :
      Nests schema counts type name mapped

/-- A type nests what a part of it nests. -/
theorem TypeRef.Nests.of_part {schema : Schema} {counts : String → Prop} {type inner : TypeRef}
    (holds : ∀ {name mapped}, inner.Holds name mapped → type.Holds name mapped)
    (mentions : ∀ {id}, inner.Mentions counts id → type.Mentions counts id)
    {name mapped : String} (nested : inner.Nests schema counts name mapped) :
    type.Nests schema counts name mapped := by
  cases nested with
  | held inside => exact .held (holds inside)
  | ofResource mentioned named listed => exact .ofResource (mentions mentioned) named listed
  | inResource mentioned named listed inside =>
    exact .inResource (mentions mentioned) named listed inside

/-- The types of an action that are walked through. -/
inductive Action.Walks (action : Action) : TypeRef → Prop where
  | argument (argument : Argument) (shown : argument ∈ action.publicArguments) :
      action.Walks argument.type
  | result (type : TypeRef) (generic : action.kind = .generic)
      (returned : action.returns = some type) : action.Walks type
  | metadata (field : FieldSpec) (listed : field ∈ action.metadata) : action.Walks field.type

/-- Whether the types of an action nest a field. -/
def Action.Nests (schema : Schema) (counts : String → Prop) (action : Action)
    (name mapped : String) : Prop :=
  ∃ type, action.Walks type ∧ type.Nests schema counts name mapped

namespace NestedNames

variable {schema : Schema} {place : ActionPlace} {types : TypeRef → Prop} {state : State}
  {tasks rest : List Task} {task : Task} {name mapped id location : String} {type : TypeRef}

/-! ## Tasks stand for types -/

/-- Whether a task deals with a field before it enters a resource. -/
def Task.Holds (name mapped : String) : Task → Prop
  | .value type _ => type.Holds name mapped
  | .field own renamed type _ => own = name ∧ renamed = mapped ∨ type.Holds name mapped
  | .resource _ _ => False

/-- Whether a task comes to a resource. -/
def Task.Mentions (id : String) : Task → Prop
  | .value type _ | .field _ _ type _ => type.Mentions NotEmpty id
  | .resource other _ => other = id

/-- Whether a task stands for a field that is nested somewhere. -/
def Task.Nests (schema : Schema) (name mapped : String) : Task → Prop
  | .value type _ => type.Nests schema NotEmpty name mapped
  | .field own renamed type _ =>
    own = name ∧ renamed = mapped ∨ type.Nests schema NotEmpty name mapped
  | .resource id _ => (TypeRef.resource id).Nests schema NotEmpty name mapped

theorem mem_fieldTasks {renames : Renames} {fields : List FieldSpec} :
    task ∈ fieldTasks renames location fields ↔ ∃ field ∈ fields,
      .field field.name ((renames.lookup field.name).getD field.name) field.type location =
        task :=
  List.mem_map

theorem mem_memberTasks {members : List (String × TypeRef)} :
    task ∈ memberTasks location members ↔ ∃ tag type, (tag, type) ∈ members ∧
      .value type (below location tag) = task :=
  List.mem_map.trans Prod.exists

theorem mem_instanceTasks {instanceOf : Option String} :
    task ∈ schema.instanceTasks (.resource · location) instanceOf ↔ ∃ id, instanceOf = some id ∧
      NotEmpty id ∧ (schema.resource? id).isSome ∧ .resource id location = task := by
  simp only [Schema.mem_instanceTasks, given?_eq_some, and_assoc, eq_comm (a := task)]

/-- What a type holds is dealt with by the tasks that it leads to. -/
theorem holds_typeTasks (held : type.Holds name mapped) :
    ∃ task ∈ typeTasks schema location type, task.Holds name mapped := by
  cases held with
  | item constraints inside => exact ⟨_, List.mem_singleton.mpr rfl, inside⟩
  | member title listed inside => exact ⟨_, mem_memberTasks.mpr ⟨_, _, listed, rfl⟩, inside⟩
  | field container instanceOf renames listed =>
    exact ⟨_, List.mem_append_right _ (mem_fieldTasks.mpr ⟨_, listed, rfl⟩), .inl ⟨rfl, rfl⟩⟩
  | inField container instanceOf renames listed inside =>
    exact ⟨_, List.mem_append_right _ (mem_fieldTasks.mpr ⟨_, listed, rfl⟩), .inr inside⟩

/-- The resources that a type mentions are come to by the tasks that it leads to. -/
theorem mentions_typeTasks (mentioned : type.Mentions NotEmpty id)
    (existing : (schema.resource? id).isSome) :
    ∃ task ∈ typeTasks schema location type, task.Mentions id := by
  cases mentioned with
  | reference => exact ⟨_, List.mem_singleton.mpr rfl, rfl⟩
  | item constraints inside => exact ⟨_, List.mem_singleton.mpr rfl, inside⟩
  | member title listed inside => exact ⟨_, mem_memberTasks.mpr ⟨_, _, listed, rfl⟩, inside⟩
  | field container instanceOf renames listed inside =>
    exact ⟨_, List.mem_append_right _ (mem_fieldTasks.mpr ⟨_, listed, rfl⟩), inside⟩
  | instanceOf container fields renames known =>
    exact ⟨_, List.mem_append_left _ (mem_instanceTasks.mpr ⟨_, rfl, known, existing, rfl⟩), rfl⟩

/-- The tasks that a type leads to stand for nothing that the type does not nest. -/
theorem nests_of_mem_typeTasks (listed : task ∈ typeTasks schema location type)
    (nested : task.Nests schema name mapped) : type.Nests schema NotEmpty name mapped := by
  cases type with
  | primitive | enum | unknown => exact absurd listed List.not_mem_nil
  | array item constraints =>
    rw [List.mem_singleton.mp listed] at nested
    exact nested.of_part (.item constraints) (.item constraints)
  | union members title =>
    obtain ⟨tag, type, member, rfl⟩ := mem_memberTasks.mp listed
    exact TypeRef.Nests.of_part (.member title member) (.member title member) nested
  | struct container fields instanceOf renames =>
    rcases List.mem_append.mp listed with listed | listed
    · obtain ⟨id, rfl, known, -, rfl⟩ := mem_instanceTasks.mp listed
      refine TypeRef.Nests.of_part (fun held => by cases held) (fun mentioned => ?_) nested
      cases mentioned
      exact .instanceOf container fields renames known
    · obtain ⟨field, member, rfl⟩ := mem_fieldTasks.mp listed
      rcases nested with ⟨rfl, rfl⟩ | nested
      · exact .held (.field container instanceOf renames member)
      · exact nested.of_part (.inField container instanceOf renames member)
          (.field container instanceOf renames member)
  | resource id =>
    rw [List.mem_singleton.mp listed] at nested
    exact nested

/-- The tasks for a resource stand for nothing that references to it do not nest. -/
theorem nests_of_mem_resourceTasks {resource : Resource}
    (named : schema.resource? id = some resource)
    (listed : task ∈ resourceTasks resource location) (nested : task.Nests schema name mapped) :
    (TypeRef.resource id).Nests schema NotEmpty name mapped := by
  obtain ⟨field, member, rfl⟩ := mem_fieldTasks.mp listed
  rcases nested with ⟨rfl, rfl⟩ | nested
  · exact .ofResource (.reference id) named member
  · exact .inResource (.reference id) named member nested

/-! ## What a step does -/

/-- Whether a field has been reported. -/
def Reported (place : ActionPlace) (state : State) (name mapped : String) : Prop :=
  ∃ location, .invalidNestedName place location name mapped ∈ state.faults

/-- Whether a field has been reported or is left to do. -/
def Accounted (place : ActionPlace) (state : State) (tasks : List Task) (name mapped : String) :
    Prop :=
  Reported place state name mapped ∨ ∃ task ∈ tasks, task.Holds name mapped

/-- Whether a resource is marked or left to do. -/
def Entered (state : State) (tasks : List Task) (id : String) : Prop :=
  id ∈ state.visited ∨ ∃ task ∈ tasks, task.Mentions id

/-- What may become of a resource in a step: it has been marked before, or it is marked now, and if
there is one then its fields are left to do. -/
theorem step_resource_cases (schema : Schema) (place : ActionPlace) (state : State)
    (id location : String) :
    (id ∈ state.visited ∧ step schema place state (.resource id location) = (state, [])) ∨
    (schema.resource? id = none ∧ step schema place state (.resource id location) =
      ({ state with visited := state.visited ++ [id] }, [])) ∨
    ∃ resource, schema.resource? id = some resource ∧
      step schema place state (.resource id location) =
        ({ state with visited := state.visited ++ [id] }, resourceTasks resource location) := by
  simp only [step]
  split
  · next marked => exact .inl ⟨List.contains_iff_mem.mp marked, rfl⟩
  · split
    · next unnamed => exact .inr (.inl ⟨unnamed, rfl⟩)
    · next resource named => exact .inr (.inr ⟨resource, named, rfl⟩)

/-- What is marked stays marked. -/
theorem visited_subset_step (schema : Schema) (place : ActionPlace) (state : State) (task : Task) :
    state.visited ⊆ (step schema place state task).1.visited := by
  cases task with
  | value | field => exact List.Subset.refl _
  | resource id location =>
    obtain ⟨-, same⟩ | ⟨-, same⟩ | ⟨_, -, same⟩ :=
      step_resource_cases schema place state id location <;> rw [same]
    · exact List.Subset.refl _
    · exact List.subset_append_left _ _
    · exact List.subset_append_left _ _

/-- A step marks the resource that its task comes to. -/
theorem mem_visited_step_resource (schema : Schema) (place : ActionPlace) (state : State)
    (id location : String) : id ∈ (step schema place state (.resource id location)).1.visited := by
  obtain ⟨marked, same⟩ | ⟨-, same⟩ | ⟨_, -, same⟩ :=
    step_resource_cases schema place state id location <;> rw [same]
  · exact marked
  · exact List.mem_append_right _ (List.mem_singleton.mpr rfl)
  · exact List.mem_append_right _ (List.mem_singleton.mpr rfl)

/-- Where a step marks a resource, the fields of that resource are left to do. -/
theorem mem_visited_step (marked : id ∈ (step schema place state task).1.visited) :
    id ∈ state.visited ∨ ∀ resource, schema.resource? id = some resource →
      ∃ location, (step schema place state task).2 = resourceTasks resource location := by
  cases task with
  | value | field => exact .inl marked
  | resource other location =>
    obtain ⟨-, same⟩ | ⟨unnamed, same⟩ | ⟨resource, named, same⟩ :=
      step_resource_cases schema place state other location <;> rw [same] at marked ⊢
    · exact .inl marked
    · refine (List.mem_append.mp marked).imp_right fun here resource named => ?_
      rw [List.mem_singleton.mp here, unnamed] at named
      cases named
    · refine (List.mem_append.mp marked).imp_right fun here found also => ?_
      rw [List.mem_singleton.mp here, named] at also
      exact ⟨location, by rw [Option.some.inj also]⟩

/-- A fault that a step adds is about an illegal name that its task stands for. -/
theorem mem_faults_step {fault : Fault} (h : fault ∈ (step schema place state task).1.faults) :
    fault ∈ state.faults ∨ ∃ location name mapped,
      fault = .invalidNestedName place location name mapped ∧ ¬ Naming.isLegal mapped ∧
        task.Nests schema name mapped := by
  cases task with
  | value => exact .inl h
  | field name mapped type location =>
    refine (List.mem_append.mp h).imp_right fun added => ?_
    unfold nameFaults at added
    split at added
    · exact absurd added List.not_mem_nil
    · next illegal =>
      exact ⟨location, name, mapped, List.mem_singleton.mp added, illegal, .inl ⟨rfl, rfl⟩⟩
  | resource id location =>
    obtain ⟨-, same⟩ | ⟨-, same⟩ | ⟨_, -, same⟩ :=
      step_resource_cases schema place state id location <;> rw [same] at h <;> exact .inl h

/-- What a task leads to stands for nothing that the task does not stand for. -/
theorem nests_of_mem_step {next : Task} (listed : next ∈ (step schema place state task).2)
    (nested : next.Nests schema name mapped) : task.Nests schema name mapped := by
  cases task with
  | value type location => exact nests_of_mem_typeTasks listed nested
  | field own renamed type location =>
    rw [List.mem_singleton.mp listed] at nested
    exact .inr nested
  | resource id location =>
    obtain ⟨-, same⟩ | ⟨-, same⟩ | ⟨resource, named, same⟩ :=
      step_resource_cases schema place state id location <;> rw [same] at listed
    · exact absurd listed List.not_mem_nil
    · exact absurd listed List.not_mem_nil
    · exact nests_of_mem_resourceTasks named listed nested

/-- No fault is taken back. -/
theorem reported_step (h : Reported place state name mapped) :
    Reported place (step schema place state task).1 name mapped := by
  obtain ⟨location, listed⟩ := h
  refine ⟨location, ?_⟩
  cases task with
  | value => exact listed
  | field => exact List.mem_append_left _ listed
  | resource id other =>
    obtain ⟨-, same⟩ | ⟨-, same⟩ | ⟨_, -, same⟩ :=
      step_resource_cases schema place state id other <;> rw [same] <;> exact listed

/-- **No illegal name is lost**: what a task holds is reported, or left to do. -/
theorem accounted_step (illegal : ¬ Naming.isLegal mapped)
    (h : Accounted place state (task :: rest) name mapped) :
    Accounted place (step schema place state task).1 ((step schema place state task).2 ++ rest)
      name mapped := by
  rcases h with reported | ⟨other, listed, held⟩
  · exact .inl (reported_step reported)
  rcases List.mem_cons.mp listed with rfl | listed
  · cases other with
    | value type location =>
      obtain ⟨next, listed, held⟩ := holds_typeTasks held
      exact .inr ⟨next, List.mem_append_left _ listed, held⟩
    | field own renamed type location =>
      rcases held with ⟨rfl, rfl⟩ | held
      · exact .inl ⟨location, List.mem_append_right _ (by simp [nameFaults, illegal])⟩
      · exact .inr ⟨.value type (below location own), List.mem_cons_self .., held⟩
    | resource => exact held.elim
  · exact .inr ⟨other, List.mem_append_right _ listed, held⟩

/-- **No resource is lost**: what a task comes to is marked, or left to do. -/
theorem entered_step (existing : (schema.resource? id).isSome)
    (h : Entered state (task :: rest) id) :
    Entered (step schema place state task).1 ((step schema place state task).2 ++ rest) id := by
  rcases h with marked | ⟨other, listed, mentioned⟩
  · exact .inl (visited_subset_step schema place state task marked)
  rcases List.mem_cons.mp listed with rfl | listed
  · cases other with
    | value type location =>
      obtain ⟨next, listed, mentioned⟩ := mentions_typeTasks mentioned existing
      exact .inr ⟨next, List.mem_append_left _ listed, mentioned⟩
    | field own renamed type location =>
      exact .inr ⟨.value type (below location own), List.mem_cons_self .., mentioned⟩
    | resource other location =>
      obtain rfl : other = id := mentioned
      exact .inl (mem_visited_step_resource schema place state other location)
  · exact .inr ⟨other, List.mem_append_right _ listed, mentioned⟩

/-! ## Whole walks -/

/-- Whether the illegal names that a task holds and the resources that it comes to have been dealt
with, or are left to do. -/
def Covered (schema : Schema) (place : ActionPlace) (state : State) (tasks : List Task)
    (task : Task) : Prop :=
  (∀ name mapped, ¬ Naming.isLegal mapped → task.Holds name mapped →
    Accounted place state tasks name mapped) ∧
  ∀ id, (schema.resource? id).isSome → task.Mentions id → Entered state tasks id

/-- What is left to do is covered. -/
theorem covered_of_mem (listed : task ∈ tasks) : Covered schema place state tasks task :=
  ⟨fun _ _ _ held => .inr ⟨task, listed, held⟩,
    fun _ _ mentioned => .inr ⟨task, listed, mentioned⟩⟩

theorem covered_step {other : Task} (h : Covered schema place state (task :: rest) other) :
    Covered schema place (step schema place state task).1
      ((step schema place state task).2 ++ rest) other :=
  ⟨fun name mapped illegal held => accounted_step illegal (h.1 name mapped illegal held),
    fun id existing mentioned => entered_step existing (h.2 id existing mentioned)⟩

/-- What holds all along a walk that begins with some tasks. -/
structure Walking (schema : Schema) (place : ActionPlace) (starts : List Task) (state : State)
    (tasks : List Task) : Prop where
  begun : ∀ start ∈ starts, Covered schema place state tasks start
  /-- A resource may be met again before its fields are done; they are on the list then. -/
  marked : ∀ id ∈ state.visited, ∀ resource, schema.resource? id = some resource →
    ∃ location, ∀ task ∈ resourceTasks resource location, Covered schema place state tasks task
  grounded : ∀ task ∈ tasks, ∀ name mapped, task.Nests schema name mapped →
    ∃ start ∈ starts, start.Nests schema name mapped
  faithful : ∀ fault ∈ state.faults, ∃ location name mapped,
    fault = .invalidNestedName place location name mapped ∧ ¬ Naming.isLegal mapped ∧
      ∃ start ∈ starts, start.Nests schema name mapped

theorem walking_start (schema : Schema) (place : ActionPlace) (starts : List Task) :
    Walking schema place starts {} starts where
  begun _ listed := covered_of_mem listed
  marked _ marked := absurd marked List.not_mem_nil
  grounded start listed _ _ nested := ⟨start, listed, nested⟩
  faithful _ listed := absurd listed List.not_mem_nil

theorem walking_step {starts : List Task} (h : Walking schema place starts state (task :: rest)) :
    Walking schema place starts (step schema place state task).1
      ((step schema place state task).2 ++ rest) where
  begun start listed := covered_step (h.begun start listed)
  marked id marked resource named := by
    rcases mem_visited_step marked with before | new
    · obtain ⟨location, covered⟩ := h.marked id before resource named
      exact ⟨location, fun task listed => covered_step (covered task listed)⟩
    · obtain ⟨location, left⟩ := new resource named
      exact ⟨location, fun task listed =>
        covered_of_mem (List.mem_append_left _ (by rwa [left]))⟩
  grounded next listed name mapped nested := by
    rcases List.mem_append.mp listed with new | listed
    · exact h.grounded task (List.mem_cons_self ..) name mapped (nests_of_mem_step new nested)
    · exact h.grounded next (List.mem_cons_of_mem _ listed) name mapped nested
  faithful fault listed := by
    rcases mem_faults_step listed with before | ⟨location, name, mapped, same, illegal, nested⟩
    · exact h.faithful fault before
    · exact ⟨location, name, mapped, same, illegal,
        h.grounded task (List.mem_cons_self ..) name mapped nested⟩

theorem walking_run (schema : Schema) (place : ActionPlace) (starts : List Task) :
    Walking schema place starts ((walk schema place).run {} starts) [] :=
  Worklist.run_induction (fun _ _ _ => walking_step) (walking_start schema place starts)

/-- In the end an illegal name that a covered type nests has been reported. -/
theorem reported_of_nests {starts : List Task} (h : Walking schema place starts state [])
    (nested : type.Nests schema NotEmpty name mapped) (illegal : ¬ Naming.isLegal mapped)
    (covered : Covered schema place state [] (.value type location)) :
    Reported place state name mapped := by
  -- the resource that a covered type mentions is marked, so its fields are covered
  have fields {type : TypeRef} {id location : String} {resource : Resource} {field : FieldSpec}
      (covered : Covered schema place state [] (.value type location))
      (mentioned : type.Mentions NotEmpty id) (named : schema.resource? id = some resource)
      (listed : field ∈ nestedFields resource) :
      ∃ location, Covered schema place state [] (.field field.name
        ((resource.fieldNames.lookup field.name).getD field.name) field.type location) := by
    have marked : id ∈ state.visited := by
      simpa [Entered] using covered.2 id (by simp [named]) mentioned
    obtain ⟨location, each⟩ := h.marked id marked resource named
    exact ⟨_, each _ (mem_fieldTasks.mpr ⟨field, listed, rfl⟩)⟩
  induction nested generalizing location with
  | held inside => simpa [Accounted] using covered.1 _ _ illegal inside
  | ofResource mentioned named listed =>
    obtain ⟨location, here⟩ := fields covered mentioned named listed
    simpa [Accounted] using here.1 _ _ illegal (.inl ⟨rfl, rfl⟩)
  | inResource mentioned named listed inside ih =>
    obtain ⟨location, here⟩ := fields covered mentioned named listed
    have type_covered : Covered schema place state [] (.value _ location) :=
      ⟨fun _ _ illegal held => here.1 _ _ illegal (.inr held), here.2⟩
    exact ih illegal type_covered

/-! ## The types of an action -/

theorem walks_of_mem_startTasks {action : Action} (listed : task ∈ startTasks action) :
    ∃ type location, task = .value type location ∧ action.Walks type := by
  rw [startTasks, List.mem_append, List.mem_append, List.mem_map, List.mem_map] at listed
  rcases listed with (⟨argument, shown, rfl⟩ | listed) | ⟨field, listed, rfl⟩
  · exact ⟨_, _, rfl, .argument argument shown⟩
  · split at listed
    · next type generic returned =>
      exact ⟨type, _, List.mem_singleton.mp listed, .result type generic returned⟩
    · exact absurd listed List.not_mem_nil
  · exact ⟨_, _, rfl, .metadata field listed⟩

theorem exists_mem_startTasks {action : Action} (walked : action.Walks type) :
    ∃ location, .value type location ∈ startTasks action := by
  simp only [startTasks, List.mem_append, List.mem_map]
  cases walked with
  | argument argument shown => exact ⟨_, .inl (.inl ⟨argument, shown, rfl⟩)⟩
  | result type generic returned =>
    exact ⟨"return type", .inl (.inr (by simp [generic, returned]))⟩
  | metadata field listed => exact ⟨_, .inr ⟨field, listed, rfl⟩⟩

/-- The tasks that a walk begins with stand for what the types of the action nest. -/
theorem exists_start_nests_iff {action : Action} :
    (∃ start ∈ startTasks action, start.Nests schema name mapped) ↔
      action.Nests schema NotEmpty name mapped := by
  constructor
  · rintro ⟨start, listed, nested⟩
    obtain ⟨type, location, rfl, walked⟩ := walks_of_mem_startTasks listed
    exact ⟨type, walked, nested⟩
  · rintro ⟨type, walked, nested⟩
    obtain ⟨location, listed⟩ := exists_mem_startTasks walked
    exact ⟨_, listed, nested⟩

end NestedNames

/-- **A name is reported exactly when it is illegal and nested in the types of the action.** -/
theorem reported_iff_nests {schema : Schema} (place : ActionPlace) {action : Action}
    {name mapped : String} :
    (∃ location, .invalidNestedName place location name mapped ∈
        nestedNameFaults schema place action) ↔
      ¬ Naming.isLegal mapped ∧ action.Nests schema NotEmpty name mapped := by
  have walked := NestedNames.walking_run schema place (NestedNames.startTasks action)
  constructor
  · rintro ⟨location, listed⟩
    obtain ⟨_, _, _, same, illegal, nested⟩ := walked.faithful _ listed
    cases same
    exact ⟨illegal, NestedNames.exists_start_nests_iff.mp nested⟩
  · rintro ⟨illegal, type, walks, nested⟩
    obtain ⟨location, listed⟩ := NestedNames.exists_mem_startTasks walks
    exact NestedNames.reported_of_nests walked nested illegal (walked.begun _ listed)

/-- **The walk through the types of an action ends, and misses nothing.**  Whatever the schema, no
order of carrying out tasks goes on forever, and the faults are those at the end.  There are none
exactly when every name that the types nest is legal, and a name is reported exactly when it is
illegal and nested there. -/
theorem nestedNames_reported (schema : Schema) (place : ActionPlace) (action : Action) :
    (WellFounded (Worklist.Next (NestedNames.step schema place)) ∧
      ∃ last : NestedNames.State, last.faults = nestedNameFaults schema place action ∧
        Relation.ReflTransGen
          (fun before after => Worklist.Next (NestedNames.step schema place) after before)
          ({}, NestedNames.startTasks action) (last, [])) ∧
    (nestedNameFaults schema place action = [] ↔
      ∀ name mapped, action.Nests schema NotEmpty name mapped → Naming.isLegal mapped) ∧
    ∀ name mapped,
      (∃ location, .invalidNestedName place location name mapped ∈
          nestedNameFaults schema place action) ↔
        ¬ Naming.isLegal mapped ∧ action.Nests schema NotEmpty name mapped := by
  refine ⟨⟨(NestedNames.walk schema place).next_wellFounded, _, rfl,
    (NestedNames.walk schema place).next_run ..⟩, ?_, fun name mapped => reported_iff_nests place⟩
  constructor
  · intro silent name mapped nested
    by_contra illegal
    obtain ⟨location, listed⟩ := (reported_iff_nests place).mpr ⟨illegal, nested⟩
    rw [silent] at listed
    exact absurd listed List.not_mem_nil
  · intro legal
    refine List.eq_nil_iff_forall_not_mem.mpr fun fault listed => ?_
    obtain ⟨_, name, mapped, -, illegal, nested⟩ :=
      (NestedNames.walking_run schema place (NestedNames.startTasks action)).faithful fault listed
    exact illegal (legal name mapped (NestedNames.exists_start_nests_iff.mp nested))

/-- An action with an argument that is an instance of the empty id, which a resource has. -/
def blankArgumentAction : Action where
  name := "run"
  kind := .generic
  arguments := [{ name := "a", type := .struct .map [] (some "") [] }]

/-- The resource with the empty id has an attribute with an illegal name. -/
def blankResource : Resource where
  id := ""
  typeName := some "Blank"
  attributes := [{ name := "bad?", type := .primitive .string {} }]

/-- A schema with that action and that resource. -/
def blankArgumentSchema : Schema where
  resources := [{ id := "Todo", actions := [blankArgumentAction] }, blankResource]

/-- The empty id is not followed where an argument says what it is an instance of. -/
theorem empty_instance_not_walked :
    ¬ ∀ (schema : Schema) (place : ActionPlace) (action : Action),
      nestedNameFaults schema place action = [] ↔
        ∀ name mapped, action.Nests schema (fun _ => True) name mapped →
          Naming.isLegal mapped := by
  intro claimed
  have silent :
      nestedNameFaults blankArgumentSchema ⟨"Todo", "run_todo"⟩ blankArgumentAction = [] := by
    cbv
  have listed : { name := "bad?", type := .primitive .string {} } ∈
      NestedNames.nestedFields blankResource := List.mem_singleton.mpr rfl
  have walked : blankArgumentAction.Walks (.struct .map [] (some "") []) :=
    .argument { name := "a", type := .struct .map [] (some "") [] } (List.mem_singleton.mpr rfl)
  have named : blankArgumentSchema.resource? "" = some blankResource := rfl
  have nested : blankArgumentAction.Nests blankArgumentSchema (fun _ => True) "bad?" "bad?" :=
    ⟨_, walked, .ofResource (.instanceOf _ _ _ trivial) named listed⟩
  exact absurd ((claimed _ _ _).mp silent "bad?" "bad?" nested) (by decide)

end TypedRpc
