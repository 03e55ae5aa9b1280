import TypedRpc.Proofs.Client.LegalNames
import TypedRpc.Proofs.Client.WireNames

/-!
# Names of input fields in the code

The record of a resource looks the name of a field up among the renames of the resource.  An input
does not: attributes and arguments come together there, so each input has a table of its own, and
only fields whose names change are entered.  A field that the document renames to the name that it
has already is thereby lost, and an input calls it by its name in camelCase.

* `lookup_inputRenames`: what the table of an input says about a name that all its fields agree on.
* `kotlinNameOf_filter_iff`: when leaving such renames out makes no difference.
* `calledAlike_iff`: when a record and an input call an attribute alike; `dueDate_called_otherwise`
  shows one that they do not.
-/

namespace TypedRpc

open Target (DataClass)

/-! ## The renames of an input -/

/-- The name that is set is found, and all other names stay. -/
theorem lookup_setRename (names : Renames) (source target name : String) :
    (setRename names source target).lookup name =
      if source = name then some target else names.lookup name := by
  induction names with
  | nil => rw [setRename, lookup_cons_eq_ite, List.lookup_nil]
  | cons first rest ih =>
    obtain ⟨key, old⟩ := first
    rw [setRename]
    split
    case isTrue here =>
      subst here
      rw [lookup_cons_eq_ite, lookup_cons_eq_ite]
      split_ifs <;> rfl
    case isFalse there =>
      rw [lookup_cons_eq_ite, lookup_cons_eq_ite, ih]
      split_ifs with atKey atSource
      · exact absurd (atKey.trans atSource.symm) there
      all_goals rfl

/-- What an input keeps of a rename: it has to change the name. -/
def changing (name : String) (rename : Option String) : Option String :=
  rename.filter (· ≠ name)

theorem changing_eq_ite (name : String) (rename : Option String) :
    changing name rename =
      if rename.getD name = name then none else some (rename.getD name) := by
  cases rename with
  | none => simp [changing]
  | some target => by_cases kept : target = name <;> simp [changing, Option.filter, kept]

/-- **Leaving out a rename that changes nothing makes a difference for names that camelCase
changes.** -/
theorem kotlinNameOf_changing_iff {name : String} {rename : Option String} :
    kotlinNameOf name (changing name rename) = kotlinNameOf name rename ↔
      (rename = some name → Naming.camelCase name = name) := by
  cases rename with
  | none => simp [changing]
  | some target =>
    rw [changing_eq_ite, Option.getD_some, Option.some_inj]
    by_cases kept : target = name
    · subst kept
      rw [if_pos rfl]
      by_cases empty : target = ""
      · subst empty
        exact iff_of_true rfl fun _ => by decide
      · rw [kotlinNameOf_some empty, kotlinNameOf_of_not_given (by simp [given?])]
        exact ⟨fun same _ => same, fun same => same rfl⟩
    · rw [if_neg kept]
      exact iff_of_true rfl fun same => absurd same kept

section Renames

variable {resource : Resource} {action : Action}

/-- What the document calls a field of an input, if it gives it a name. -/
def inputRename? (resource : Resource) (action : Action) : InputField → Option String
  | .stored field => resource.fieldRename? field.name
  | .argument field => ((resource.argumentNames.lookup action.name).getD []).lookup field.name

theorem mappedInputName_eq_getD (resource : Resource) (action : Action) (field : InputField) :
    mappedInputName resource action field =
      (inputRename? resource action field).getD field.spec.name := by
  cases field <;> rfl

/-- What the last field of an input adds to the renames. -/
theorem lookup_inputRenames_concat (fields : List InputField) (field : InputField) (name : String) :
    (inputRenames resource action (fields ++ [field])).lookup name =
      if field.spec.name = name ∧ mappedInputName resource action field ≠ field.spec.name then
        some (mappedInputName resource action field)
      else (inputRenames resource action fields).lookup name := by
  have step : inputRenames resource action (fields ++ [field]) =
      if mappedInputName resource action field = field.spec.name then
        inputRenames resource action fields
      else
        setRename (inputRenames resource action fields) field.spec.name
          (mappedInputName resource action field) := by
    rw [inputRenames, List.foldl_concat]
    rfl
  rw [step]
  split_ifs with kept entered entered
  · exact absurd kept entered.2
  · rfl
  · rw [lookup_setRename, if_pos entered.1]
  · rw [lookup_setRename, if_neg fun here => entered ⟨here, kept⟩]

/-- **The renames of an input say about a name what its fields say**, where they all say the same
about it, unless they say that it stays. -/
theorem lookup_inputRenames {fields : List InputField} {name mapped : String}
    (agreed : ∀ field ∈ fields, field.spec.name = name →
      mappedInputName resource action field = mapped) :
    (inputRenames resource action fields).lookup name =
      if (∃ field ∈ fields, field.spec.name = name) ∧ mapped ≠ name then some mapped else none := by
  induction fields using List.reverseRecOn with
  | nil => simp [inputRenames]
  | append_singleton fields field ih =>
    rw [lookup_inputRenames_concat,
      ih fun other listed => agreed other (List.mem_append_left _ listed)]
    have last := agreed field (List.mem_append_right _ List.mem_cons_self)
    by_cases here : field.spec.name = name
    · rw [last here, here]
      by_cases kept : mapped = name <;> simp [kept, here]
    · simp [here]

/-- An input looks up what the document calls a field, if that changes its name and all fields of
that name agree. -/
theorem lookup_inputNames {rpcAction : RpcAction} {field : InputField}
    (listed : field ∈ inputFieldsOf resource action)
    (agreed : ∀ other ∈ inputFieldsOf resource action, other.spec.name = field.spec.name →
      mappedInputName resource action other = mappedInputName resource action field) :
    (ActionShape.of resource action rpcAction).inputNames.lookup field.spec.name =
      changing field.spec.name (inputRename? resource action field) := by
  have found := lookup_inputRenames agreed
  have among : ∃ other ∈ inputFieldsOf resource action, other.spec.name = field.spec.name :=
    ⟨field, listed, rfl⟩
  rw [changing_eq_ite, ← mappedInputName_eq_getD, ← ite_not]
  simp only [among, true_and] at found
  exact found

/-- **An input looks an accepted attribute up among the renames of the resource that change a
name**, unless an argument has its name as well. -/
theorem lookup_inputNames_of_accepted {rpcAction : RpcAction} {stored : Attribute}
    (accepted : stored ∈ acceptedAttributes resource action)
    (alone : ∀ argument ∈ action.publicArguments, argument.name ≠ stored.name) :
    (ActionShape.of resource action rpcAction).inputNames.lookup stored.name =
      changing stored.name (resource.fieldRename? stored.name) := by
  have listed : InputField.stored stored ∈ inputFieldsOf resource action :=
    List.mem_append_left _ (List.mem_map_of_mem accepted)
  refine lookup_inputNames listed ?_
  intro field taken same
  rcases List.mem_append.mp taken with isStored | isArgument
  · obtain ⟨other, -, rfl⟩ := List.mem_map.mp isStored
    exact congrArg resource.mappedFieldName same
  · obtain ⟨argument, shown, rfl⟩ := List.mem_map.mp isArgument
    exact absurd same (alone argument shown)

end Renames

/-! ## Records and inputs -/

/-- Whether the record of a resource and an input of one of its actions call an attribute alike,
wherever it stands among the attributes of each: by the name that the document gives to it, unless
that is empty, and otherwise by its own name in camelCase. -/
structure CalledAlike (typing : Typing) (resource : Resource) (action : Action)
    (declared : DataClass) (stored : Attribute) : Prop where
  shown : stored ∈ resource.publicAttributes
  inRecord : ∀ place : Nat, resource.publicAttributes[place]? = some stored →
    (typing.record resource).kotlinNames[place]? =
      some (kotlinNameOf stored.name (resource.fieldRename? stored.name))
  inInput : ∀ place : Nat, (acceptedAttributes resource action)[place]? = some stored →
    declared.kotlinNames[place]? =
      some (kotlinNameOf stored.name (resource.fieldRename? stored.name))

section Naming

variable {typing : Typing} {resource : Resource} {action : Action} {rpcAction : RpcAction}
  {declared : DataClass} {stored : Attribute} {place : Nat}

theorem mem_attributes_of_accepted (accepted : stored ∈ acceptedAttributes resource action) :
    stored ∈ resource.attributes := by
  unfold acceptedAttributes at accepted
  split_ifs at accepted
  case pos =>
    obtain ⟨name, -, found⟩ := List.mem_filterMap.mp accepted
    exact List.mem_of_find?_eq_some found
  case neg => exact absurd accepted List.not_mem_nil

/-- What a record calls an attribute. -/
theorem recordName_eq (shown : resource.publicAttributes[place]? = some stored) :
    (typing.record resource).kotlinNames[place]? =
      some (kotlinNameOf stored.name (resource.fieldRename? stored.name)) := by
  rw [Typing.kotlinNames_record_eq, recordSources, List.map_append, List.map_map]
  refine List.getElem?_append_left ?_ |>.trans ?_
  · rw [List.length_map]
    exact List.getElem?_eq_some_iff.mp shown |>.1
  · rw [List.getElem?_map, shown]
    rfl

/-- What an input calls an accepted attribute. -/
theorem inputName_eq
    (rendered : (typing.inputClass? (.of resource action rpcAction)).result = .ok (some declared))
    (accepted : (acceptedAttributes resource action)[place]? = some stored)
    (alone : ∀ argument ∈ action.publicArguments, argument.name ≠ stored.name) :
    declared.kotlinNames[place]? =
      some (kotlinNameOf stored.name
        (changing stored.name (resource.fieldRename? stored.name))) := by
  have taken : (inputSources (.of resource action rpcAction))[place]? = some stored.name := by
    have first : (inputFieldsOf resource action)[place]? = some (.stored stored) := by
      have inside : place < (acceptedAttributes resource action).length :=
        (List.getElem?_eq_some_iff.mp accepted).1
      rw [inputFieldsOf, List.getElem?_append_left (by rwa [List.length_map]), List.getElem?_map,
        accepted, Option.map_some]
    exact (List.getElem?_map ..).trans (congrArg (Option.map fun field => field.spec.name) first)
  rw [Typing.kotlinNames_input_eq rendered, List.getElem?_map, taken, Option.map_some,
    lookup_inputNames_of_accepted (List.mem_of_getElem? accepted) alone]

/-- **A record and an input call an attribute alike, unless the document renames it to its own
name**, and that is not its name in camelCase. -/
theorem calledAlike_iff
    (rendered : (typing.inputClass? (.of resource action rpcAction)).result = .ok (some declared))
    (accepted : stored ∈ acceptedAttributes resource action)
    (isPublic : stored.isPublic)
    (alone : ∀ argument ∈ action.publicArguments, argument.name ≠ stored.name) :
    CalledAlike typing resource action declared stored ↔
      (resource.fieldRename? stored.name = some stored.name →
        Naming.camelCase stored.name = stored.name) := by
  rw [← kotlinNameOf_changing_iff]
  constructor
  · rintro ⟨-, -, inInput⟩
    obtain ⟨place, here⟩ := List.mem_iff_getElem?.mp accepted
    have called := inInput place here
    rw [inputName_eq rendered here alone] at called
    exact Option.some_inj.mp called
  · intro same
    have known := mem_attributes_of_accepted accepted
    refine ⟨List.mem_filter.mpr ⟨known, isPublic⟩, fun place shown => recordName_eq shown, ?_⟩
    intro place here
    rw [inputName_eq rendered here alone, same]

end Naming

/-- Making a to-do with a title and a date. -/
def makeTodo : Action where
  name := "create"
  kind := .create
  accept := ["title", "due_date"]

/-- To-dos whose date is called a deadline. -/
def deadlineTodo : Resource where
  id := "Todo"
  attributes := [
    { name := "id", type := .primitive .uuid {}, isPrimaryKey := true },
    { name := "title", type := .primitive .string {} },
    { name := "due_date", type := .primitive .date {} }]
  actions := [makeTodo]
  fieldNames := [("due_date", "deadline")]

/-- The deadline of a to-do is one in its record and where it is made. -/
theorem deadline_called_alike :
    ∃ declared dueDate,
      ((Typing.ofSchema { resources := [deadlineTodo] } {}).inputClass?
        (.of deadlineTodo makeTodo { name := "create_todo", action := "create" })).result =
          .ok (some declared) ∧
      declared.kotlinNames = ["title", "deadline"] ∧
      deadlineTodo.attribute? "due_date" = some dueDate ∧
      CalledAlike (.ofSchema { resources := [deadlineTodo] } {}) deadlineTodo makeTodo declared
        dueDate := by
  have accepted : acceptedAttributes deadlineTodo makeTodo = [
      { name := "title", type := .primitive .string {} },
      { name := "due_date", type := .primitive .date {} }] := rfl
  refine ⟨_, _, rfl, by decide, rfl, ?_⟩
  have rendered : ((Typing.ofSchema { resources := [deadlineTodo] } {}).inputClass?
      (.of deadlineTodo makeTodo { name := "create_todo", action := "create" })).result =
        .ok (some _) := rfl
  refine (calledAlike_iff rendered ?_ rfl ?_).mpr ?_
  · rw [accepted]
    exact List.mem_cons_of_mem _ List.mem_cons_self
  · exact fun argument listed => absurd listed List.not_mem_nil
  · decide

/-- To-dos whose date is to be called in the code what it is called in the schema. -/
def dueTodo : Resource :=
  { deadlineTodo with fieldNames := [("due_date", "due_date")] }

/-- To-dos with such a date that clients may make. -/
def dueTodoSchema : Schema where
  resources := [dueTodo]
  domains := [{
    name := "Main"
    rpc := [{ resource := "Todo", actions := [{ name := "create_todo", action := "create" }] }] }]

/-- **A field that is renamed to its own name keeps it in a record, but not in an input**, and
nothing is found about it. -/
theorem dueDate_called_otherwise :
    (∃ plan, Plan.make dueTodoSchema {} = .ok plan ∧ plan.verification.faults = [] ∧
      ⟨dueTodo, makeTodo, { name := "create_todo", action := "create" }⟩ ∈ plan.exposed) ∧
      ((Typing.ofSchema dueTodoSchema {}).record dueTodo).kotlinNames =
        ["id", "title", "due_date"] ∧
      (∃ declared, ((Typing.ofSchema dueTodoSchema {}).inputClass?
        (.of dueTodo makeTodo { name := "create_todo", action := "create" })).result =
          .ok (some declared) ∧ declared.kotlinNames = ["title", "dueDate"]) ∧
      ¬∀ (typing : Typing) (resource : Resource) (action : Action) (rpcAction : RpcAction)
        (declared : DataClass) (stored : Attribute),
        (typing.inputClass? (.of resource action rpcAction)).result = .ok (some declared) →
          stored ∈ acceptedAttributes resource action → stored.isPublic →
            (∀ argument ∈ action.publicArguments, argument.name ≠ stored.name) →
              CalledAlike typing resource action declared stored := by
  have evaluated : (Plan.make dueTodoSchema {}).toOption.map
      (·.verification.faults) = some [] := by
    cbv
  obtain ⟨plan, made, clean⟩ := Plan.exists_of_evaluated evaluated
  have listed : ⟨dueTodo, makeTodo, { name := "create_todo", action := "create" }⟩ ∈
      plan.exposed := by
    rw [Plan.exposed_eq made]
    exact List.mem_singleton.mpr rfl
  refine ⟨⟨plan, made, clean, listed⟩, by decide, ⟨_, rfl, by decide⟩, ?_⟩
  intro claimed
  have dueDate : { name := "due_date", type := .primitive .date {} } ∈
      acceptedAttributes dueTodo makeTodo :=
    List.mem_cons_of_mem _ List.mem_cons_self
  have alike := claimed (.ofSchema dueTodoSchema {}) dueTodo makeTodo
    { name := "create_todo", action := "create" } _ _ rfl dueDate rfl
    (fun argument listed => absurd listed List.not_mem_nil)
  have called := alike.inInput 1 rfl
  revert called
  decide

end TypedRpc
