import TypedRpc.Client.Payload
import TypedRpc.Proofs.Client.Plan

/-!
# Records can be found

An entry may list the identities that an action finds its record by, may list none, or may say
nothing, which stands for the primary key.  The check and the shape read that list apart from each
other, and the type of the identity is chosen at a third place.  They agree, since the check goes
through exactly the identities of the shape.  So where it finds nothing, the resource has whatever
the shape asks for.

* `Resource.Supplies`: what a resource has for the name of an identity.
* `identities_of_findsRecord`: the identities of a shape are those that the check goes through.
* `exposedIdentityFaults_eq_nil_iff`: what the check decides for one action.
* `identityType_of_onlyKey`, `identityType_of_keys`: the type of the primary key.
* `Plan.identities_supplied`: the identities of the exposed actions in a plan without faults.
-/

namespace TypedRpc

open Target (ConfigField TypeExpr openMap)

/-- A resource has something for the name of an identity: a primary key for the word that stands for
it, and an identity of that name for any other. -/
inductive Resource.Supplies (resource : Resource) : String → Prop where
  | primaryKey (keyed : resource.primaryKey ≠ []) : resource.Supplies primaryKeyIdentity
  | declared {identity : Identity} (listed : identity ∈ resource.identities)
      (other : identity.name ≠ primaryKeyIdentity) : resource.Supplies identity.name

theorem Resource.supplies_primaryKey_iff {resource : Resource} :
    resource.Supplies primaryKeyIdentity ↔ resource.primaryKey ≠ [] := by
  constructor
  · intro supplied
    -- the word that stands for the primary key is not the name of a declared identity
    generalize name_eq : primaryKeyIdentity = name at supplied
    cases supplied with
    | primaryKey keyed => exact keyed
    | declared listed other => exact absurd name_eq.symm other
  · exact .primaryKey

theorem Resource.supplies_iff_of_ne {resource : Resource} {name : String}
    (other : name ≠ primaryKeyIdentity) :
    resource.Supplies name ↔ (resource.identity? name).isSome := by
  rw [identity?, List.find?_isSome]
  constructor
  · intro supplied
    cases supplied with
    | primaryKey keyed => exact absurd rfl other
    | declared listed _ => exact ⟨_, listed, beq_self_eq_true _⟩
  · rintro ⟨identity, listed, same⟩
    obtain rfl := beq_iff_eq.mp same
    exact .declared listed other

/-! ## What the check goes through -/

/-- Nothing is found about an identity exactly when the resource has something for it. -/
theorem identityFault?_eq_none_iff {exposed : ExposedAction} {name : String} :
    identityFault? exposed name = none ↔ exposed.resource.Supplies name := by
  unfold identityFault?
  by_cases word : name = primaryKeyIdentity
  · rw [word, Resource.supplies_primaryKey_iff, if_pos rfl]
    cases exposed.resource.primaryKey <;> simp
  · rw [if_neg word, Resource.supplies_iff_of_ne word]
    cases exposed.resource.identity? name <;> simp

theorem ActionKind.findsRecord_iff {kind : ActionKind} :
    kind.findsRecord ↔ kind = .update ∨ kind = .destroy := by
  cases kind <;> decide

theorem identityRequirementOf_of_not_findsRecord {action : Action} {rpcAction : RpcAction}
    (other : ¬ action.kind.findsRecord) : identityRequirementOf action rpcAction = .none :=
  if_neg other

/-- **The identities of a shape are those that the entry lists**, and the primary key where it says
nothing. -/
theorem identities_of_findsRecord {action : Action} {rpcAction : RpcAction}
    (finds : action.kind.findsRecord) :
    (identityRequirementOf action rpcAction).identities =
      rpcAction.identities.getD [primaryKeyIdentity] := by
  unfold identityRequirementOf
  rw [if_pos finds]
  match rpcAction.identities with
  | none => rfl
  | some [] => rfl
  | some (first :: others) =>
    dsimp only
    split
    · next word => rw [word]; rfl
    · rfl

/-- **The check of an exposed action goes through the identities of its shape.** -/
theorem exposedIdentityFaults_eq (exposed : ExposedAction) :
    exposedIdentityFaults exposed =
      exposed.shape.identity.identities.filterMap (identityFault? exposed) := by
  have shape : exposed.shape.identity =
      identityRequirementOf exposed.action exposed.rpcAction := rfl
  unfold exposedIdentityFaults
  rw [shape]
  by_cases finds : exposed.action.kind.findsRecord
  · rw [if_pos finds, identities_of_findsRecord finds]
  · rw [if_neg finds, identityRequirementOf_of_not_findsRecord finds]
    rfl

/-- Nothing is found about how an action finds its record exactly when the resource has whatever
its shape asks for. -/
theorem exposedIdentityFaults_eq_nil_iff {exposed : ExposedAction} :
    exposedIdentityFaults exposed = [] ↔
      ∀ name ∈ exposed.shape.identity.identities, exposed.resource.Supplies name := by
  rw [exposedIdentityFaults_eq, List.filterMap_eq_nil_iff]
  exact forall₂_congr fun _ _ => identityFault?_eq_none_iff

/-! ## Kinds of requirements -/

/-- **A record is found by nothing only where the entry lists no identity at all.** -/
theorem identityRequirementOf_eq_none_iff {action : Action} {rpcAction : RpcAction}
    (finds : action.kind.findsRecord) :
    identityRequirementOf action rpcAction = .none ↔ rpcAction.identities = some [] := by
  unfold identityRequirementOf
  rw [if_pos finds]
  match rpcAction.identities with
  | none => simp
  | some [] => simp
  | some (first :: others) =>
    dsimp only
    split <;> simp

/-- The identities that a record is found by are those that the entry lists. -/
theorem identities_eq_of_named {action : Action} {rpcAction : RpcAction} {names : List String}
    (finds : action.kind.findsRecord)
    (required : identityRequirementOf action rpcAction = .named names) :
    rpcAction.identities = some names := by
  unfold identityRequirementOf at required
  rw [if_pos finds] at required
  match given : rpcAction.identities with
  | none =>
    rw [given] at required
    cases required
  | some [] =>
    rw [given] at required
    cases required
  | some (first :: others) =>
    rw [given] at required
    dsimp only at required
    split at required
    · cases required
    · exact congrArg some (IdentityRequirement.named.inj required)

/-! ## The type of the identity -/

namespace Typing

variable {typing : Typing} {shape : ActionShape} {resource : Resource}

/-- The identity has the type of the only attribute of the primary key. -/
theorem identityType_of_onlyKey (required : shape.identity = .primaryKey) {key : Attribute}
    (only : resource.primaryKey = [key]) :
    typing.identityType shape resource = typing.typeOf (some key.name) key.type := by
  rw [identityType, required, only]
  rfl

/-- The identity is a map where the primary key has several attributes. -/
theorem identityType_of_keys (required : shape.identity = .primaryKey)
    (several : 1 < resource.primaryKey.length) :
    typing.identityType shape resource = openMap := by
  rw [identityType, required]
  match keys : resource.primaryKey with
  | [] => rfl
  | [key] =>
    rw [keys] at several
    exact absurd several (Nat.lt_irrefl 1)
  | _ :: _ :: _ => rfl

/-- The parameter for an identity is there exactly where the shape asks for one, and has its
type. -/
theorem identity_mem_commonFields_iff {type : TypeExpr} :
    ⟨"identity", type, none⟩ ∈ typing.commonFields shape resource ↔
      shape.identity ≠ .none ∧ type = typing.identityType shape resource := by
  unfold commonFields
  rw [List.mem_append, List.mem_append]
  constructor
  · rintro ((tenant | own) | input)
    · rw [List.mem_ite_nil_right, List.mem_singleton] at tenant
      have same : "identity" = "tenant" := congrArg ConfigField.name tenant.2
      exact absurd same (by decide)
    · rw [List.mem_ite_nil_left, List.mem_singleton] at own
      exact ⟨own.1, congrArg ConfigField.type own.2⟩
    · -- whether it is mandatory or not, the parameter for the input has its own name
      split at input
      · exact absurd input List.not_mem_nil
      · have same : "identity" = "input" := by
          split at input <;> exact congrArg ConfigField.name (List.mem_singleton.mp input)
        exact absurd same (by decide)
  · rintro ⟨located, rfl⟩
    refine .inl (.inr ?_)
    rw [if_neg located]
    exact List.mem_singleton_self _

end Typing

/-! ## Exposed actions -/

/-- The identity that an exposed action asks for can be given: the resource has a primary key, or
something for every identity that is listed, and the parameter has the type of the primary key. -/
structure ExposedAction.CanBeLocated (typing : Typing) (exposed : ExposedAction) : Prop where
  /-- Nothing is asked for exactly where the entry has an empty list of identities. -/
  unlocated : exposed.shape.identity = .none ↔ exposed.rpcAction.identities = some []
  keyed : exposed.shape.identity = .primaryKey → exposed.resource.primaryKey ≠ []
  onlyKey : exposed.shape.identity = .primaryKey → ∀ key, exposed.resource.primaryKey = [key] →
    typing.identityType exposed.shape exposed.resource = typing.typeOf (some key.name) key.type
  severalKeys : exposed.shape.identity = .primaryKey → 1 < exposed.resource.primaryKey.length →
    typing.identityType exposed.shape exposed.resource = openMap
  named : ∀ names, exposed.shape.identity = .named names →
    exposed.rpcAction.identities = some names ∧ ∀ name ∈ names, exposed.resource.Supplies name
  parameter : ∀ type,
    ⟨"identity", type, none⟩ ∈ typing.commonFields exposed.shape exposed.resource ↔
      exposed.shape.identity ≠ .none ∧ type = typing.identityType exposed.shape exposed.resource

/-- Where nothing is found about its identities, the record of an action can be found. -/
theorem ExposedAction.canBeLocated (typing : Typing) {exposed : ExposedAction}
    (finds : exposed.action.kind.findsRecord) (clean : exposedIdentityFaults exposed = []) :
    exposed.CanBeLocated typing := by
  have supplied := exposedIdentityFaults_eq_nil_iff.mp clean
  refine ⟨identityRequirementOf_eq_none_iff finds, ?keyed, ?onlyKey, ?severalKeys, ?named,
    fun type => Typing.identity_mem_commonFields_iff⟩
  case keyed =>
    intro required
    rw [required] at supplied
    exact Resource.supplies_primaryKey_iff.mp (supplied _ List.mem_cons_self)
  case onlyKey => exact fun required key only => Typing.identityType_of_onlyKey required only
  case severalKeys => exact fun required several => Typing.identityType_of_keys required several
  case named =>
    intro names required
    rw [required] at supplied
    exact ⟨identities_eq_of_named finds required, supplied⟩

namespace Plan

variable {schema : Schema} {options : Options} {plan : Plan}

/-- **Every exposed action can be told which record it is to work on**, in a plan without faults.
An update or a destroy asks for nothing only where its entry lists no identity at all; for the
primary key, of which there is one; or for identities that the resource has.  No other action asks
for any. -/
theorem identities_supplied (typing : Typing) (made : Plan.make schema options = .ok plan)
    (clean : plan.verification.faults = []) :
    ∀ exposed ∈ plan.exposed,
      (exposed.action.kind = .update ∨ exposed.action.kind = .destroy →
        exposed.CanBeLocated typing) ∧
      (exposed.action.kind ≠ .update → exposed.action.kind ≠ .destroy →
        exposed.shape.identity = .none) := by
  have checked : identityFaults schema = [] := faultsOf_eq_nil made clean .identities
  intro exposed listed
  rw [exposed_eq made] at listed
  rw [identityFaults_eq] at checked
  have here := List.flatMap_eq_nil_iff.mp checked exposed listed
  constructor
  · intro kinds
    exact ExposedAction.canBeLocated typing (ActionKind.findsRecord_iff.mpr kinds) here
  · intro notUpdate notDestroy
    refine identityRequirementOf_of_not_findsRecord fun finds => ?_
    exact (ActionKind.findsRecord_iff.mp finds).elim notUpdate notDestroy

end Plan

/-- Rooms, which have one key and a code, and seats, which have two keys.  A room is renamed by its
key, moved by its code or its key, and closed without being named; a seat is freed by its keys. -/
def roomSchema : Schema where
  resources := [
    { id := "Room"
      attributes := [
        { name := "id", type := .primitive .uuid {}, isPrimaryKey := true },
        { name := "code", type := .primitive .string {} }]
      identities := [{ name := "by_code", keys := ["code"] }]
      actions := [
        { name := "open", kind := .create },
        { name := "change", kind := .update },
        { name := "close", kind := .destroy }] },
    { id := "Seat"
      attributes := [
        { name := "row", type := .primitive .integer {}, isPrimaryKey := true },
        { name := "number", type := .primitive .integer {}, isPrimaryKey := true }]
      actions := [{ name := "free", kind := .destroy }] }]
  domains := [{
    name := "Main"
    rpc := [
      { resource := "Room"
        actions := [
          { name := "open_room", action := "open" },
          { name := "rename_room", action := "change" },
          { name := "move_room", action := "change",
            identities := some ["by_code", "_primary_key"] },
          { name := "close_room", action := "close", identities := some [] }] },
      { resource := "Seat"
        actions := [
          { name := "free_seat", action := "free", identities := some ["_primary_key"] }] }] }]

/-- Rooms and seats can be found, in all the ways there are. -/
theorem room_identities_supplied :
    ∃ plan, Plan.make roomSchema {} = .ok plan ∧ plan.verification.faults = [] ∧
      plan.shapes.map (·.identity) =
        [.none, .primaryKey, .named ["by_code", "_primary_key"], .none, .primaryKey] ∧
      ∀ exposed ∈ plan.exposed,
        (exposed.action.kind = .update ∨ exposed.action.kind = .destroy →
          exposed.CanBeLocated (.ofSchema roomSchema {})) ∧
        (exposed.action.kind ≠ .update → exposed.action.kind ≠ .destroy →
          exposed.shape.identity = .none) := by
  have evaluated :
      (Plan.make roomSchema {}).toOption.map (fun plan =>
        (plan.verification.faults, plan.shapes.map (·.identity))) =
      some ([], [.none, .primaryKey, .named ["by_code", "_primary_key"], .none, .primaryKey]) := by
    cbv
  obtain ⟨plan, made, seen⟩ := Plan.exists_of_evaluated evaluated
  injection seen with clean required
  exact ⟨plan, made, clean, required, Plan.identities_supplied _ made clean⟩

end TypedRpc
