import TypedRpc.Proofs.Client.Plan
import TypedRpc.Proofs.Naming.Suggestion
import TypedRpc.Proofs.Verification.NestedNames

/-!
# Suggestions for refused names

Four checks refuse illegal names: of metadata fields, of the members of records, of arguments, and
of whatever is nested in the types of an action.  All of them look at names in the same way and
offer the corrected name, so a suggestion would pass the check that it comes from exactly when the
correction of the refused name is legal.

* `RefusesIllegal`: what the faults about names have in common, check by check.
* `suggestions_legal_iff`: the suggestions that would pass; `parted_suggestion_refused` shows one
  that would not.
-/

namespace TypedRpc

/-! ## Refused names are illegal -/

/-- The names that some faults refuse are illegal. -/
def RefusesIllegal (faults : List Fault) : Prop :=
  ∀ fault ∈ faults, ∀ name ∈ fault.refusedName?, ¬ Naming.isLegal name

theorem refusesIllegal_append {faults others : List Fault} :
    RefusesIllegal (faults ++ others) ↔ RefusesIllegal faults ∧ RefusesIllegal others :=
  List.forall_mem_append

theorem refusesIllegal_flatMap {α : Type} {items : List α} {f : α → List Fault}
    (each : ∀ item, RefusesIllegal (f item)) : RefusesIllegal (items.flatMap f) := by
  intro fault listed
  obtain ⟨item, -, found⟩ := List.mem_flatMap.mp listed
  exact each item fault found

/-- Faults about anything else than names refuse none. -/
theorem refusesIllegal_of_silent {faults : List Fault}
    (silent : ∀ fault ∈ faults, fault.refusedName? = none) : RefusesIllegal faults := by
  intro fault listed name refused
  rw [silent fault listed] at refused
  cases refused

theorem refusesIllegal_map {α : Type} {items : List α} {f : α → Fault}
    (silent : ∀ item, (f item).refusedName? = none) : RefusesIllegal (items.map f) :=
  refusesIllegal_of_silent (List.forall_mem_map.mpr fun item _ => silent item)

/-- A check that refuses the names that are not legal. -/
theorem refusesIllegal_filterMap {α : Type} {items : List α} {f : α → Option Fault}
    (each : ∀ item fault, f item = some fault → ∀ name ∈ fault.refusedName?,
      ¬ Naming.isLegal name) : RefusesIllegal (items.filterMap f) := by
  intro fault listed
  obtain ⟨item, -, found⟩ := List.mem_filterMap.mp listed
  exact each item fault found

/-- Names of types and identities are not looked at in this way. -/
theorem refusesIllegal_of_allOf {category : FaultCategory} {faults : List Fault}
    (all : AllOf category faults) (other : category = .typeNames ∨ category = .identities) :
    RefusesIllegal faults := by
  refine refusesIllegal_of_silent fun fault listed => ?_
  have held := all fault listed
  cases fault <;> first | rfl | (rw [← held] at other; simp [Fault.category] at other)

theorem refusesIllegal_rpcConfigFaults {schema : Schema} {found : Discovery} {faults : List Fault}
    (checked : rpcConfigFaults schema found = .ok faults) : RefusesIllegal faults := by
  obtain ⟨entries, of_entries, rest⟩ := bind_eq_ok_iff.mp checked
  cases rest
  refine refusesIllegal_append.mpr ⟨refusesIllegal_append.mpr ⟨?exposing, ?entries⟩,
    refusesIllegal_map fun _ => rfl⟩
  case exposing =>
    refine refusesIllegal_of_silent ?_
    split
    · exact List.forall_mem_singleton.mpr rfl
    · exact List.forall_mem_nil _
  case entries =>
    exact fun fault listed => (ofEntry_rpcResourceFaults of_entries fault listed).illegal

theorem refusesIllegal_fieldNameFaults (schema : Schema) (found : Discovery) :
    RefusesIllegal (fieldNameFaults schema found) := by
  refine refusesIllegal_flatMap fun resource => refusesIllegal_append.mpr
    ⟨refusesIllegal_filterMap ?_, refusesIllegal_map fun _ => rfl⟩
  rintro ⟨kind, field⟩ fault found name refused
  dsimp only at found
  split at found
  · cases found
  · next illegal =>
    cases found
    cases refused
    exact illegal

theorem refusesIllegal_argumentNameFaults (exposed : ExposedAction) :
    RefusesIllegal (argumentNameFaults exposed) := by
  refine refusesIllegal_filterMap fun argument fault found name refused => ?_
  dsimp only at found
  split at found
  · cases found
  · next illegal =>
    cases found
    cases refused
    exact illegal

/-- What the walk through the types of an action reports. -/
theorem refusesIllegal_nestedNameFaults (schema : Schema) (place : ActionPlace) (action : Action) :
    RefusesIllegal (nestedNameFaults schema place action) := by
  intro fault listed name refused
  have walked := NestedNames.walking_run schema place (NestedNames.startTasks action)
  obtain ⟨location, field, mapped, rfl, illegal, -⟩ := walked.faithful fault listed
  cases refused
  exact illegal

theorem refusesIllegal_actionTypeFaults (schema : Schema) :
    RefusesIllegal (actionTypeFaults schema) :=
  refusesIllegal_flatMap fun exposed => refusesIllegal_append.mpr
    ⟨refusesIllegal_append.mpr ⟨refusesIllegal_argumentNameFaults exposed,
      refusesIllegal_nestedNameFaults schema exposed.place exposed.action⟩,
      refusesIllegal_map fun _ => rfl⟩

/-- **A name is refused only where it is illegal**, whichever check looks at it. -/
theorem refusesIllegal_allFaults {schema : Schema} {rpcConfig : List Fault}
    (checked : rpcConfigFaults schema schema.discovery = .ok rpcConfig) :
    RefusesIllegal (schema.allFaults rpcConfig) := by
  simp only [Schema.allFaults, refusesIllegal_append]
  exact ⟨⟨⟨⟨refusesIllegal_rpcConfigFaults checked, refusesIllegal_fieldNameFaults _ _⟩,
    refusesIllegal_actionTypeFaults schema⟩,
    refusesIllegal_of_allOf (allOf_typeNameFaults _ _) (.inl rfl)⟩,
    refusesIllegal_of_allOf (allOf_identityFaults _) (.inr rfl)⟩

/-! ## Suggestions -/

/-- A suggestion is the correction of the refused name. -/
theorem Fault.suggestion?_eq (fault : Fault) :
    fault.suggestion? = fault.refusedName?.map Naming.suggest := by
  cases fault <;> rfl

/-- **Which suggestions would pass.**  The correction of a name is legal exactly when the name is
not parted.  Every suggestion of a plan is the correction of an illegal name, and so it is legal, as
the check that refused the name demands, exactly when that name is not parted. -/
theorem suggestions_legal_iff (name : String) :
    (Naming.isLegal (Naming.suggest name) ↔ ¬ Naming.Parted name.toList) ∧
    ∀ (schema : Schema) (options : Options) (plan : Plan), Plan.make schema options = .ok plan →
      ∀ fault ∈ plan.verification.faults, ∀ suggestion ∈ fault.suggestion?,
        ∃ refused, fault.refusedName? = some refused ∧ suggestion = Naming.suggest refused ∧
          ¬ Naming.isLegal refused ∧
          (Naming.isLegal suggestion ↔ ¬ Naming.Parted refused.toList) := by
  refine ⟨Naming.isLegal_suggest_iff, ?_⟩
  intro schema options plan made fault listed suggestion offered
  obtain ⟨rpcConfig, checked, rfl⟩ := Plan.make_eq_ok_iff.mp made
  rw [Fault.suggestion?_eq] at offered
  obtain ⟨refused, held, rfl⟩ := Option.map_eq_some_iff.mp offered
  exact ⟨refused, held, rfl, refusesIllegal_allFaults checked fault listed refused held,
    Naming.isLegal_suggest_iff⟩

/-- Offices, with a second line of their address and a mark under some names. -/
def office (line mark : String) : Resource where
  id := "Office"
  attributes := [
    { name := line, type := .primitive .string {} },
    { name := mark, type := .primitive .boolean {} }]
  actions := [{ name := "read", kind := .read }]

/-- Offices that clients may read. -/
def officeSchema (line mark : String) : Schema where
  resources := [office line mark]
  domains := [{
    name := "Main"
    rpc := [{
      resource := "Office"
      actions := [{ name := "list_offices", action := "read" }] }] }]

/-- Whatever they are called, nothing is found about offices but the names of their members. -/
theorem faults_office (line mark : String) :
    ∃ plan, Plan.make (officeSchema line mark) {} = .ok plan ∧
      plan.verification.faults = resourceNameFaults (office line mark) := by
  have exposing : rpcConfigFaults (officeSchema line mark) (officeSchema line mark).discovery =
      .ok [] := by
    cbv
  have reached : (officeSchema line mark).discovery.allResources = ["Office"] := by cbv
  have members : fieldNameFaults (officeSchema line mark) (officeSchema line mark).discovery =
      resourceNameFaults (office line mark) := by
    rw [fieldNameFaults, reached]
    exact List.flatMap_singleton ..
  have arguments : actionTypeFaults (officeSchema line mark) = [] := by cbv
  have types : typeNameFaults (officeSchema line mark) (officeSchema line mark).discovery =
      [] := by
    cbv
  have identities : identityFaults (officeSchema line mark) = [] := by cbv
  refine ⟨_, Plan.make_eq_ok_iff.mpr ⟨[], exposing, rfl⟩, ?_⟩
  simp only [Schema.allFaults, members, arguments, types, identities, List.nil_append,
    List.append_nil]

/-- The suggestions for offices are legal where no name is parted. -/
theorem office_suggestions_legal :
    Naming.isLegal (Naming.suggest "line__2") ∧
    ∃ plan, Plan.make (officeSchema "line__2" "is_main?") {} = .ok plan ∧
      plan.verification.faults.map Fault.suggestion? = [some "line2", some "is_main"] ∧
      ∀ fault ∈ plan.verification.faults, ∀ suggestion ∈ fault.suggestion?,
        ∃ refused, fault.refusedName? = some refused ∧ suggestion = Naming.suggest refused ∧
          ¬ Naming.isLegal refused ∧
          (Naming.isLegal suggestion ↔ ¬ Naming.Parted refused.toList) := by
  obtain ⟨plan, made, found⟩ := faults_office "line__2" "is_main?"
  obtain ⟨correction, offered⟩ := suggestions_legal_iff "line__2"
  refine ⟨correction.mpr ?unparted, plan, made, ?suggested, offered _ _ plan made⟩
  case unparted =>
    rintro ⟨before, marks, digit, after, split, -⟩
    have present : '?' ∈ "line__2".toList := by
      rw [split]
      simp
    exact absurd present (by decide +kernel)
  case suggested =>
    rw [found]
    decide +kernel

/-- **A suggestion that would be refused in turn.**  Without its question mark the name has an
underscore directly before a digit. -/
theorem parted_suggestion_refused :
    (∃ plan, Plan.make (officeSchema "line_?2" "is_main") {} = .ok plan ∧
      plan.verification.faults = [.invalidFieldName "Office" .stored "line_?2" "line_?2"] ∧
      plan.verification.faults.map Fault.suggestion? = [some "line_2"]) ∧
    ¬ Naming.isLegal "line_2" ∧ ¬ ∀ name, Naming.isLegal (Naming.suggest name) := by
  obtain ⟨plan, made, found⟩ := faults_office "line_?2" "is_main"
  have one : resourceNameFaults (office "line_?2" "is_main") =
      [.invalidFieldName "Office" .stored "line_?2" "line_?2"] := by
    decide +kernel
  have corrected : Naming.suggest "line_?2" = "line_2" := by decide +kernel
  have refused : ¬ Naming.isLegal "line_2" := by decide +kernel
  rw [one] at found
  refine ⟨⟨plan, made, found, ?_⟩, refused, fun claimed => ?_⟩
  · rw [found, List.map_singleton, Fault.suggestion?, corrected]
  · have legal := claimed "line_?2"
    rw [corrected] at legal
    exact refused legal

end TypedRpc
