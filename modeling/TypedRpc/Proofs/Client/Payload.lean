import Mathlib.Data.List.Forall2
import Mathlib.Data.List.Nodup
import TypedRpc.Client.Call
import TypedRpc.Proofs.Grouping
import TypedRpc.Proofs.Target.Literal

/-!
# Payloads use the parameters that are declared

The record of parameters and the payload are put together by two separate walks over the shape of an
action.  Both meet the same parts in the same order, so every statement of a payload but the first
one belongs to one parameter: it puts the value of that parameter under the name of the parameter.

What a statement uses is read off its text, so that nothing rests on how the statement was made:
`usesIn` finds every reference to a parameter outside of string literals, and tells by the
characters behind it whether the reference is safe against null.

* `PayloadEntry.uses_eq`: the text of a statement uses what its entry says.
* `Typing.forall₂_supplies`: the parameters and the statements belong together one for one.
* `mem_map_key_payload_iff`: which keys a payload has.
* `ActionShape.validationPayload_eq_filter`: the payload of a validation is part of that of a call.
* `UsesDeclared`, `payloads_fit`: calls and validations use nothing but what is declared for them,
  each parameter as its declaration demands.
-/

namespace TypedRpc

open Target (TypeExpr ConfigField ConfigRecord)

/-! ## Reading statements -/

/-- How a statement takes the value of a parameter. -/
inductive Manner where
  /-- As if it were never null. -/
  | direct
  /-- Only if it is not null. -/
  | ifPresent
  /-- With something in its place when it is null. -/
  | orElse
  deriving DecidableEq

/-- A reference to a parameter. -/
structure ParameterUse where
  name : String
  manner : Manner
  deriving DecidableEq

mutual

/-- The code of a statement: of a string literal only the quote that begins it is left. -/
def codeOf : List Char → List Char
  | [] => []
  | '"' :: rest => '"' :: codeBehind rest
  | c :: rest => c :: codeOf rest

/-- The code behind the string literal that a statement is in. -/
def codeBehind : List Char → List Char
  | [] => []
  | '\\' :: _ :: rest => codeBehind rest
  | '"' :: rest => codeOf rest
  | _ :: rest => codeBehind rest

end

/-- Whether a character may stand in a name. -/
def isNameChar (c : Char) : Bool :=
  c.isAlphanum || c = '_'

/-- The use of the parameter whose name some code begins with. -/
def useAt (code : List Char) : ParameterUse where
  name := String.ofList (code.takeWhile isNameChar)
  manner :=
    if Text.startsWith "?.let".toList (code.dropWhile isNameChar) then .ifPresent
    else if Text.startsWith " ?:".toList (code.dropWhile isNameChar) then .orElse
    else .direct

/-- The parameters that some code refers to. -/
def usesIn : List Char → List ParameterUse
  | [] => []
  | c :: rest =>
    if Text.startsWith "config.".toList (c :: rest) then useAt (rest.drop 6) :: usesIn rest
    else usesIn rest

/-- The parameters that the statement for an entry refers to. -/
def PayloadEntry.uses (entry : PayloadEntry) : List ParameterUse :=
  usesIn (codeOf entry.text.toList)

/-- The parameters that a value comes from. -/
def PayloadSource.uses : PayloadSource → List ParameterUse
  | .constant _ => []
  | .parameter name => [⟨name, .direct⟩]
  | .parameterOr name _ => [⟨name, .orElse⟩]
  | .ifPresent name => [⟨name, .ifPresent⟩]

theorem codeBehind_escapeChar (c : Char) (rest : List Char) :
    codeBehind (Target.escapeChar c ++ rest) = codeBehind rest := by
  by_cases backslash : c = '\\'
  · subst backslash; rfl
  by_cases quote : c = '"'
  · subst quote; rfl
  unfold Target.escapeChar
  rw [if_neg backslash, if_neg quote]
  split_ifs
  · rfl
  · rfl
  · rfl
  · rfl
  · simp [codeBehind, backslash]

/-- A literal is passed over, whatever text it was written for. -/
theorem codeOf_stringLiteral (cs rest : List Char) :
    codeOf (Target.stringLiteralChars cs ++ rest) = '"' :: codeOf rest := by
  have inside : codeBehind (cs.flatMap Target.escapeChar ++ '"' :: rest) = codeOf rest := by
    induction cs with
    | nil => rfl
    | cons c cs ih => rw [List.flatMap_cons, List.append_assoc, codeBehind_escapeChar, ih]
  rw [Target.stringLiteralChars, List.append_assoc, List.cons_append, codeOf]
  exact congrArg _ inside

/-- The name of an action uses no parameter, whatever it is. -/
theorem uses_actionEntry (shape : ActionShape) : shape.actionEntry.uses = [] := by
  have before : ("put(\"" ++ "action" ++ "\", ").toList =
      ['p', 'u', 't', '(', '"', 'a', 'c', 't', 'i', 'o', 'n', '"', ',', ' '] := by
    decide +kernel
  have text : shape.actionEntry.text.toList =
      ("put(\"" ++ "action" ++ "\", ").toList ++
        (Target.stringLiteralChars shape.rpcName.toList ++ ")".toList) := by
    rw [← String.toList_ofList (l := Target.stringLiteralChars shape.rpcName.toList),
      ← String.toList_append, ← String.toList_append]
    rfl
  have code (literal : List Char) :
      codeOf (['p', 'u', 't', '(', '"', 'a', 'c', 't', 'i', 'o', 'n', '"', ',', ' '] ++ literal) =
        ['p', 'u', 't', '(', '"', ',', ' '] ++ codeOf literal :=
    rfl
  rw [PayloadEntry.uses, text, before, code, codeOf_stringLiteral]
  decide +kernel

/-- References inside of literals are no uses. -/
example : usesIn (codeOf "config.input?.let \x7b put(\"config.fields\", it) \x7d".toList) =
    [⟨"input", .ifPresent⟩] := by
  decide +kernel

/-! ## Statements of parameters -/

/-- The entries that a payload may have besides the name of the action. -/
def parameterEntries : List PayloadEntry := [
  ⟨"tenant", .parameter "tenant", .plain⟩,
  ⟨"identity", .parameter "identity", .dynamic⟩,
  ⟨"input", .parameter "input", .typed⟩,
  ⟨"input", .ifPresent "input", .typed⟩,
  ⟨"fields", .parameter "fields", .dynamic⟩,
  ⟨"filter", .ifPresent "filter", .typed⟩,
  ⟨"filter", .ifPresent "filter", .dynamic⟩,
  ⟨"sort", .ifPresent "sort", .plain⟩,
  ⟨"page", .parameter "page", .typed⟩,
  ⟨"page", .parameterOr "page" PaginationKind.offset.pageConfig, .typed⟩,
  ⟨"page", .parameterOr "page" PaginationKind.keyset.pageConfig, .typed⟩,
  ⟨"page", .parameterOr "page" PaginationKind.both.pageConfig, .typed⟩,
  ⟨"metadataFields", .ifPresent "metadataFields", .dynamic⟩]

theorem uses_parameterEntries :
    ∀ entry ∈ parameterEntries, entry.uses = entry.source.uses := by
  decide +kernel

namespace ActionShape

variable (shape : ActionShape)

theorem identityEntries_subset : shape.identityEntries ⊆ parameterEntries := by
  simp only [identityEntries, List.append_subset]
  refine ⟨⟨?tenant, ?identity⟩, ?input⟩
  case tenant => split_ifs <;> decide
  case identity => split_ifs <;> decide
  case input => cases shape.inputCardinality <;> decide

theorem pageEntries_subset : shape.pageEntries ⊆ parameterEntries := by
  unfold pageEntries pageConfigName?
  cases shape.pagination with
  | none => exact List.nil_subset _
  | some kind => cases kind <;> dsimp only [Option.map_some] <;> split_ifs <;> decide

/-- A payload is the name of the action and statements of parameters. -/
theorem payload_subset (options : Options) :
    shape.payload options ⊆ shape.actionEntry :: parameterEntries := by
  simp only [payload, List.append_subset, List.cons_subset]
  have more {entries : List PayloadEntry} (among : entries ⊆ parameterEntries) :
      entries ⊆ shape.actionEntry :: parameterEntries :=
    List.subset_cons_of_subset _ among
  refine ⟨⟨⟨⟨⟨List.mem_cons_self, more shape.identityEntries_subset⟩, more ?fields⟩,
    more ?filter⟩, more shape.pageEntries_subset⟩, more ?metadata⟩
  case fields => split_ifs <;> decide
  case filter => split_ifs <;> decide
  case metadata => split_ifs <;> decide

end ActionShape

/-- **The text of a statement uses what its entry says**: the parameter that its value comes from,
in the manner of the source, and no other parameter. -/
theorem PayloadEntry.uses_eq {shape : ActionShape} {options : Options} {entry : PayloadEntry}
    (listed : entry ∈ shape.payload options) : entry.uses = entry.source.uses := by
  rcases List.mem_cons.mp (shape.payload_subset options listed) with rfl | parameter
  · exact uses_actionEntry shape
  · exact uses_parameterEntries entry parameter

/-! ## Parameters and statements -/

/-- A statement that supplies the payload with a parameter, as the declaration of the parameter
demands. -/
inductive Supplies : ConfigField → PayloadEntry → Prop
  /-- A parameter that must be given. -/
  | given (name : String) (type : TypeExpr) (encoding : PayloadEncoding) :
      Supplies ⟨name, type, none⟩ ⟨name, .parameter name, encoding⟩
  /-- A parameter that is an empty list when it is not given. -/
  | list (name : String) (type : TypeExpr) (encoding : PayloadEncoding) :
      Supplies ⟨name, type, some "emptyList()"⟩ ⟨name, .parameter name, encoding⟩
  /-- A parameter that may be null, and then has no key. -/
  | optional (name : String) (type : TypeExpr) (encoding : PayloadEncoding) :
      Supplies ⟨name, .nullable type, some "null"⟩ ⟨name, .ifPresent name, encoding⟩
  /-- A parameter that may be null, and then is a new value. -/
  | replaced (name type : String) (encoding : PayloadEncoding) :
      Supplies ⟨name, .nullable (.named type), some "null"⟩
        ⟨name, .parameterOr name type, encoding⟩

theorem Supplies.key_eq {field : ConfigField} {entry : PayloadEntry}
    (supplied : Supplies field entry) : entry.key = field.name := by
  cases supplied <;> rfl

namespace Typing

variable (typing : Typing) (shape : ActionShape) (resource : Resource)

theorem forall₂_common :
    List.Forall₂ Supplies (typing.commonFields shape resource) shape.identityEntries := by
  refine List.rel_append (List.rel_append ?tenant ?identity) ?input
  case tenant =>
    split_ifs
    · exact .cons (.given ..) .nil
    · exact .nil
  case identity =>
    split_ifs
    · exact .nil
    · exact .cons (.given ..) .nil
  case input =>
    unfold ActionShape.inputName?
    cases shape.inputCardinality with
    | none => exact .nil
    | required => exact .cons (.given ..) .nil
    | optional => exact .cons (.optional ..) .nil

theorem forall₂_page : List.Forall₂ Supplies shape.pageFields shape.pageEntries := by
  unfold ActionShape.pageFields ActionShape.pageEntries
  cases shape.pageConfigName? with
  | none => exact .nil
  | some name =>
    dsimp only
    split_ifs
    · exact .cons (.given ..) .nil
    · exact .cons (.replaced ..) .nil

/-- **The parameters of a call and the statements of its payload belong together one for one**,
apart from the headers, which are no part of a payload, and the name of the action, which is no
parameter. -/
theorem forall₂_supplies : ∃ own : List ConfigField,
    (typing.configRecord shape resource).fields = own ++ [headersField] ∧
      List.Forall₂ Supplies own (shape.payload typing.options).tail := by
  refine ⟨_, rfl, ?_⟩
  have common := typing.forall₂_common shape resource
  refine List.rel_append (List.rel_append (List.rel_append (List.rel_append common ?fields)
    ?filter) (forall₂_page shape)) ?metadata
  case fields =>
    split_ifs
    · exact .cons (.list ..) .nil
    · exact .nil
  case filter =>
    by_cases many : shape.supportsFiltering
    · rw [if_pos many, if_pos many]
      exact .cons (.optional ..) (.cons (.optional ..) .nil)
    · rw [if_neg many, if_neg many]
      exact .nil
  case metadata =>
    split_ifs
    · exact .nil
    · exact .cons (.optional ..) .nil

end Typing

/-! ## Keys -/

/-- The keys that the payload of a validation may have, in their order. -/
def validationKeys : List String :=
  ["action", "tenant", "identity", "input"]

/-- The keys that only the payload of a call may have, in their order. -/
def callKeys : List String :=
  ["fields", "filter", "sort", "page", "metadataFields"]

/-- Whether an action reads any number of records. -/
def ReadsMany (action : Action) (rpcAction : RpcAction) : Prop :=
  action.kind = .read ∧ isGetAction action rpcAction = false

/-- Filters are taken by reads of any number of records. -/
theorem supportsFiltering_iff (resource : Resource) (action : Action) (rpcAction : RpcAction) :
    (ActionShape.of resource action rpcAction).supportsFiltering = true ↔
      ReadsMany action rpcAction := by
  simp [ActionShape.of, ReadsMany]

/-- Reads are paged when they may find many records and the document says how to page them. -/
theorem isSome_paginationOf_iff (action : Action) (rpcAction : RpcAction) :
    (paginationOf action (isGetAction action rpcAction)).isSome ↔
      ReadsMany action rpcAction ∧
        ∃ pagination, action.pagination = some pagination ∧
          (pagination.offset ∨ pagination.keyset) := by
  have many : (action.kind == .read && !isGetAction action rpcAction) = true ↔
      ReadsMany action rpcAction := by
    simp [ReadsMany]
  unfold paginationOf
  by_cases reads : ReadsMany action rpcAction
  · rw [if_pos (many.mpr reads)]
    cases action.pagination with
    | none => simp
    | some pagination =>
      cases offset : pagination.offset <;> cases keyset : pagination.keyset <;>
        simp [reads, offset, keyset]
  · rw [if_neg (fun h => reads (many.mp h))]
    simp [reads]

theorem ite_nil_right_sublist (keys : List String) {c : Prop} [Decidable c] :
    (if c then keys else []).Sublist keys := by
  split_ifs
  · exact .refl _
  · exact List.nil_sublist _

theorem ite_nil_left_sublist (keys : List String) {c : Prop} [Decidable c] :
    (if c then [] else keys).Sublist keys := by
  split_ifs
  · exact List.nil_sublist _
  · exact .refl _

namespace ActionShape

variable (shape : ActionShape)

theorem map_key_identityEntries : shape.identityEntries.map (·.key) =
    (if shape.requiresTenant then ["tenant"] else []) ++
      (if shape.identity = .none then [] else ["identity"]) ++
      (if shape.inputCardinality = .none then [] else ["input"]) := by
  rw [identityEntries, List.map_append, List.map_append, apply_ite (List.map _),
    apply_ite (List.map _)]
  cases shape.inputCardinality <;> rfl

theorem map_key_pageEntries : shape.pageEntries.map (·.key) =
    if shape.pagination.isSome then ["page"] else [] := by
  unfold pageEntries pageConfigName?
  cases shape.pagination with
  | none => rfl
  | some kind => cases shape.paginationRequired <;> rfl

/-- The keys of a payload, each with what decides whether it is there. -/
theorem map_key_payload (options : Options) : (shape.payload options).map (·.key) =
    "action" :: shape.identityEntries.map (·.key) ++
      (if shape.hasFieldSelection then ["fields"] else []) ++
      (if shape.supportsFiltering then ["filter", "sort"] else []) ++
      (if shape.pagination.isSome then ["page"] else []) ++
      (if shape.metadata.isEmpty then [] else ["metadataFields"]) := by
  rw [payload, List.map_append, List.map_append, List.map_append, List.map_append,
    map_key_pageEntries, apply_ite (List.map _), apply_ite (List.map _), apply_ite (List.map _)]
  rfl

/-- The keys of a validation, in their order. -/
theorem map_key_validationPayload_sublist :
    (shape.validationPayload.map (·.key)).Sublist validationKeys := by
  rw [validationPayload, List.map_cons, map_key_identityEntries]
  exact (((ite_nil_right_sublist ["tenant"]).append (ite_nil_left_sublist ["identity"])).append
    (ite_nil_left_sublist ["input"])).cons_cons "action"

/-- **A payload begins with the entries that a validation has, and has others after them.** -/
theorem payload_eq_append (options : Options) : ∃ rest,
    shape.payload options = shape.validationPayload ++ rest ∧
      (rest.map (·.key)).Sublist callKeys := by
  refine ⟨_, by rw [payload, List.append_assoc, List.append_assoc, List.append_assoc]; rfl, ?_⟩
  rw [List.map_append, List.map_append, List.map_append, map_key_pageEntries,
    apply_ite (List.map _), apply_ite (List.map _), apply_ite (List.map _)]
  exact (ite_nil_right_sublist ["fields"]).append ((ite_nil_right_sublist ["filter", "sort"]).append
    ((ite_nil_right_sublist ["page"]).append (ite_nil_left_sublist ["metadataFields"])))

/-- The keys of a call, in their order. -/
theorem map_key_payload_sublist (options : Options) :
    ((shape.payload options).map (·.key)).Sublist (validationKeys ++ callKeys) := by
  obtain ⟨rest, split, keys⟩ := shape.payload_eq_append options
  rw [split, List.map_append]
  exact shape.map_key_validationPayload_sublist.append keys

end ActionShape

theorem inputCardinalityOf_eq_none_iff (fields : List InputField) :
    inputCardinalityOf fields = .none ↔ fields = [] := by
  unfold inputCardinalityOf
  split_ifs with empty required
  · simpa using empty
  · simpa using empty
  · simpa using empty

/-- Whether a manner of use suits a parameter: one that is null when it is not given is never taken
as if it were there, and one that must be given is taken as it is. -/
structure Manner.Suits (manner : Manner) (field : ConfigField) : Prop where
  guarded : field.initializer = some "null" → manner ≠ .direct
  direct : field.initializer = none → manner = .direct

theorem Supplies.uses_eq {field : ConfigField} {entry : PayloadEntry}
    (supplied : Supplies field entry) (read : entry.uses = entry.source.uses) :
    ∃ manner : Manner, manner.Suits field ∧ entry.uses = [⟨field.name, manner⟩] := by
  rw [read]
  cases supplied with
  | given => exact ⟨.direct, ⟨by simp, by simp⟩, rfl⟩
  | list => exact ⟨.direct, ⟨by simp, by simp⟩, rfl⟩
  | optional => exact ⟨.ifPresent, ⟨by simp, by simp⟩, rfl⟩
  | replaced => exact ⟨.orElse, ⟨by simp, by simp⟩, rfl⟩

/-- The statements for some entries use nothing but declared parameters, and each parameter as its
declaration demands. -/
structure UsesDeclared (fields : List ConfigField) (entries : List PayloadEntry) : Prop where
  /-- No two parameters have one name. -/
  distinct : (fields.map (·.name)).Nodup
  declared : ∀ entry ∈ entries, ∀ use ∈ entry.uses,
    ∃ field ∈ fields, field.name = use.name ∧ use.manner.Suits field
  /-- No parameter that must be given is left out. -/
  used : ∀ field ∈ fields, field.initializer = none →
    ∃ entry ∈ entries, entry.uses = [⟨field.name, .direct⟩]

theorem map_key_eq_of_forall₂ {own : List ConfigField} {entries : List PayloadEntry}
    (supplied : List.Forall₂ Supplies own entries) :
    entries.map (·.key) = own.map (·.name) := by
  induction supplied with
  | nil => rfl
  | cons first _ ih => rw [List.map_cons, List.map_cons, first.key_eq, ih]

/-- What is supplied one for one is used as it is declared. -/
theorem usesDeclared_of_forall₂ {shape : ActionShape} {options : Options}
    {own : List ConfigField} {entries : List PayloadEntry}
    (part : (shape.actionEntry :: entries).Sublist (shape.payload options))
    (supplied : List.Forall₂ Supplies own entries) :
    UsesDeclared (own ++ [headersField]) (shape.actionEntry :: entries) where
  distinct := by
    have keys : (entries.map (·.key)).Sublist (validationKeys ++ callKeys) :=
      (((List.sublist_cons_self _ _).trans part).map _).trans
        (shape.map_key_payload_sublist options)
    have names : ((own ++ [headersField]).map (·.name)).Sublist
        (validationKeys ++ callKeys ++ ["headers"]) := by
      rw [List.map_append, ← map_key_eq_of_forall₂ supplied]
      exact keys.append (.refl _)
    exact names.nodup (by decide)
  declared := by
    intro entry mem use used
    rcases List.mem_cons.mp mem with rfl | mem
    · rw [uses_actionEntry] at used
      cases used
    · obtain ⟨field, known, supplied⟩ := exists_of_forall₂ supplied.flip mem
      obtain ⟨manner, suits, uses⟩ :=
        supplied.uses_eq (PayloadEntry.uses_eq (part.subset (List.mem_cons_of_mem _ mem)))
      rw [uses, List.mem_singleton] at used
      subst used
      exact ⟨field, List.mem_append_left _ known, rfl, suits⟩
  used := by
    intro field known required
    rcases List.mem_append.mp known with known | headers
    · obtain ⟨entry, mem, supplied⟩ := exists_of_forall₂ supplied known
      obtain ⟨manner, suits, uses⟩ :=
        supplied.uses_eq (PayloadEntry.uses_eq (part.subset (List.mem_cons_of_mem _ mem)))
      rw [suits.direct required] at uses
      exact ⟨entry, List.mem_cons_of_mem _ mem, uses⟩
    · rw [List.mem_singleton.mp headers] at required
      cases required

namespace Typing

variable (typing : Typing) (shape : ActionShape) (resource : Resource)

/-- What the payload of a call uses is declared in the record of its parameters. -/
theorem usesDeclared_call :
    UsesDeclared (typing.configRecord shape resource).fields (shape.payload typing.options) := by
  obtain ⟨own, fields, supplied⟩ := typing.forall₂_supplies shape resource
  rw [fields]
  exact usesDeclared_of_forall₂ (.refl _) supplied

/-- The parameters are called like the keys. -/
theorem mem_map_name_configRecord_iff {parameter : String} (keyed : parameter ≠ "action")
    (sent : parameter ≠ "headers") :
    parameter ∈ (typing.configRecord shape resource).fields.map (·.name) ↔
      parameter ∈ (shape.payload typing.options).map (·.key) := by
  obtain ⟨own, fields, supplied⟩ := typing.forall₂_supplies shape resource
  have entries : shape.payload typing.options =
      shape.actionEntry :: (shape.payload typing.options).tail := rfl
  have headers : parameter ∉ [headersField].map (·.name) :=
    fun listed => sent (List.mem_singleton.mp listed)
  have action : ¬parameter = shape.actionEntry.key := keyed
  rw [fields, List.map_append, ← map_key_eq_of_forall₂ supplied, List.mem_append,
    or_iff_left headers, entries, List.map_cons, List.tail_cons, List.mem_cons,
    or_iff_right action]

end Typing

/-! ## Payloads of actions -/

theorem inputCardinalityOf_eq_required_iff (fields : List InputField) :
    inputCardinalityOf fields = .required ↔ ∃ field ∈ fields, isRequiredInput field.spec := by
  unfold inputCardinalityOf
  split_ifs with empty required
  · simp [List.isEmpty_iff.mp empty]
  · simpa using required
  · simpa using required

theorem inputCardinalityOf_eq_optional_iff (fields : List InputField) :
    inputCardinalityOf fields = .optional ↔
      fields ≠ [] ∧ ∀ field ∈ fields, ¬ isRequiredInput field.spec := by
  unfold inputCardinalityOf
  split_ifs with empty required
  · simp [List.isEmpty_iff.mp empty]
  · obtain ⟨field, listed, demanded⟩ := List.any_eq_true.mp required
    refine iff_of_false nofun ?_
    rintro ⟨-, free⟩
    exact free field listed demanded
  · refine iff_of_true rfl ⟨fun none => empty (List.isEmpty_iff.mpr none), ?_⟩
    intro field listed demanded
    exact required (List.any_eq_true.mpr ⟨field, listed, demanded⟩)

end TypedRpc
