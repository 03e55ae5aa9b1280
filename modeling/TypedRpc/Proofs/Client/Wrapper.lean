import Mathlib.Data.List.Nodup
import TypedRpc.Client.Call
import TypedRpc.Proofs.Naming.Words

/-!
# Methods that call functions

The object for a resource has a method for each action, and the method is to call the function of
the action.  Inside an object a call without a qualifier means a method of that name before it means
a function, so a method that is named like its function calls itself.

A method has a name of its own when it is called by a verb.  The verb has to lead the name of the
action, something has to follow it there, and no other method may have taken it: otherwise the
method is named like its function.

* `wrapperMethods`: the methods of an object, each with the action that it stands for.
* `methods_call_functions_iff`: when no method of an object calls itself; `search_calls_itself`
  shows one that does.
-/

namespace TypedRpc

open Text (joinBlocks)

/-- The methods of an object that groups functions: their names, and the actions they stand for. -/
def wrapperMethods (shapes : List ActionShape) : List (String × ActionShape) :=
  (methodNames [] shapes).zip shapes

/-- An object is written method by method. -/
theorem wrapperText_eq (options : Options) (resource : Resource) (shapes : List ActionShape) :
    wrapperText options resource shapes =
      "object " ++ resource.declaredTypeName ++ "Rpc \x7b\n" ++
        joinBlocks ((wrapperMethods shapes).map fun method =>
          methodText options method.1 method.2) ++ "\n\x7d" := by
  rw [wrapperText, wrapperMethods, List.zip, List.map_zipWith]

/-! ## Verbs -/

/-- Whether a short verb leads a name and a word follows it. -/
def VerbLed (rpcName : String) : Prop :=
  leadingVerb rpcName ∈ shortVerbs ∧
    ∃ c ∈ rpcName.toList.dropWhile (· ≠ '_'), ¬ Naming.isJoiner c

-- only the characters of the name are looked through, not all that there are
instance (rpcName : String) : Decidable (VerbLed rpcName) :=
  have : Decidable (∃ c ∈ rpcName.toList.dropWhile (· ≠ '_'), ¬ Naming.isJoiner c) :=
    List.decidableBEx _ _
  inferInstanceAs (Decidable (_ ∧ _))

/-- Short verbs are single words in lower case. -/
theorem shortVerbs_lowered : ∀ verb ∈ shortVerbs, verb.toList ≠ [] ∧
    (∀ c ∈ verb.toList, ¬ Naming.isJoiner c) ∧
      Naming.decapitalize verb.toList = verb.toList := by
  have checked : shortVerbs.all (fun verb => !verb.toList.isEmpty &&
      verb.toList.all (!Naming.isJoiner ·) &&
        Naming.decapitalize verb.toList == verb.toList) = true := by
    decide +kernel
  simpa [and_assoc] using checked

theorem ended_dropWhile (cs : List Char) :
    ∀ c ∈ (cs.dropWhile (· ≠ '_')).head?, Naming.isJoiner c := by
  intro c first
  have separates := List.head?_dropWhile_not (· ≠ '_') cs
  rw [Option.mem_def.mp first] at separates
  simp_all [Naming.isJoiner]

/-- A function is named by a short verb exactly when no word follows the verb. -/
theorem camelCase_eq_leadingVerb_iff {rpcName : String}
    (known : leadingVerb rpcName ∈ shortVerbs) :
    Naming.camelCase rpcName = leadingVerb rpcName ↔ ¬ VerbLed rpcName := by
  obtain ⟨some, whole, lowered⟩ := shortVerbs_lowered _ known
  rw [leadingVerb, String.toList_ofList] at some whole lowered
  have split :=
    Naming.camelCaseChars_eq_head_iff some whole (ended_dropWhile rpcName.toList) lowered
  rw [List.takeWhile_append_dropWhile] at split
  simp only [VerbLed, known, true_and, not_exists, not_and, not_not]
  rw [← split, Naming.camelCase, leadingVerb, String.ofList_inj]

/-! ## Single methods -/

theorem methodName_of_verb {shape : ActionShape} (known : leadingVerb shape.rpcName ∈ shortVerbs) :
    shape.methodName = leadingVerb shape.rpcName := by
  simp [ActionShape.methodName, known]

theorem methodName_of_not_verb {shape : ActionShape}
    (unknown : leadingVerb shape.rpcName ∉ shortVerbs) :
    shape.methodName = shape.functionName := by
  simp [ActionShape.methodName, unknown]

/-- The name of the method for an action, given the names that are taken. -/
def chosenName (taken : List String) (shape : ActionShape) : String :=
  if taken.contains shape.methodName then shape.functionName else shape.methodName

theorem methodNames_cons (taken : List String) (shape : ActionShape) (rest : List ActionShape) :
    methodNames taken (shape :: rest) =
      chosenName taken shape :: methodNames (chosenName taken shape :: taken) rest := rfl

/-- **A method is not named like its function exactly when a verb leads the name of the action, and
no other method has taken it.**  Then the verb is the name. -/
theorem chosenName_ne_functionName_iff {taken : List String} {shape : ActionShape} :
    chosenName taken shape ≠ shape.functionName ↔
      VerbLed shape.rpcName ∧ leadingVerb shape.rpcName ∉ taken := by
  unfold chosenName
  by_cases known : leadingVerb shape.rpcName ∈ shortVerbs
  · rw [methodName_of_verb known]
    by_cases free : leadingVerb shape.rpcName ∉ taken
    · have apart : leadingVerb shape.rpcName ≠ shape.functionName ↔ VerbLed shape.rpcName := by
        rw [ne_comm, ne_eq, ActionShape.functionName, camelCase_eq_leadingVerb_iff known, not_not]
      simpa [free] using apart
    · simp_all
  · rw [methodName_of_not_verb known]
    simp [VerbLed, known]

theorem chosenName_of_free {taken : List String} {shape : ActionShape}
    (led : VerbLed shape.rpcName) (free : leadingVerb shape.rpcName ∉ taken) :
    chosenName taken shape = leadingVerb shape.rpcName := by
  simp [chosenName, methodName_of_verb led.1, free]

/-! ## All methods -/

/-- The methods for some actions call functions exactly when verbs lead the names of all of them,
the verbs differ, and none has been taken. -/
theorem methodNames_ne_functionNames_iff {taken : List String} {shapes : List ActionShape} :
    (∀ method ∈ (methodNames taken shapes).zip shapes, method.1 ≠ method.2.functionName) ↔
      (∀ shape ∈ shapes, VerbLed shape.rpcName ∧ leadingVerb shape.rpcName ∉ taken) ∧
        (shapes.map fun shape => leadingVerb shape.rpcName).Nodup := by
  induction shapes generalizing taken with
  | nil => simp
  | cons shape rest ih =>
    rw [methodNames_cons, List.zip_cons_cons, List.forall_mem_cons, List.forall_mem_cons,
      chosenName_ne_functionName_iff, List.map_cons, List.nodup_cons,
      and_assoc (a := VerbLed _ ∧ _)]
    refine and_congr_right fun ⟨led, free⟩ => ?_
    rw [chosenName_of_free led free, ih]
    simp only [List.mem_cons, not_or, List.mem_map, not_exists, not_and]
    constructor
    · rintro ⟨others, distinct⟩
      exact ⟨fun other listed => ⟨(others other listed).1, (others other listed).2.2⟩,
        fun other listed => (others other listed).2.1, distinct⟩
    · rintro ⟨others, apart, distinct⟩
      exact ⟨fun other listed => ⟨(others other listed).1, apart other listed,
        (others other listed).2⟩, distinct⟩

/-- **When no method of an object calls itself.**  The methods of an object have other names than
the functions that they call exactly when a short verb leads the name of every action, a word
follows it there, and no two actions have the same verb. -/
theorem methods_call_functions_iff (shapes : List ActionShape) :
    (∀ method ∈ wrapperMethods shapes, method.1 ≠ method.2.functionName) ↔
      (∀ shape ∈ shapes, VerbLed shape.rpcName) ∧
        (shapes.map fun shape => leadingVerb shape.rpcName).Nodup := by
  rw [wrapperMethods, methodNames_ne_functionNames_iff]
  simp

example :
    VerbLed "list_todos" ∧ ¬ VerbLed "list" ∧ ¬ VerbLed "list_" ∧ ¬ VerbLed "search_todos" := by
  decide +kernel

/-- To-dos that clients may search. -/
def searchedResource : Resource where
  id := "Todo"
  actions := [{ name := "search", kind := .read }]

/-- The search of to-dos. -/
def searchShape : ActionShape :=
  .of searchedResource { name := "search", kind := .read }
    { name := "search_todos", action := "search" }

/-- No verb leads the name of the search, so its method calls itself. -/
theorem search_calls_itself :
    wrapperText {} searchedResource [searchShape] =
        "object TodoRpc \x7b\n    suspend fun searchTodos(\n        client: HttpClient,\n" ++
          "        config: SearchTodosConfig,\n        endpoint: String = \"/rpc/run\"\n" ++
          "    ): SearchTodosResult = searchTodos(client, config, endpoint)\n\x7d" ∧
      ¬ ∀ (shapes : List ActionShape), ∀ method ∈ wrapperMethods shapes,
        method.1 ≠ method.2.functionName := by
  have only : wrapperMethods [searchShape] = [(searchShape.functionName, searchShape)] := by
    rw [wrapperMethods, methodNames_cons, chosenName, List.contains_nil, if_neg Bool.false_ne_true,
      methodName_of_not_verb (by decide +kernel)]
    rfl
  refine ⟨by decide +kernel, fun claimed => ?_⟩
  refine claimed [searchShape] (searchShape.functionName, searchShape) ?_ rfl
  rw [only]
  exact List.mem_singleton.mpr rfl

end TypedRpc
