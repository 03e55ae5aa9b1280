import TypedRpc.Proofs.Client.Wrapper

/-!
# Methods with names of their own

The methods of an object are named one after the other.  A method gets the short verb that leads the
name of its action, or the name of its function where the verb is taken already; that name is not
looked up among those that are taken.  The functions differ, so it can only be taken as a verb, and
then it is nothing but a verb itself.

* `methodName_of_functionName_verb`: a function that is named by a short verb is the method that its
  action wants.
* `chosenName_mem_iff`: one method, given the names that are taken.
* `nodup_methodNames_and_iff`: all methods, with the names that are taken as what the induction is
  about.
* `method_names_distinct_iff`: when the methods of an object differ; `list_taken_twice` shows two
  that do not.
-/

namespace TypedRpc

/-- Whether the verb of an action is all that the function of another one is called by. -/
@[mk_iff]
structure TakesNameOf (earlier later : ActionShape) : Prop where
  short : leadingVerb earlier.rpcName ∈ shortVerbs
  whole : later.functionName = leadingVerb earlier.rpcName

instance (earlier later : ActionShape) : Decidable (TakesNameOf earlier later) :=
  decidable_of_iff _ (takesNameOf_iff earlier later).symm

/-! ## Functions that are named by verbs -/

/-- A short verb that leads the name of an action leads that of its function. -/
theorem prefix_of_leadingVerb {rpcName : String} (known : leadingVerb rpcName ∈ shortVerbs) :
    (leadingVerb rpcName).toList <+: (Naming.camelCase rpcName).toList := by
  obtain ⟨some, whole, lowered⟩ := shortVerbs_lowered _ known
  rw [leadingVerb, String.toList_ofList] at some whole lowered ⊢
  have split := Naming.words_append some whole (ended_dropWhile rpcName.toList)
  rw [List.takeWhile_append_dropWhile] at split
  rw [Naming.camelCase, String.toList_ofList, Naming.camelCaseChars, split]
  dsimp only
  rw [lowered]
  exact List.prefix_append _ _

/-- No short verb begins with another one. -/
theorem shortVerbs_apart : ∀ verb ∈ shortVerbs, ∀ other ∈ shortVerbs,
    verb.toList <+: other.toList → verb = other := by
  decide +kernel

/-- **A function that is named by a short verb is named like the method that its action wants.** -/
theorem methodName_of_functionName_verb {shape : ActionShape}
    (verb : shape.functionName ∈ shortVerbs) : shape.methodName = shape.functionName := by
  by_cases known : leadingVerb shape.rpcName ∈ shortVerbs
  · rw [methodName_of_verb known]
    exact shortVerbs_apart _ known _ verb (prefix_of_leadingVerb known)
  · exact methodName_of_not_verb known

/-- A method wants a verb that its function is not named by exactly when the verb leads the name of
the action. -/
theorem methodName_eq_verb_iff {shape : ActionShape} {verb : String} (short : verb ∈ shortVerbs)
    (other : shape.functionName ≠ verb) :
    shape.methodName = verb ↔ leadingVerb shape.rpcName = verb := by
  by_cases known : leadingVerb shape.rpcName ∈ shortVerbs
  · rw [methodName_of_verb known]
  · rw [methodName_of_not_verb known]
    exact iff_of_false other fun same => known (same ▸ short)

/-! ## One method after another -/

section Step

variable {taken : List String} {shape : ActionShape}

theorem chosenName_of_taken (used : shape.methodName ∈ taken) :
    chosenName taken shape = shape.functionName := by
  rw [chosenName, if_pos (List.contains_iff_mem.mpr used)]

theorem chosenName_of_unused (unused : shape.methodName ∉ taken) :
    chosenName taken shape = shape.methodName := by
  rw [chosenName, if_neg (mt List.contains_iff_mem.mp unused)]

/-- **The name of a method is taken exactly when that of its function is**, where names of functions
are taken as verbs only. -/
theorem chosenName_mem_iff (verbs : shape.functionName ∈ taken → shape.functionName ∈ shortVerbs) :
    chosenName taken shape ∈ taken ↔ shape.functionName ∈ taken := by
  by_cases used : shape.methodName ∈ taken
  · rw [chosenName_of_taken used]
  · rw [chosenName_of_unused used]
    refine iff_of_false used fun held => used ?_
    rw [methodName_of_functionName_verb (verbs held)]
    exact held

/-- A verb that is not the name of the function is taken, once the method has got its name, exactly
when it was taken before or leads the name of the action. -/
theorem verb_mem_chosenName_cons_iff {verb : String} (short : verb ∈ shortVerbs)
    (other : shape.functionName ≠ verb) :
    verb ∈ chosenName taken shape :: taken ↔ verb ∈ taken ∨ leadingVerb shape.rpcName = verb := by
  rw [List.mem_cons, ← methodName_eq_verb_iff short other]
  by_cases used : shape.methodName ∈ taken
  · rw [chosenName_of_taken used]
    constructor
    · rintro (same | before)
      · exact absurd same.symm other
      · exact .inl before
    · rintro (before | rfl)
      · exact .inr before
      · exact .inr used
  · rw [chosenName_of_unused used, or_comm, eq_comm]

/-- A method that is not named like its function is named by a verb. -/
theorem chosenName_mem_shortVerbs (other : chosenName taken shape ≠ shape.functionName) :
    chosenName taken shape ∈ shortVerbs := by
  obtain ⟨led, free⟩ := chosenName_ne_functionName_iff.mp other
  rw [chosenName_of_free led free]
  exact led.1

/-- The name of a function is not taken, once a method for another action has got its name, exactly
when it was not taken before and the other action does not take it. -/
theorem functionName_not_mem_cons_iff {later : ActionShape}
    (apart : shape.functionName ≠ later.functionName) :
    later.functionName ∉ chosenName taken shape :: taken ↔
      later.functionName ∉ taken ∧ ¬TakesNameOf shape later := by
  by_cases short : later.functionName ∈ shortVerbs
  · rw [verb_mem_chosenName_cons_iff short apart, not_or]
    refine and_congr_right fun _ => not_congr ⟨fun same => ⟨same ▸ short, same.symm⟩, ?_⟩
    exact fun takes => takes.whole.symm
  · have chosen : later.functionName ≠ chosenName taken shape := by
      intro same
      refine short (same ▸ chosenName_mem_shortVerbs ?_)
      rw [← same]
      exact apart.symm
    have kept : ¬TakesNameOf shape later := fun takes => short (takes.whole ▸ takes.short)
    simp [chosen, kept]

end Step

/-! ## All methods -/

theorem length_methodNames (taken : List String) (shapes : List ActionShape) :
    (methodNames taken shapes).length = shapes.length := by
  induction shapes generalizing taken with
  | nil => rfl
  | cons shape rest ih => rw [methodNames_cons, List.length_cons, ih, List.length_cons]

/-- Names differ from each other and from those that are taken when the first one is not taken and
the others differ from each other, from the first one and from those that are taken. -/
theorem nodup_methodNames_cons_iff {taken : List String} {shape : ActionShape}
    {rest : List ActionShape} :
    ((methodNames taken (shape :: rest)).Nodup ∧
        ∀ name ∈ methodNames taken (shape :: rest), name ∉ taken) ↔
      chosenName taken shape ∉ taken ∧
        (methodNames (chosenName taken shape :: taken) rest).Nodup ∧
          ∀ name ∈ methodNames (chosenName taken shape :: taken) rest,
            name ∉ chosenName taken shape :: taken := by
  rw [methodNames_cons, List.nodup_cons, List.forall_mem_cons]
  simp only [List.mem_cons, not_or]
  constructor
  · rintro ⟨⟨first, distinct⟩, free, others⟩
    exact ⟨free, distinct, fun name held => ⟨ne_of_mem_of_not_mem held first, others name held⟩⟩
  · rintro ⟨free, distinct, others⟩
    refine ⟨⟨fun held => (others _ held).1 rfl, distinct⟩, free, fun name held => ?_⟩
    exact (others name held).2

/-- The methods for some actions differ, and none has a name that was taken, exactly when the names
of the functions were not taken and no action takes that of a later one. -/
theorem nodup_methodNames_and_iff {taken : List String} {shapes : List ActionShape}
    (distinct : (shapes.map ActionShape.functionName).Nodup)
    (verbs : ∀ shape ∈ shapes, shape.functionName ∈ taken → shape.functionName ∈ shortVerbs) :
    ((methodNames taken shapes).Nodup ∧ ∀ name ∈ methodNames taken shapes, name ∉ taken) ↔
      (∀ shape ∈ shapes, shape.functionName ∉ taken) ∧
        shapes.Pairwise fun earlier later => ¬TakesNameOf earlier later := by
  -- What is taken changes from method to method.  Of it the induction keeps that the names of the
  -- functions that are left are among it as verbs only.
  induction shapes generalizing taken with
  | nil => simp [methodNames]
  | cons shape rest ih =>
    rw [List.map_cons, List.nodup_cons, List.mem_map] at distinct
    rw [List.forall_mem_cons] at verbs
    have apart : ∀ later ∈ rest, shape.functionName ≠ later.functionName :=
      fun later listed same => distinct.1 ⟨later, listed, same.symm⟩
    have later_verbs : ∀ later ∈ rest, later.functionName ∈ chosenName taken shape :: taken →
        later.functionName ∈ shortVerbs := by
      intro later listed held
      rcases List.mem_cons.mp held with same | before
      · rw [same]
        exact chosenName_mem_shortVerbs fun own => apart later listed (own ▸ same).symm
      · exact verbs.2 later listed before
    have step : (∀ later ∈ rest, later.functionName ∉ chosenName taken shape :: taken) ↔
        (∀ later ∈ rest, later.functionName ∉ taken) ∧
          ∀ later ∈ rest, ¬TakesNameOf shape later := by
      rw [← forall₂_and]
      exact forall₂_congr fun later listed => functionName_not_mem_cons_iff (apart later listed)
    rw [nodup_methodNames_cons_iff, ih distinct.2 later_verbs, step, chosenName_mem_iff verbs.1,
      List.forall_mem_cons, List.pairwise_cons]
    simp only [and_assoc]

/-- **When the methods of an object differ**, if the functions do: exactly when no function is named
by the short verb that leads the name of an earlier action. -/
theorem method_names_distinct_iff {shapes : List ActionShape}
    (distinct : (shapes.map ActionShape.functionName).Nodup) :
    ((wrapperMethods shapes).map Prod.fst).Nodup ↔
      shapes.Pairwise fun earlier later => ¬TakesNameOf earlier later := by
  have names : (wrapperMethods shapes).map Prod.fst = methodNames [] shapes := by
    rw [wrapperMethods, List.map_fst_zip]
    exact Nat.le_of_eq (length_methodNames [] shapes)
  have none_taken : ∀ shape ∈ shapes, shape.functionName ∈ ([] : List String) →
      shape.functionName ∈ shortVerbs :=
    fun _ _ held => absurd held List.not_mem_nil
  rw [names]
  simpa using nodup_methodNames_and_iff distinct none_taken

/-- The shape of a read of to-dos under some name. -/
def readShape (name : String) : ActionShape :=
  .of { id := "Todo", actions := [{ name := "read", kind := .read }] }
    { name := "read", kind := .read } { name := name, action := "read" }

/-- The methods for reads of to-dos differ: the action that is called by nothing but the verb comes
first, and the others are named like their functions. -/
theorem reads_methods_differ :
    ((["list", "list_todos", "list_pages", "search"].map readShape).map
        ActionShape.functionName).Nodup ∧
      ((wrapperMethods (["list", "list_todos", "list_pages", "search"].map readShape)).map
        Prod.fst).Nodup := by
  have distinct : ((["list", "list_todos", "list_pages", "search"].map readShape).map
      ActionShape.functionName).Nodup := by
    decide +kernel
  exact ⟨distinct, (method_names_distinct_iff distinct).mpr (by decide +kernel)⟩

/-- **The verb of one action is the name of the next one**, and both methods have it. -/
theorem list_taken_twice :
    (wrapperMethods (["list_todos", "list"].map readShape)).map Prod.fst = ["list", "list"] ∧
      ¬∀ (shapes : List ActionShape), (shapes.map (·.rpcName)).Nodup →
        (shapes.map ActionShape.functionName).Nodup →
          ((wrapperMethods shapes).map Prod.fst).Nodup := by
  have both : (wrapperMethods (["list_todos", "list"].map readShape)).map Prod.fst =
      ["list", "list"] := by
    decide +kernel
  refine ⟨both, fun claimed => ?_⟩
  have differ := claimed (["list_todos", "list"].map readShape) (by decide +kernel)
    (by decide +kernel)
  rw [both] at differ
  exact absurd differ (by decide)

end TypedRpc
