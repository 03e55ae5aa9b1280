import TypedRpc.Proofs.Client.Plan
import TypedRpc.Proofs.Client.Switches
import TypedRpc.Proofs.Verification.RpcConfig

/-!
# Layouts of clients

The text of a client is laid out as a banner, imports and the sections that hold something.  What
switches change is seen there: they add sections and imports of their own, and change nothing else.

* `Plan.result_clientText`: the text of a client is that of its layout.
* `generate_switched`: clients under different switches.
-/

namespace TypedRpc

open Text (joinBlocks joinLines)

/-! ## Layouts -/

/-- What the text of a client is put together from.  A section has a title and a body. -/
structure Layout where
  header : String
  imports : List String
  sections : List (String × String)

/-- A section as it is written. -/
def sectionText (shown : String × String) : String :=
  "// " ++ shown.1 ++ "\n\n" ++ shown.2

/-- The text of a layout. -/
def Layout.text (layout : Layout) : String :=
  joinBlocks (layout.header :: joinLines layout.imports :: layout.sections.map sectionText) ++ "\n"

/-- A section with its title, unless it holds nothing. -/
def Section.shown? (part : Section) : Except Breakdown (Option (String × String)) :=
  part.body.result.map fun body => if body.isEmpty then none else some (part.title, body)

/-- The layout of the client for a plan. -/
def Plan.layout (plan : Plan) (schema : Schema) (options : Options) : Except Breakdown Layout :=
  ((plan.sections schema (.ofSchema schema options)).mapM Section.shown?).map fun shown =>
    ⟨Client.header (options.package schema.app), Client.imports options, shown.filterMap id⟩

theorem Section.result_render (part : Section) :
    part.render.result = part.shown?.map (Option.map sectionText) := by
  rw [render, Logged.result_bind, shown?]
  cases part.body.result with
  | error breakdown => rfl
  | ok body =>
    by_cases empty : body.isEmpty
    · simp [bind, Except.bind, Except.map, empty, Logged.andThen, Logged.line, pure]
    · simp [bind, Except.bind, Except.map, empty, Logged.andThen, Logged.line, pure, sectionText]

/-- The text of a client is that of its layout. -/
theorem Plan.result_clientText (plan : Plan) (schema : Schema) (options : Options) :
    (plan.clientText schema options).result = (plan.layout schema options).map Layout.text := by
  rw [clientText, Logged.result_bind, Logged.result_mapM, funext Section.result_render, mapM_map,
    layout]
  cases (plan.sections schema (.ofSchema schema options)).mapM Section.shown? with
  | error breakdown => rfl
  | ok shown =>
    have written : (shown.map (Option.map sectionText)).filterMap id =
        (shown.filterMap id).map sectionText := by
      rw [List.filterMap_map, List.map_filterMap]
      rfl
    simp only [Except.map, bind, Except.bind, pure, written, Layout.text, Client.importsText]

theorem result_generate (schema : Schema) (options : Options) :
    (generate schema options).result =
      Plan.make schema options >>= fun plan => (plan.render schema options).result := by
  rw [generate, Logged.result_bind]
  rfl

/-- Without faults a client is written by its layout. -/
theorem generate_of_layout {schema : Schema} {options : Options} {plan : Plan}
    (made : Plan.make schema options = .ok plan) (clean : plan.verification.faults = []) :
    (generate schema options).result =
      (plan.layout schema options).map fun layout => .ok layout.text := by
  rw [result_generate, made]
  have writes : plan.verification.hasFaults = false := by
    rw [Verification.hasFaults, clean]
    rfl
  show (plan.render schema options).result = _
  rw [Plan.render, writes, if_neg Bool.false_ne_true, Logged.result_bind, Plan.result_clientText]
  cases plan.layout schema options <;> rfl

/-! ## What switches add -/

/-- The titles of the sections that switches show. -/
def switchedTitles : List String :=
  ["Validation Types", "Validation Functions", "Channel Client"]

/-- A layout without what switches add. -/
def Layout.steady (layout : Layout) : Layout where
  header := layout.header
  imports := layout.imports.filter fun line => !Client.channelImports.contains line
  sections := layout.sections.filter fun shown => !switchedTitles.contains shown.1

/-- Whether a layout has what switches add only where they are on. -/
structure Layout.Obeys (layout : Layout) (options : Options) : Prop where
  validation : ∀ shown ∈ layout.sections,
    shown.1 = "Validation Types" ∨ shown.1 = "Validation Functions" →
      options.validationFunctions = true
  channel : ∀ shown ∈ layout.sections, shown.1 = "Channel Client" → options.channelClient = true
  imports : ∀ line ∈ Client.channelImports,
    line ∈ layout.imports ↔ options.channelClient = true

/-- What is left of a section that is shown, unless a switch shows it. -/
def steadySection (shown : Option (String × String)) : List (String × String) :=
  shown.toList.filter fun shown => !switchedTitles.contains shown.1

/-- What a section contributes to a layout without what switches add. -/
def Section.steady? (part : Section) : Except Breakdown (List (String × String)) :=
  part.shown?.map steadySection

/-- A section of a switch contributes nothing, whatever it holds. -/
theorem steady?_plain {title : String} (listed : title ∈ switchedTitles) (body : String) :
    (Section.plain title body).steady? = .ok [] := by
  by_cases empty : body.isEmpty
  · simp [Section.steady?, Section.shown?, Section.plain, steadySection, pure, Except.map, empty]
  · simp [Section.steady?, Section.shown?, Section.plain, steadySection, pure, Except.map, empty,
      listed]

theorem flatten_map_steadySection (shown : List (Option (String × String))) :
    (shown.map steadySection).flatten =
      (shown.filterMap id).filter fun shown => !switchedTitles.contains shown.1 := by
  induction shown with
  | nil => rfl
  | cons first rest ih =>
    rw [List.map_cons, List.flatten_cons, ih]
    cases first with
    | none => rfl
    | some first => exact (List.filter_append [first] (rest.filterMap id)).symm

/-- What switches leave of a layout is what they leave of its sections. -/
theorem steady_layout (plan : Plan) (schema : Schema) (options : Options) :
    (plan.layout schema options).map Layout.steady =
      ((plan.sections schema (.ofSchema schema options)).mapM Section.steady?).map fun steady =>
        ⟨Client.header (options.package schema.app),
          (Client.imports options).filter fun line => !Client.channelImports.contains line,
          steady.flatten⟩ := by
  have steady : Section.steady? = fun part => part.shown?.map steadySection := rfl
  rw [Plan.layout, steady, mapM_map]
  cases (plan.sections schema (.ofSchema schema options)).mapM Section.shown? with
  | error breakdown => rfl
  | ok shown => simp only [Except.map, Layout.steady, flatten_map_steadySection]

/-- What is done with each item is decided by what is done with it. -/
theorem mapM_congr_map {ε α β γ : Type} {f : α → Except ε γ} {g : β → Except ε γ} {items : List α}
    {others : List β} (same : items.map f = others.map g) : items.mapM f = others.mapM g := by
  induction items generalizing others with
  | nil =>
    rw [List.map_nil, eq_comm, List.map_eq_nil_iff] at same
    rw [same]
    rfl
  | cons item rest ih =>
    obtain ⟨other, others, rfl, first, more⟩ := List.map_eq_cons_iff.mp same.symm
    rw [List.mapM_cons, List.mapM_cons, first, ih more.symm]

namespace Plan

variable (plan : Plan) (schema : Schema) (typing : Typing) (switches : Switches)

theorem sections_switched :
    (plan.sections schema (typing.switched switches)).map Section.steady? =
      (plan.sections schema typing).map Section.steady? := by
  have validationTypes := @steady?_plain "Validation Types" (by decide)
  have validationFunctions := @steady?_plain "Validation Functions" (by decide)
  have channelClient := @steady?_plain "Channel Client" (by decide)
  simp only [sections, List.map_cons, List.map_nil, recordsText, unionsText, paginationText,
    inputsText, wrappersText, Typing.options_switched, Options.filterTypes_switched,
    Typing.record_switched, Typing.union_switched, Typing.pageResultText_switched,
    Typing.metadataText_switched, Typing.resultText_switched, Typing.inputText_switched,
    Typing.filterTypesText_switched, Typing.typedQueriesText_switched, Typing.actionText_switched,
    wrapperText_switched, validationTypes, validationFunctions, channelClient]

/-- What belongs to a switch that is off is empty. -/
theorem sections_obey : ∀ part ∈ plan.sections schema typing,
    (part.title = "Validation Types" ∨ part.title = "Validation Functions" →
      typing.options.validationFunctions = false → part.body.result = .ok "") ∧
    (part.title = "Channel Client" →
      typing.options.channelClient = false → part.body.result = .ok "") := by
  simp +contextual [sections, Section.plain, pure]

end Plan

/-! ## Imports -/

theorem steady_imports (options : Options) :
    ((Client.imports options).filter fun line => !Client.channelImports.contains line) =
      Client.coreImports options.datetimeLibrary ++
        if options.validationAnnotations then ["import javax.validation.constraints.*"]
        else [] := by
  unfold Client.imports
  cases options.datetimeLibrary <;> cases options.channelClient <;>
    cases options.validationAnnotations <;> decide

theorem mem_imports_iff {options : Options} :
    ∀ line ∈ Client.channelImports,
      line ∈ Client.imports options ↔ options.channelClient = true := by
  unfold Client.imports
  cases options.datetimeLibrary <;> cases options.channelClient <;>
    cases options.validationAnnotations <;> decide

/-! ## Whole clients -/

theorem Section.of_shown {part : Section} {shown : String × String}
    (given : part.shown? = .ok (some shown)) :
    part.title = shown.1 ∧ part.body.result = .ok shown.2 ∧ shown.2 ≠ "" := by
  unfold shown? at given
  cases held : part.body.result with
  | error breakdown =>
    rw [held] at given
    contradiction
  | ok body =>
    rw [held] at given
    by_cases empty : body.isEmpty
    · simp [Except.map, empty] at given
    · simp only [Except.map, empty, Bool.false_eq_true, if_false, Except.ok.injEq,
        Option.some.injEq] at given
      cases given
      exact ⟨rfl, rfl, by simpa using empty⟩

namespace Plan

variable {plan : Plan} {schema : Schema} {options : Options}

/-- **Switches change nothing but what they show**: without that, layouts are the same. -/
theorem layout_switched (plan : Plan) (schema : Schema) (options : Options) (switches : Switches) :
    (plan.layout schema (options.switched switches)).map Layout.steady =
      (plan.layout schema options).map Layout.steady := by
  rw [steady_layout, steady_layout, steady_imports, steady_imports, Options.package_switched,
    Typing.ofSchema_switched,
    mapM_congr_map (sections_switched plan schema (.ofSchema schema options) switches)]
  rfl

/-- What switches show stands in a layout only where they are on. -/
theorem obeys_layout {layout : Layout} (laid : plan.layout schema options = .ok layout) :
    layout.Obeys options := by
  unfold Plan.layout at laid
  cases each : (plan.sections schema (.ofSchema schema options)).mapM Section.shown? with
  | error breakdown =>
    rw [each] at laid
    contradiction
  | ok results =>
    rw [each] at laid
    cases laid
    -- A section that is shown is one of the sections, and it is not empty.
    have held : ∀ shown ∈ results.filterMap id,
        ∃ part ∈ plan.sections schema (.ofSchema schema options),
          part.title = shown.1 ∧ part.body.result ≠ .ok "" := by
      intro shown listed
      obtain ⟨_, listed, rfl⟩ := List.mem_filterMap.mp listed
      obtain ⟨part, here, given⟩ := exists_of_mem_results each listed
      obtain ⟨titled, body, present⟩ := Section.of_shown given
      exact ⟨part, here, titled, by rw [body]; simpa using present⟩
    refine ⟨fun shown listed title => ?_, fun shown listed title => ?_, mem_imports_iff⟩
    · obtain ⟨part, here, titled, present⟩ := held shown listed
      by_contra off
      exact present ((sections_obey plan schema _ part here).1 (titled ▸ title)
        (Bool.eq_false_iff.mpr off))
    · obtain ⟨part, here, titled, present⟩ := held shown listed
      by_contra off
      exact present ((sections_obey plan schema _ part here).2 (titled ▸ title)
        (Bool.eq_false_iff.mpr off))

/-- Switches turn warnings on and off, and leave the rest of a plan alone. -/
theorem make_switched (made : Plan.make schema options = .ok plan) (switches : Switches) :
    ∃ warnings, Plan.make schema (options.switched switches) =
      .ok { plan with verification := ⟨plan.verification.faults, warnings⟩ } := by
  obtain ⟨rpcConfig, checked, rfl⟩ := make_eq_ok_iff.mp made
  exact ⟨_, make_eq_ok_iff.mpr ⟨rpcConfig, checked, rfl⟩⟩

theorem faults_switched (schema : Schema) (options : Options) (switches : Switches) :
    (Plan.make schema (options.switched switches)).map (·.verification.faults) =
      (Plan.make schema options).map (·.verification.faults) := by
  unfold Plan.make verify
  dsimp only
  cases rpcConfigFaults schema schema.discovery <;> rfl

end Plan

/-- **Switches change nothing but what they show.**  Under other switches a schema has the same
faults.  When it has none, clients are written by their layouts, and these are the same without what
switches add, which they do only where they are on. -/
theorem generate_switched (schema : Schema) (options : Options) (switches : Switches) :
    (Plan.make schema (options.switched switches)).map (·.verification.faults) =
      (Plan.make schema options).map (·.verification.faults) ∧
    ∀ plan, Plan.make schema options = .ok plan → plan.verification.faults = [] →
      (generate schema options).result =
        (plan.layout schema options).map (fun layout => .ok layout.text) ∧
      (generate schema (options.switched switches)).result =
        (plan.layout schema (options.switched switches)).map (fun layout => .ok layout.text) ∧
      (plan.layout schema (options.switched switches)).map Layout.steady =
        (plan.layout schema options).map Layout.steady ∧
      (∀ layout, plan.layout schema options = .ok layout → layout.Obeys options) ∧
      ∀ layout, plan.layout schema (options.switched switches) = .ok layout →
        layout.Obeys (options.switched switches) := by
  refine ⟨Plan.faults_switched schema options switches, fun plan made clean => ?_⟩
  obtain ⟨warnings, other⟩ := Plan.make_switched made switches
  have written := generate_of_layout other clean
  exact ⟨generate_of_layout made clean, written,
    Plan.layout_switched plan schema options switches, fun _ => Plan.obeys_layout,
    fun _ => Plan.obeys_layout⟩

end TypedRpc
