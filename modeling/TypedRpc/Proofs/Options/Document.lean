import TypedRpc.Proofs.Options.Keys
import TypedRpc.Proofs.Schema.Reading
import TypedRpc.Proofs.Yaml.Reader

/-!
# What options are read as

Options are read off a map, key by key, and each key has a kind of values of its own.  What is read
depends on what stands under which key, not on where it stands, so options that are written down in
any order are read back.

* `Options.Acceptable`: the maps that are read, with `Options.ofDocument_isOk_iff`.
* `Options.Describes`: the options that a map gives, with `Options.ofDocument_eq_ok_iff`.
* `Options.ofDocument_perm`: the order of the keys does not matter.
* `Options.ofDocument_of_whole`: options that are written down are read back.
* `Options.keyed_maps_read`: these together, for the maps that texts stand for.
-/

namespace TypedRpc
namespace Options

/-! ## Keys and their values -/

/-- The keys under which texts stand. -/
def stringKeys : List String :=
  ["output-file", "package-name", "run-endpoint", "validate-endpoint", "untyped-map-type"]

/-- The keys under which switches stand. -/
def switchKeys : List String := [
  "generate-filter-types", "generate-validation-annotations", "generate-validation-functions",
  "generate-channel-client", "warn-on-missing-rpc-config", "warn-on-non-rpc-references"]

/-- The keys under which words of a vocabulary stand, and the words. -/
def wordKeys : List (String × List String) := [
  ("input-field-formatter", Vocabulary.words Naming.WireFormat),
  ("output-field-formatter", Vocabulary.words Naming.WireFormat),
  ("datetime-library", Vocabulary.words DatetimeLibrary),
  ("nullable-strategy", Vocabulary.words NullableStrategy)]

/-- Every known key is of one kind. -/
theorem knownKeys_eq : knownKeys =
    stringKeys ++ switchKeys ++ wordKeys.map Prod.fst ++ ["type-mapping-overrides"] :=
  rfl

/-- Whether a document is a map that gives a type override. -/
def IsOverride (document : Document) (override : TypeOverride) : Prop :=
  ∃ found, document.content = .map found ∧
    Value.field? found "source" = some (.text override.source) ∧
    Value.field? found "target" = some (.text override.target)

/-- Whether a document is a list that gives type overrides, in their order. -/
def AreOverrides (document : Document) (overrides : List TypeOverride) : Prop :=
  ∃ items, document.content = .list items ∧
    List.Forall₂ (fun item override => IsOverride (document.within item) override) items overrides

/-- Whether the values in a map of texts to values of a document are of the kinds of their keys, all
of which are known. -/
structure Acceptable (document : Document) (fields : List (String × Value)) : Prop where
  known : ∀ key ∈ fields.map Prod.fst, key ∈ knownKeys
  texts : ∀ key ∈ stringKeys, ∀ held, (key, held) ∈ fields → ∃ text, held = .text text
  switches : ∀ key ∈ switchKeys, ∀ held, (key, held) ∈ fields → ∃ on, held = .bool on
  words : ∀ entry ∈ wordKeys, ∀ held, (entry.1, held) ∈ fields →
    ∃ word ∈ entry.2, held = .text word
  overrides : ∀ held, ("type-mapping-overrides", held) ∈ fields →
    ∃ overrides, AreOverrides (document.within held) overrides

/-- Whether an option is what the value under its key means, or has its default without one. -/
structure Gives {α : Type} (fields : List (String × Value)) (key : String)
    (means : Value → α → Prop) (missing option : α) : Prop where
  given : ∀ held, (key, held) ∈ fields → means held option
  absent : key ∉ fields.map Prod.fst → option = missing

/-- A value that means a text. -/
def IsText (held : Value) (text : String) : Prop :=
  held = .text text

/-- A value that means a switch. -/
def IsSwitch (held : Value) (on : Bool) : Prop :=
  held = .bool on

/-- A value that means a member of a vocabulary. -/
def IsWord {α : Type} [Vocabulary α] (held : Value) (member : α) : Prop :=
  held = .text (Vocabulary.word member)

/-- Whether options are those that a map of texts to values of a document gives. -/
structure Describes (document : Document) (fields : List (String × Value)) (options : Options) :
    Prop where
  outputFile : Gives fields "output-file" IsText "lib/generated/Rpc.kt" options.outputFile
  packageName : Gives fields "package-name" (fun held name => ∃ text, IsText held text ∧
    name = some text) none options.packageName
  runEndpoint : Gives fields "run-endpoint" IsText "/rpc/run" options.runEndpoint
  validateEndpoint : Gives fields "validate-endpoint" IsText "/rpc/validate"
    options.validateEndpoint
  untypedMapType : Gives fields "untyped-map-type" IsText "Map<String, Any?>"
    options.untypedMapType
  filterTypes : Gives fields "generate-filter-types" IsSwitch false options.filterTypes
  validationAnnotations : Gives fields "generate-validation-annotations" IsSwitch false
    options.validationAnnotations
  validationFunctions : Gives fields "generate-validation-functions" IsSwitch true
    options.validationFunctions
  channelClient : Gives fields "generate-channel-client" IsSwitch true options.channelClient
  warnOnMissingRpc : Gives fields "warn-on-missing-rpc-config" IsSwitch true
    options.warnOnMissingRpc
  warnOnNonRpcReferences : Gives fields "warn-on-non-rpc-references" IsSwitch true
    options.warnOnNonRpcReferences
  inputFormat : Gives fields "input-field-formatter" IsWord .camelCase options.inputFormat
  outputFormat : Gives fields "output-field-formatter" IsWord .camelCase options.outputFormat
  datetimeLibrary : Gives fields "datetime-library" IsWord .kotlinx options.datetimeLibrary
  nullableStrategy : Gives fields "nullable-strategy" IsWord .explicit options.nullableStrategy
  typeOverrides : Gives fields "type-mapping-overrides"
    (fun held overrides => AreOverrides (document.within held) overrides) [] options.typeOverrides

/-! ## Single options -/

theorem field?_entries (document : Document) (found : List (Value × Value)) (key : String) :
    Value.field? (document.entries found) key =
      (Value.field? found key).map document.within := by
  rw [Value.field?, Value.find?, Document.entries, List.find?_map, Option.map_map, Value.field?,
    Value.find?, Option.map_map]
  rfl

/-- The entries of a map of texts to values of a document. -/
def fieldEntries (document : Document) (fields : List (String × Value)) : Entries :=
  document.entries (fields.map fun field => (.text field.1, field.2))

theorem field?_fieldEntries (document : Document) (fields : List (String × Value)) (key : String) :
    Value.field? (fieldEntries document fields) key =
      (fields.lookup key).map document.within := by
  rw [fieldEntries, field?_entries, Checked.field?_texts]

section Tables

variable {α : Type} {fields : List (String × Value)} {key : String} {means : Value → α → Prop}
  (distinct : (fields.map Prod.fst).Nodup)

include distinct

/-- What a map gives is decided by the only value under the key. -/
theorem gives_iff {missing option : α} :
    Gives fields key means missing option ↔
      match fields.lookup key with
      | none => option = missing
      | some held => means held option := by
  cases under : fields.lookup key with
  | none =>
    have absent : key ∉ fields.map Prod.fst := by
      rw [← isSome_lookup_iff, under]
      exact Bool.false_ne_true
    exact ⟨fun gives => gives.absent absent, fun same =>
      ⟨fun held listed => absurd (List.mem_map_of_mem listed) absent, fun _ => same⟩⟩
  | some held =>
    have listed := mem_of_lookup_eq_some under
    refine ⟨fun gives => gives.given held listed, fun meant => ⟨fun other there => ?_, fun absent =>
      absurd (List.mem_map_of_mem listed) absent⟩⟩
    rw [lookup_eq_some_of_mem distinct there] at under
    cases under
    exact meant

/-- A map gives what the value under a key means. -/
theorem gives_of_lookup {missing option : α} {held : Value} (found : fields.lookup key = some held)
    (meant : means held option) : Gives fields key means missing option := by
  rw [gives_iff distinct, found]
  exact meant

/-- A map gives something when the value under the key means something. -/
theorem exists_gives_iff (missing : α) :
    (∃ option, Gives fields key means missing option) ↔
      ∀ held, (key, held) ∈ fields → ∃ option, means held option := by
  constructor
  · exact fun ⟨option, gives⟩ held listed => ⟨option, gives.given held listed⟩
  · intro meant
    simp only [gives_iff distinct]
    cases under : fields.lookup key with
    | none => exact ⟨missing, rfl⟩
    | some held => exact meant held (mem_of_lookup_eq_some under)

end Tables

/-- Whether an option is read off a map: nothing if its key is absent, or what the value under the
key means. -/
def ReadsOff {α : Type} (fields : List (String × Value)) (key : String) (means : Value → α → Prop)
    (read : Except OptionsFault (Option α)) : Prop :=
  ∀ found, read = .ok found ↔
    match fields.lookup key with
    | none => found = none
    | some held => ∃ option, means held option ∧ found = some option

namespace ReadsOff

variable {α : Type} {fields : List (String × Value)} {key : String} {means : Value → α → Prop}
  {read : Except OptionsFault (Option α)} (off : ReadsOff fields key means read)
  (distinct : (fields.map Prod.fst).Nodup)

include off distinct

/-- What is read, or else the default, is what the map gives. -/
theorem gives {missing : α} {found : Option α} (result : read = .ok found) :
    Gives fields key means missing (found.getD missing) := by
  rw [gives_iff distinct]
  have under := (off found).mp result
  cases held : fields.lookup key with
  | none =>
    rw [held] at under
    rw [under]
    rfl
  | some value =>
    rw [held] at under
    obtain ⟨option, meant, rfl⟩ := under
    exact meant

/-- What the map gives is read. -/
theorem of_gives {missing option : α} (gives : Gives fields key means missing option) :
    ∃ found, read = .ok found ∧ found.getD missing = option := by
  rw [gives_iff distinct] at gives
  simp only [off _]
  cases held : fields.lookup key with
  | none =>
    rw [held] at gives
    exact ⟨none, rfl, gives.symm⟩
  | some value =>
    rw [held] at gives
    exact ⟨some option, ⟨option, gives, rfl⟩, rfl⟩

/-- An option that has no default is read as the map gives it. -/
theorem eq_ok_iff {option : Option α} :
    read = .ok option ↔
      Gives fields key (fun held given => ∃ a, means held a ∧ given = some a) none option := by
  rw [gives_iff distinct, off option]

end ReadsOff

/-- What a value is read as under a key for texts. -/
def readText (key : String) : Value → Except OptionsFault String
  | .text text => .ok text
  | _ => .error (.notText key)

/-- What a value is read as under a key for switches. -/
def readSwitch (key : String) : Value → Except OptionsFault Bool
  | .bool on => .ok on
  | _ => .error (.notSwitch key)

/-- What a value is read as under a key for words. -/
def readWord (α : Type) [Vocabulary α] (key : String) : Value → Except OptionsFault α
  | .text word =>
    match Vocabulary.ofWord? word with
    | some member => .ok member
    | none => .error (.notAWord key (Vocabulary.words α))
  | _ => .error (.notAWord key (Vocabulary.words α))

/-- What a document is read as under the key for overrides. -/
def readOverrides (document : Document) : Except OptionsFault (List TypeOverride) :=
  match document.content with
  | .list items => overridesFrom 0 (document.items items)
  | _ => .error .overridesNotList

/-- What is read of a value is read off the map that holds it. -/
theorem readsOff_of {α : Type} {fields : List (String × Value)} {key : String}
    {means : Value → α → Prop} {read : Except OptionsFault (Option α)}
    (of : Value → Except OptionsFault α)
    (read_eq : read = match fields.lookup key with
      | none => .ok none
      | some held => (of held).map some)
    (meant : ∀ held option, of held = .ok option ↔ means held option) :
    ReadsOff fields key means read := by
  intro found
  rw [read_eq]
  cases fields.lookup key with
  | none => exact ⟨fun same => (Except.ok.inj same).symm, fun same => congrArg _ same.symm⟩
  | some held =>
    rw [map_eq_ok_iff]
    simp only [meant, eq_comm]

section Readers

variable (document : Document) (fields : List (String × Value)) (key : String)

theorem textOption_readsOff : ReadsOff fields key IsText
    (textOption (fieldEntries document fields) key) := by
  refine readsOff_of (readText key) ?_ fun held text => ?_
  · rw [textOption, field?_fieldEntries]
    cases fields.lookup key with
    | none => rfl
    | some held => cases held <;> rfl
  · cases held <;> simp [readText, IsText]

theorem switchOption_readsOff : ReadsOff fields key IsSwitch
    (switchOption (fieldEntries document fields) key) := by
  refine readsOff_of (readSwitch key) ?_ fun held on => ?_
  · rw [switchOption, field?_fieldEntries]
    cases fields.lookup key with
    | none => rfl
    | some held => cases held <;> rfl
  · cases held <;> simp [readSwitch, IsSwitch]

/-- A word stands for the member that has it. -/
theorem ofWord?_eq_some_iff {α : Type} [Vocabulary α] (faithful : Checked.Faithful α)
    {word : String} {member : α} :
    Vocabulary.ofWord? word = some member ↔ word = Vocabulary.word member := by
  constructor
  · intro named
    unfold Vocabulary.ofWord? at named
    have same := List.find?_some named
    exact (beq_iff_eq.mp same).symm
  · rintro rfl
    exact faithful member

theorem wordOption_readsOff {α : Type} [Vocabulary α] (faithful : Checked.Faithful α) :
    ReadsOff fields key IsWord (wordOption α
      (fieldEntries document fields) key) := by
  refine readsOff_of (readWord α key) ?_ fun held member => ?_
  · rw [wordOption, field?_fieldEntries]
    cases fields.lookup key with
    | none => rfl
    | some held =>
      cases held with
      | text word =>
        simp only [Option.map_some, Document.within, readWord]
        cases Vocabulary.ofWord? (α := α) word <;> rfl
      | _ => rfl
  · cases held with
    | text word =>
      simp only [readWord, IsWord, Value.text.injEq, ← ofWord?_eq_some_iff faithful]
      cases Vocabulary.ofWord? (α := α) word <;> simp
    | _ => simp [readWord, IsWord]

theorem overrideText_eq_ok_iff {found : List (Value × Value)} {name text : String} :
    overrideText (document.entries found) name = .ok text ↔
      Value.field? found name = some (.text text) := by
  rw [overrideText, field?_entries]
  cases Value.field? found name with
  | none => simp
  | some held => cases held <;> simp [Document.within]

theorem overrideOf_eq_ok_iff {document : Document} {override : TypeOverride} :
    overrideOf document = .ok override ↔ IsOverride document override := by
  unfold overrideOf IsOverride
  cases document.content with
  | map found =>
    dsimp only
    constructor
    · intro read
      split at read
      · cases read
      · split at read
        · cases read
        · obtain ⟨source, hasSource, read⟩ := bind_eq_ok_iff.mp read
          obtain ⟨target, hasTarget, same⟩ := bind_eq_ok_iff.mp read
          cases same
          exact ⟨found, rfl, (overrideText_eq_ok_iff document).mp hasSource,
            (overrideText_eq_ok_iff document).mp hasTarget⟩
    · rintro ⟨_, same, hasSource, hasTarget⟩
      cases same
      rw [if_neg (by simp [field?_entries, hasSource]),
        if_neg (by simp [field?_entries, hasTarget])]
      exact bind_eq_ok_iff.mpr ⟨_, (overrideText_eq_ok_iff document).mpr hasSource,
        bind_eq_ok_iff.mpr ⟨_, (overrideText_eq_ok_iff document).mpr hasTarget, rfl⟩⟩
  | _ => exact ⟨nofun, fun ⟨_, same, _⟩ => nomatch same⟩

theorem overridesFrom_eq_ok_iff {index : Nat} {documents : List Document}
    {overrides : List TypeOverride} :
    overridesFrom index documents = .ok overrides ↔
      List.Forall₂ IsOverride documents overrides := by
  induction documents generalizing index overrides with
  | nil =>
    rw [overridesFrom, List.forall₂_nil_left_iff]
    exact ⟨fun same => (Except.ok.inj same).symm, fun same => congrArg _ same.symm⟩
  | cons document rest ih =>
    rw [overridesFrom, List.forall₂_cons_left_iff]
    simp only [bind_eq_ok_iff, mapError_eq_ok_iff, overrideOf_eq_ok_iff, ih]
    constructor
    · rintro ⟨first, here, others, there, done⟩
      cases done
      exact ⟨first, others, here, there, rfl⟩
    · rintro ⟨first, others, here, there, rfl⟩
      exact ⟨first, here, others, there, rfl⟩

theorem overridesOption_readsOff : ReadsOff fields "type-mapping-overrides"
    (fun held overrides => AreOverrides (document.within held) overrides)
    (overridesOption (fieldEntries document fields)) := by
  refine readsOff_of (fun held => readOverrides (document.within held)) ?_ fun held overrides => ?_
  · rw [overridesOption, field?_fieldEntries]
    cases fields.lookup "type-mapping-overrides" with
    | none => rfl
    | some held =>
      simp only [Option.map_some, readOverrides]
      cases (document.within held).content <;> rfl
  · unfold readOverrides AreOverrides
    cases (document.within held).content with
    | list items =>
      simp only [overridesFrom_eq_ok_iff, Document.items, List.forall₂_map_left_iff]
      constructor
      · exact fun each => ⟨items, rfl, each⟩
      · rintro ⟨_, same, each⟩
        cases same
        exact each
    | _ =>
      constructor
      · intro read
        cases read
      · rintro ⟨_, same, -⟩
        cases same

end Readers

/-! ## All options -/

section Keyed

variable {document : Document} {fields : List (String × Value)} {options : Options}
  (distinct : (fields.map Prod.fst).Nodup)

/-- The words of a vocabulary are those of its members. -/
theorem exists_isWord_iff {α : Type} [Vocabulary α] (faithful : Checked.Faithful α) {held : Value} :
    (∃ member : α, IsWord held member) ↔ ∃ word ∈ Vocabulary.words α, held = .text word := by
  constructor
  · rintro ⟨member, rfl⟩
    exact ⟨_, List.mem_map_of_mem (List.mem_of_find?_eq_some (faithful member)), rfl⟩
  · rintro ⟨word, listed, rfl⟩
    obtain ⟨member, -, rfl⟩ := List.mem_map.mp listed
    exact ⟨member, rfl⟩

theorem faithful_wireFormat : Checked.Faithful Naming.WireFormat := by
  intro member
  cases member <;> rfl

theorem faithful_datetimeLibrary : Checked.Faithful DatetimeLibrary := by
  intro member
  cases member <;> rfl

theorem faithful_nullableStrategy : Checked.Faithful NullableStrategy := by
  intro member
  cases member <;> rfl

include distinct

/-- **The options that are read off a map are those that it gives.** -/
theorem ofEntries_eq_ok_iff :
    ofEntries (fieldEntries document fields) = .ok options ↔
      Describes document fields options := by
  have text := textOption_readsOff document fields
  have switch := switchOption_readsOff document fields
  have wire (key : String) := wordOption_readsOff document fields key faithful_wireFormat
  have library := wordOption_readsOff document fields "datetime-library" faithful_datetimeLibrary
  have strategy := wordOption_readsOff document fields "nullable-strategy" faithful_nullableStrategy
  have overrides := overridesOption_readsOff document fields
  unfold ofEntries
  simp only [bind_eq_ok_iff]
  constructor
  · rintro ⟨_, outputFile, _, packageName, _, runEndpoint, _, validateEndpoint, _, untypedMapType,
      _, filterTypes, _, validationAnnotations, _, validationFunctions, _, channelClient,
      _, warnOnMissingRpc, _, warnOnNonRpcReferences, _, inputFormat, _, outputFormat,
      _, datetimeLibrary, _, nullableStrategy, _, typeOverrides, done⟩
    cases done
    exact {
      outputFile := (text _).gives distinct outputFile
      packageName := ((text _).eq_ok_iff distinct).mp packageName
      runEndpoint := (text _).gives distinct runEndpoint
      validateEndpoint := (text _).gives distinct validateEndpoint
      untypedMapType := (text _).gives distinct untypedMapType
      filterTypes := (switch _).gives distinct filterTypes
      validationAnnotations := (switch _).gives distinct validationAnnotations
      validationFunctions := (switch _).gives distinct validationFunctions
      channelClient := (switch _).gives distinct channelClient
      warnOnMissingRpc := (switch _).gives distinct warnOnMissingRpc
      warnOnNonRpcReferences := (switch _).gives distinct warnOnNonRpcReferences
      inputFormat := (wire _).gives distinct inputFormat
      outputFormat := (wire _).gives distinct outputFormat
      datetimeLibrary := library.gives distinct datetimeLibrary
      nullableStrategy := strategy.gives distinct nullableStrategy
      typeOverrides := overrides.gives distinct typeOverrides }
  · intro given
    obtain ⟨_, outputFile, outputFile_eq⟩ := (text _).of_gives distinct given.outputFile
    have packageName := ((text _).eq_ok_iff distinct).mpr given.packageName
    obtain ⟨_, runEndpoint, runEndpoint_eq⟩ := (text _).of_gives distinct given.runEndpoint
    obtain ⟨_, validateEndpoint, validateEndpoint_eq⟩ :=
      (text _).of_gives distinct given.validateEndpoint
    obtain ⟨_, untypedMapType, untypedMapType_eq⟩ := (text _).of_gives distinct given.untypedMapType
    obtain ⟨_, filterTypes, filterTypes_eq⟩ := (switch _).of_gives distinct given.filterTypes
    obtain ⟨_, validationAnnotations, validationAnnotations_eq⟩ :=
      (switch _).of_gives distinct given.validationAnnotations
    obtain ⟨_, validationFunctions, validationFunctions_eq⟩ :=
      (switch _).of_gives distinct given.validationFunctions
    obtain ⟨_, channelClient, channelClient_eq⟩ := (switch _).of_gives distinct given.channelClient
    obtain ⟨_, warnOnMissingRpc, warnOnMissingRpc_eq⟩ :=
      (switch _).of_gives distinct given.warnOnMissingRpc
    obtain ⟨_, warnOnNonRpcReferences, warnOnNonRpcReferences_eq⟩ :=
      (switch _).of_gives distinct given.warnOnNonRpcReferences
    obtain ⟨_, inputFormat, inputFormat_eq⟩ := (wire _).of_gives distinct given.inputFormat
    obtain ⟨_, outputFormat, outputFormat_eq⟩ := (wire _).of_gives distinct given.outputFormat
    obtain ⟨_, datetimeLibrary, datetimeLibrary_eq⟩ :=
      library.of_gives distinct given.datetimeLibrary
    obtain ⟨_, nullableStrategy, nullableStrategy_eq⟩ :=
      strategy.of_gives distinct given.nullableStrategy
    obtain ⟨_, typeOverrides, typeOverrides_eq⟩ := overrides.of_gives distinct given.typeOverrides
    refine ⟨_, outputFile, _, packageName, _, runEndpoint, _, validateEndpoint, _, untypedMapType,
      _, filterTypes, _, validationAnnotations, _, validationFunctions, _, channelClient,
      _, warnOnMissingRpc, _, warnOnNonRpcReferences, _, inputFormat, _, outputFormat,
      _, datetimeLibrary, _, nullableStrategy, _, typeOverrides, ?_⟩
    rw [outputFile_eq, runEndpoint_eq, validateEndpoint_eq, untypedMapType_eq, filterTypes_eq,
      validationAnnotations_eq, validationFunctions_eq, channelClient_eq, warnOnMissingRpc_eq,
      warnOnNonRpcReferences_eq, inputFormat_eq, outputFormat_eq, datetimeLibrary_eq,
      nullableStrategy_eq, typeOverrides_eq]
    rfl

/-- **A map gives options exactly when its values are of the kinds of their keys.** -/
theorem exists_describes_iff (known : ∀ key ∈ fields.map Prod.fst, key ∈ knownKeys) :
    (∃ options, Describes document fields options) ↔ Acceptable document fields := by
  constructor
  · rintro ⟨options, given⟩
    refine ⟨known, ?_, ?_, ?_, fun held listed => ⟨_, given.typeOverrides.given held listed⟩⟩
    · simp only [stringKeys, List.forall_mem_cons]
      exact ⟨fun held listed => ⟨_, given.outputFile.given held listed⟩,
        fun held listed => (given.packageName.given held listed).imp fun _ => And.left,
        fun held listed => ⟨_, given.runEndpoint.given held listed⟩,
        fun held listed => ⟨_, given.validateEndpoint.given held listed⟩,
        fun held listed => ⟨_, given.untypedMapType.given held listed⟩, List.forall_mem_nil _⟩
    · simp only [switchKeys, List.forall_mem_cons]
      exact ⟨fun held listed => ⟨_, given.filterTypes.given held listed⟩,
        fun held listed => ⟨_, given.validationAnnotations.given held listed⟩,
        fun held listed => ⟨_, given.validationFunctions.given held listed⟩,
        fun held listed => ⟨_, given.channelClient.given held listed⟩,
        fun held listed => ⟨_, given.warnOnMissingRpc.given held listed⟩,
        fun held listed => ⟨_, given.warnOnNonRpcReferences.given held listed⟩,
        List.forall_mem_nil _⟩
    · simp only [wordKeys, List.forall_mem_cons]
      exact ⟨fun held listed => (exists_isWord_iff faithful_wireFormat).mp
          ⟨_, given.inputFormat.given held listed⟩,
        fun held listed => (exists_isWord_iff faithful_wireFormat).mp
          ⟨_, given.outputFormat.given held listed⟩,
        fun held listed => (exists_isWord_iff faithful_datetimeLibrary).mp
          ⟨_, given.datetimeLibrary.given held listed⟩,
        fun held listed => (exists_isWord_iff faithful_nullableStrategy).mp
          ⟨_, given.nullableStrategy.given held listed⟩, List.forall_mem_nil _⟩
  · intro acceptable
    obtain ⟨outputFile, packageName, runEndpoint, validateEndpoint, untypedMapType, -⟩ := by
      simpa only [stringKeys, List.forall_mem_cons] using acceptable.texts
    obtain ⟨filterTypes, validationAnnotations, validationFunctions, channelClient,
      warnOnMissingRpc, warnOnNonRpcReferences, -⟩ := by
      simpa only [switchKeys, List.forall_mem_cons] using acceptable.switches
    obtain ⟨inputFormat, outputFormat, datetimeLibrary, nullableStrategy, -⟩ := by
      simpa only [wordKeys, List.forall_mem_cons, ← exists_isWord_iff faithful_wireFormat,
        ← exists_isWord_iff faithful_datetimeLibrary,
        ← exists_isWord_iff faithful_nullableStrategy] using acceptable.words
    have package : ∀ held, ("package-name", held) ∈ fields →
        ∃ name, ∃ text, IsText held text ∧ name = some text :=
      fun held listed => (packageName held listed).elim fun text same => ⟨_, text, same, rfl⟩
    obtain ⟨_, outputFile⟩ := (exists_gives_iff distinct _).mpr outputFile
    obtain ⟨_, packageName⟩ := (exists_gives_iff distinct _).mpr package
    obtain ⟨_, runEndpoint⟩ := (exists_gives_iff distinct _).mpr runEndpoint
    obtain ⟨_, validateEndpoint⟩ := (exists_gives_iff distinct _).mpr validateEndpoint
    obtain ⟨_, untypedMapType⟩ := (exists_gives_iff distinct _).mpr untypedMapType
    obtain ⟨_, filterTypes⟩ := (exists_gives_iff distinct _).mpr filterTypes
    obtain ⟨_, validationAnnotations⟩ := (exists_gives_iff distinct _).mpr validationAnnotations
    obtain ⟨_, validationFunctions⟩ := (exists_gives_iff distinct _).mpr validationFunctions
    obtain ⟨_, channelClient⟩ := (exists_gives_iff distinct _).mpr channelClient
    obtain ⟨_, warnOnMissingRpc⟩ := (exists_gives_iff distinct _).mpr warnOnMissingRpc
    obtain ⟨_, warnOnNonRpcReferences⟩ := (exists_gives_iff distinct _).mpr warnOnNonRpcReferences
    obtain ⟨_, inputFormat⟩ := (exists_gives_iff distinct _).mpr inputFormat
    obtain ⟨_, outputFormat⟩ := (exists_gives_iff distinct _).mpr outputFormat
    obtain ⟨_, datetimeLibrary⟩ := (exists_gives_iff distinct _).mpr datetimeLibrary
    obtain ⟨_, nullableStrategy⟩ := (exists_gives_iff distinct _).mpr nullableStrategy
    obtain ⟨_, typeOverrides⟩ := (exists_gives_iff distinct _).mpr acceptable.overrides
    exact ⟨⟨_, _, _, _, _, _, _, _, _, _, _, _, _, _, _, _⟩, outputFile, packageName, runEndpoint,
      validateEndpoint, untypedMapType, filterTypes, validationAnnotations, validationFunctions,
      channelClient, warnOnMissingRpc, warnOnNonRpcReferences, inputFormat, outputFormat,
      datetimeLibrary, nullableStrategy, typeOverrides⟩

omit distinct in
theorem ofDocument_record (content : document.content = .record fields) :
    ofDocument document = (checkKeys ((fields.map Prod.fst).map .text) >>= fun _ =>
      (ofEntries (fieldEntries document fields)).mapError .refused) := by
  rw [ofDocument, content, Value.record]
  dsimp only
  rw [List.map_map, List.map_map]
  rfl

/-- **What a document with a map of texts is read as.** -/
theorem ofDocument_eq_ok_iff (content : document.content = .record fields) :
    ofDocument document = .ok options ↔
      (∀ key ∈ fields.map Prod.fst, key ∈ knownKeys) ∧ Describes document fields options := by
  rw [ofDocument_record content, bind_eq_ok_iff, checkKeys_texts]
  simp only [mapError_eq_ok_iff, ofEntries_eq_ok_iff distinct]
  by_cases known : unknownNames (fields.map Prod.fst) = []
  · rw [if_pos known]
    exact ⟨fun ⟨_, _, given⟩ => ⟨unknownNames_eq_nil_iff.mp known, given⟩,
      fun given => ⟨(), rfl, given.2⟩⟩
  · rw [if_neg known]
    exact ⟨fun ⟨_, refused, _⟩ => (nomatch refused),
      fun given => absurd (unknownNames_eq_nil_iff.mpr given.1) known⟩

/-- A document with a map of texts is read exactly when its values are of the kinds of their
keys. -/
theorem ofDocument_isOk_iff (content : document.content = .record fields) :
    (∃ options, ofDocument document = .ok options) ↔ Acceptable document fields := by
  simp only [ofDocument_eq_ok_iff distinct content, exists_and_left]
  constructor
  · rintro ⟨known, given⟩
    exact (exists_describes_iff distinct known).mp given
  · intro acceptable
    exact ⟨acceptable.known, (exists_describes_iff distinct acceptable.known).mpr acceptable⟩

/-! ## The order of the keys -/

theorem lookup_perm {reordered : List (String × Value)} (same : reordered.Perm fields)
    (key : String) : reordered.lookup key = fields.lookup key := by
  have also : (reordered.map Prod.fst).Nodup := (same.map Prod.fst).nodup_iff.mpr distinct
  refine Option.ext fun held => ?_
  constructor
  · exact fun found => lookup_eq_some_of_mem distinct
      (same.mem_iff.mp (mem_of_lookup_eq_some found))
  · exact fun found => lookup_eq_some_of_mem also
      (same.mem_iff.mpr (mem_of_lookup_eq_some found))

omit distinct in
/-- Options are read off what is found under their keys. -/
theorem ofEntries_congr {entries others : Entries}
    (same : ∀ key, Value.field? entries key = Value.field? others key) :
    ofEntries entries = ofEntries others := by
  unfold ofEntries
  simp only [textOption, switchOption, wordOption, overridesOption, same]

/-- **The order of the keys does not matter**, neither for what is read nor for what is reported. -/
theorem ofDocument_perm {other : Document} {reordered : List (String × Value)}
    (content : document.content = .record fields) (parts : other.parts = document.parts)
    (reorderedContent : other.content = .record reordered) (same : reordered.Perm fields) :
    ofDocument other = ofDocument document := by
  have within : other.within = document.within := by
    unfold Document.within
    rw [parts]
  rw [ofDocument_record content, ofDocument_record reorderedContent,
    checkKeys_perm (same.map Prod.fst)]
  refine congrArg (checkKeys _ >>= ·) (funext fun _ => congrArg (Except.mapError _) ?_)
  refine ofEntries_congr fun key => ?_
  rw [field?_fieldEntries, field?_fieldEntries, lookup_perm distinct same, within]

end Keyed

/-! ## Options that are written down -/

/-- Options are written down under all keys, but for that of a package that is not set. -/
theorem keys_entries (options : Options) : options.entries.map Prod.fst =
    if options.packageName.isSome then knownKeys else knownKeys.erase "package-name" := by
  unfold entries
  cases options.packageName <;> rfl

theorem nodup_knownKeys : knownKeys.Nodup := by
  decide

theorem nodup_keys_entries (options : Options) : (options.entries.map Prod.fst).Nodup := by
  rw [keys_entries]
  split
  · exact nodup_knownKeys
  · exact nodup_knownKeys.erase _

theorem known_of_mem_keys_entries {options : Options} {key : String}
    (listed : key ∈ options.entries.map Prod.fst) : key ∈ knownKeys := by
  rw [keys_entries] at listed
  split at listed
  · exact listed
  · exact List.mem_of_mem_erase listed

/-- Entries with the texts of other entries as their keys are entries with those keys. -/
theorem exists_fields_of_map_eq {found : List (Value × Value)} {fields : List (String × Value)}
    {shown : Value → Value}
    (same : found.map (fun entry => (entry.1, shown entry.2)) =
      fields.map fun field => (.text field.1, field.2)) :
    ∃ held : List (String × Value), found = held.map (fun field => (.text field.1, field.2)) ∧
      fields = held.map fun field => (field.1, shown field.2) := by
  induction found generalizing fields with
  | nil => exact ⟨[], rfl, List.map_eq_nil_iff.mp same.symm⟩
  | cons entry rest ih =>
    cases fields with
    | nil => cases same
    | cons field others =>
      obtain ⟨key, value⟩ := entry
      rw [List.map_cons, List.map_cons, List.cons.injEq, Prod.mk.injEq] at same
      obtain ⟨⟨rfl, shows⟩, same⟩ := same
      obtain ⟨held, rfl, rfl⟩ := ih same
      exact ⟨(field.1, value) :: held, rfl, by rw [List.map_cons, shows]⟩

section Written

variable {document : Document} (sound : document.Sound) {value : Value} {depth : Nat}
  {around : List Nat}

include sound

/-- A scalar that the whole shows under a key stands there. -/
theorem lookup_eq_scalar {held : List (String × Value)} {key : String} {shown : Value}
    (scalar : shown.IsScalar) (given : shown ≠ .null)
    (found : (held.map fun field =>
      (field.1, field.2.unfold document.parts depth around)).lookup key = some shown) :
    held.lookup key = some shown := by
  rw [lookup_map_value, Option.map_eq_some_iff] at found
  obtain ⟨there, found, whole⟩ := found
  rw [found, Value.unfold_eq_scalar sound scalar given whole]

/-- An override that is written down is given. -/
theorem isOverride_of_unfold {override : TypeOverride}
    (whole : value.unfold document.parts depth around = override.toValue) :
    IsOverride (document.within value) override := by
  obtain ⟨found, inner, beyond, content, same⟩ := Value.unfold_eq_map sound whole
  obtain ⟨held, rfl, shown⟩ := exists_fields_of_map_eq same
  have stands {key text : String} (there : (held.map fun field =>
      (field.1, field.2.unfold document.parts inner beyond)).lookup key = some (.text text)) :
      Value.field? (held.map fun field => (.text field.1, field.2)) key = some (.text text) := by
    rw [Checked.field?_texts]
    exact lookup_eq_scalar sound trivial nofun there
  rw [← shown] at stands
  exact ⟨_, content, stands rfl, stands rfl⟩

/-- Overrides that are written down are given, in their order. -/
theorem areOverrides_of_unfold {overrides : List TypeOverride}
    (whole : value.unfold document.parts depth around =
      .list (overrides.map TypeOverride.toValue)) :
    AreOverrides (document.within value) overrides := by
  obtain ⟨items, inner, beyond, content, same⟩ := Value.unfold_eq_list sound whole
  refine ⟨items, content, ?_⟩
  have paired : List.Forall₂ Eq (items.map (Value.unfold document.parts inner beyond))
      (overrides.map TypeOverride.toValue) := by
    rw [same, List.forall₂_eq_eq_eq]
  rw [List.forall₂_map_left_iff, List.forall₂_map_right_iff] at paired
  exact paired.imp fun item override => isOverride_of_unfold sound

/-- **Options that are written down are read back.**  The document may hold the entries in any order
and keep its collections under numbers. -/
theorem ofDocument_of_whole {options : Options} {fields : List (String × Value)}
    (whole : document.whole = .record fields) (written : fields.Perm options.entries) :
    ofDocument document = .ok options := by
  rw [Document.whole_eq_unfold] at whole
  obtain ⟨found, inner, beyond, content, same⟩ := Value.unfold_eq_map sound whole
  obtain ⟨held, rfl, rfl⟩ := exists_fields_of_map_eq same
  have keys : held.map Prod.fst = (held.map fun field =>
      (field.1, field.2.unfold document.parts inner beyond)).map Prod.fst := by
    rw [List.map_map]
    rfl
  have entriesDistinct := nodup_keys_entries options
  have distinct : (held.map Prod.fst).Nodup := by
    rw [keys]
    exact (written.map Prod.fst).nodup_iff.mpr entriesDistinct
  have lookup (key : String) := lookup_perm entriesDistinct written key
  have scalar {key : String} {shown : Value} (listed : (key, shown) ∈ options.entries)
      (isScalar : shown.IsScalar) (given : shown ≠ .null) : held.lookup key = some shown :=
    lookup_eq_scalar sound isScalar given
      ((lookup key).trans (lookup_eq_some_of_mem entriesDistinct listed))
  refine (ofDocument_eq_ok_iff distinct content).mpr ⟨?_, ?_⟩
  · rw [keys]
    exact fun key listed => known_of_mem_keys_entries ((written.map Prod.fst).mem_iff.mp listed)
  have text {key text missing : String} (listed : (key, .text text) ∈ options.entries) :
      Gives held key IsText missing text := by
    have found := scalar listed trivial nofun
    exact gives_of_lookup distinct found rfl
  have switch {key : String} {on missing : Bool} (listed : (key, .bool on) ∈ options.entries) :
      Gives held key IsSwitch missing on := by
    have found := scalar listed trivial nofun
    exact gives_of_lookup distinct found rfl
  have word {α : Type} [Vocabulary α] {key : String} {member missing : α}
      (listed : (key, .text (Vocabulary.word member)) ∈ options.entries) :
      Gives held key IsWord missing member := by
    have found := scalar listed trivial nofun
    exact gives_of_lookup distinct found rfl
  have package : Gives held "package-name" (fun held name => ∃ text, IsText held text ∧
      name = some text) none options.packageName := by
    cases set : options.packageName with
    | none =>
      have absent : "package-name" ∉ held.map Prod.fst := by
        rw [keys, (written.map Prod.fst).mem_iff, keys_entries, set]
        exact nodup_knownKeys.not_mem_erase
      exact ⟨fun _ listed => absurd (List.mem_map_of_mem listed) absent, fun _ => rfl⟩
    | some name =>
      have listed : ("package-name", .text name) ∈ options.entries := by simp [entries, set]
      exact gives_of_lookup distinct (scalar listed trivial nofun) ⟨name, rfl, rfl⟩
  have overrides : Gives held "type-mapping-overrides"
      (fun held overrides => AreOverrides (document.within held) overrides) []
      options.typeOverrides := by
    have listed : ("type-mapping-overrides", .list (options.typeOverrides.map
      TypeOverride.toValue)) ∈ options.entries := by simp [entries]
    have found := (lookup _).trans (lookup_eq_some_of_mem entriesDistinct listed)
    rw [lookup_map_value, Option.map_eq_some_iff] at found
    obtain ⟨there, found, shown⟩ := found
    exact gives_of_lookup distinct found (areOverrides_of_unfold sound shown)
  exact {
    outputFile := text (by simp [entries])
    packageName := package
    runEndpoint := text (by simp [entries])
    validateEndpoint := text (by simp [entries])
    untypedMapType := text (by simp [entries])
    filterTypes := switch (by simp [entries])
    validationAnnotations := switch (by simp [entries])
    validationFunctions := switch (by simp [entries])
    channelClient := switch (by simp [entries])
    warnOnMissingRpc := switch (by simp [entries])
    warnOnNonRpcReferences := switch (by simp [entries])
    inputFormat := word (by simp [entries, Vocabulary.word])
    outputFormat := word (by simp [entries, Vocabulary.word])
    datetimeLibrary := word (by simp [entries, Vocabulary.word])
    nullableStrategy := word (by simp [entries, Vocabulary.word])
    typeOverrides := overrides }

end Written

/-! ## Texts -/

theorem read_eq_ofDocument {text : List Char} {document : Document}
    (given : Yaml.read text = .ok document) : read text = ofDocument document := by
  rw [read, given]

/-- A map of texts that a text stands for has no key twice. -/
theorem nodup_of_read {text : List Char} {document : Document} {fields : List (String × Value)}
    (given : Yaml.read text = .ok document) (content : document.content = .record fields) :
    (fields.map Prod.fst).Nodup := by
  have differ := Yaml.keysDiffer_of_read given content
  rw [Value.KeysDiffer, List.pairwise_map] at differ
  rw [List.Nodup, List.pairwise_map]
  exact differ.imp fun {field other} unlike same => by
    have alike : Value.sameScalar (.text field.1) (.text other.1) = true := beq_iff_eq.mpr same
    rw [unlike] at alike
    cases alike

/-- **How maps of texts are read as options.**  The document of a text is read; it is sound, and a
map of texts in it has no key twice.  Such a map is read exactly when all its keys are known and
their values are of the right kinds, the options are those that it gives, and the order of its keys
does not matter.  Options that are written down under their keys are read back. -/
theorem keyed_maps_read :
    (∀ text document, Yaml.read text = .ok document →
      read text = ofDocument document ∧ document.Sound ∧
        ∀ fields, document.content = .record fields → (fields.map Prod.fst).Nodup) ∧
    (∀ document fields, document.content = .record fields → (fields.map Prod.fst).Nodup →
      ((∃ options, ofDocument document = .ok options) ↔ Acceptable document fields) ∧
      (∀ options, ofDocument document = .ok options → Describes document fields options) ∧
      ∀ other reordered, other.parts = document.parts → other.content = .record reordered →
        reordered.Perm fields → ofDocument other = ofDocument document) ∧
    ∀ document options fields, document.Sound → document.whole = .record fields →
      fields.Perm options.entries → ofDocument document = .ok options := by
  refine ⟨fun text document given => ?_, fun document fields content distinct => ?_,
    fun document options fields sound whole written => ofDocument_of_whole sound whole written⟩
  · exact ⟨read_eq_ofDocument given, (Yaml.read_cases given).1,
      fun fields content => nodup_of_read given content⟩
  · exact ⟨ofDocument_isOk_iff distinct content,
      fun options read => ((ofDocument_eq_ok_iff distinct content).mp read).2,
      fun other reordered parts reorderedContent same =>
        ofDocument_perm distinct content parts reorderedContent same⟩

end Options
end TypedRpc
