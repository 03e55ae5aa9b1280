import Mathlib
import TypedRpc.Proofs.Options.Keys
import TypedRpc.Schema.Document

/-!
# When reading breaks down

Options and schemas are read from texts that may hold anything.  What the readers do with a document
is foreseen, whatever the document is, but for one thing: options are refused for their unknown
keys, and keys that are no texts cannot be reported.  The other breakdowns come from the texts, and
of what can be wrong with a text only malformed YAML and malformed JSON are reported.

* `Foreseen`: work that ends with a result or with a fault that a check has found.
* `Options.foreseen_ofDocument_iff`: what documents have to be like for that.
* `readers_foreseen_iff`: what texts have to be like.

`readers_unforeseen` shows a text for each reader that it breaks down on.
-/

namespace TypedRpc

variable {φ ψ α β : Type}

/-- Whether work ends as foreseen: with a result, or because a check refuses what it is given. -/
inductive Foreseen : Except (Failure φ) α → Prop where
  | result (value : α) : Foreseen (.ok value)
  | refusal (fault : φ) : Foreseen (.error (.refused fault))

theorem not_foreseen_broken (breakdown : Breakdown) :
    ¬ Foreseen (.error (.broken breakdown) : Except (Failure φ) α) :=
  nofun

/-- Work that can only be refused ends as foreseen. -/
theorem foreseen_mapError (work : Except φ α) : Foreseen (work.mapError Failure.refused) := by
  cases work with
  | error fault => exact .refusal fault
  | ok value => exact .result value

/-- Work in two steps ends as foreseen when the first does, if the second always does. -/
theorem foreseen_bind_iff {work : Except (Failure φ) α} {next : α → Except (Failure φ) β}
    (foreseen : ∀ value, Foreseen (next value)) : Foreseen (work >>= next) ↔ Foreseen work := by
  cases work with
  | ok value => exact iff_of_true (foreseen value) (.result value)
  | error failure =>
    cases failure with
    | refused fault => exact iff_of_true (.refusal fault) (.refusal fault)
    | broken breakdown => exact iff_of_false (not_foreseen_broken _) (not_foreseen_broken _)

/-! ## Options -/

namespace Options

theorem foreseen_checkKeys_iff {keys : List Value} :
    Foreseen (checkKeys keys) ↔ ∀ key ∈ keys, ∃ name, key = .text name := by
  constructor
  · intro foreseen key listed
    by_contra noText
    obtain ⟨breakdown, broken⟩ := checkKeys_broken listed (not_exists.mp noText)
    rw [broken] at foreseen
    exact not_foreseen_broken _ foreseen
  · intro texts
    obtain ⟨names, rfl⟩ : ∃ names : List String, names.map Value.text = keys :=
      ⟨textKeys keys, by
        induction keys with
        | nil => rfl
        | cons key rest ih =>
          rw [List.forall_mem_cons] at texts
          obtain ⟨name, rfl⟩ := texts.1
          exact congrArg (Value.text name :: ·) (ih texts.2)⟩
    rw [checkKeys_texts]
    split
    · exact .result ()
    · exact .refusal _

/-- **A document breaks the reading of options exactly when it is a map with a key that is no
text.** -/
theorem foreseen_ofDocument_iff {document : Document} :
    Foreseen (ofDocument document) ↔
      ∀ found, document.content = .map found → ∀ entry ∈ found, ∃ name, entry.1 = .text name := by
  unfold ofDocument
  cases document.content with
  | map found =>
    rw [foreseen_bind_iff fun _ => foreseen_mapError _, foreseen_checkKeys_iff, List.forall_mem_map]
    exact ⟨fun texts other same => by cases same; exact texts, fun texts => texts found rfl⟩
  | null => exact iff_of_true (.result _) nofun
  | _ => exact iff_of_true (.refusal _) nofun

end Options

/-! ## Texts -/

/-- Whether a text breaks the reading of YAML by nothing but being malformed. -/
def Yaml.FailsAsMalformed (text : List Char) : Prop :=
  ∀ failure, Yaml.read text = .error failure → failure = .malformed

/-- Whether a text breaks the reading of JSON by nothing but being malformed. -/
def Json.FailsAsMalformed (text : List Char) : Prop :=
  ∀ failure, Json.read text = .error failure → ∃ fault, failure = .syntaxFault fault

theorem Options.foreseen_read_iff {text : List Char} :
    Foreseen (Options.read text) ↔ Yaml.FailsAsMalformed text ∧
      ∀ document, Yaml.read text = .ok document → Foreseen (Options.ofDocument document) := by
  unfold Options.read Yaml.FailsAsMalformed
  cases Yaml.read text with
  | ok document =>
    refine ⟨fun foreseen => ⟨nofun, fun other same => ?_⟩, fun foreseen => foreseen.2 document rfl⟩
    cases same
    exact foreseen
  | error failure =>
    cases failure with
    | malformed =>
      exact iff_of_true (.refusal _) ⟨fun other same => by cases same; rfl, nofun⟩
    | _ => exact iff_of_false (not_foreseen_broken _) fun foreseen => nomatch foreseen.1 _ rfl

theorem Schema.foreseen_read_iff {format : DocumentFormat} {text : List Char} :
    Foreseen (Schema.read format text) ↔ Foreseen (Schema.documentOf format text) :=
  foreseen_bind_iff fun _ => foreseen_mapError _

theorem Schema.foreseen_documentOf_yaml_iff {text : List Char} :
    Foreseen (Schema.documentOf .yaml text) ↔ Yaml.FailsAsMalformed text := by
  unfold Schema.documentOf Yaml.FailsAsMalformed
  cases Yaml.read text with
  | ok document => exact iff_of_true (.result _) nofun
  | error failure =>
    cases failure with
    | malformed => exact iff_of_true (.refusal _) fun other same => by cases same; rfl
    | _ => exact iff_of_false (not_foreseen_broken _) fun malformed => nomatch malformed _ rfl

theorem Schema.foreseen_documentOf_json_iff {text : List Char} :
    Foreseen (Schema.documentOf .json text) ↔ Json.FailsAsMalformed text := by
  unfold Schema.documentOf Json.FailsAsMalformed
  cases Json.read text with
  | ok value => exact iff_of_true (.result _) nofun
  | error failure =>
    cases failure with
    | syntaxFault fault =>
      exact iff_of_true (.refusal _) fun other same => by cases same; exact ⟨fault, rfl⟩
    | _ =>
      exact iff_of_false (not_foreseen_broken _) fun malformed =>
        nomatch (malformed _ rfl).choose_spec

/-- **What ends as foreseen.**  A text is read as options, or refused, exactly when nothing but
being malformed is wrong with it as YAML and no map that it stands for has a key that is no text; as
a schema, exactly when nothing but being malformed is wrong with it in its format. -/
theorem readers_foreseen_iff (text : List Char) :
    (Foreseen (Options.read text) ↔ Yaml.FailsAsMalformed text ∧
      ∀ document found, Yaml.read text = .ok document → document.content = .map found →
        ∀ entry ∈ found, ∃ name, entry.1 = .text name) ∧
    (Foreseen (Schema.read .yaml text) ↔ Yaml.FailsAsMalformed text) ∧
    (Foreseen (Schema.read .json text) ↔ Json.FailsAsMalformed text) := by
  refine ⟨?_, ?_, ?_⟩
  · rw [Options.foreseen_read_iff]
    simp only [Options.foreseen_ofDocument_iff]
    exact and_congr_right fun _ =>
      ⟨fun keyed document found read => keyed document read found,
        fun keyed document read found => keyed document found read⟩
  · rw [Schema.foreseen_read_iff, Schema.foreseen_documentOf_yaml_iff]
  · rw [Schema.foreseen_read_iff, Schema.foreseen_documentOf_json_iff]

/-- A map whose only key is null. -/
theorem read_null_key : Options.read "?".toList = .error (.broken (.keyNotText "NoneType")) := by
  cbv

/-- An integer without digits. -/
theorem read_empty_integer : Yaml.read "!!int".toList = .error .emptyNumber := by
  cbv

/-- An integer with too many digits. -/
theorem read_long_integer :
    Json.read (List.replicate 4301 '1') = .error (.integerTooLong 4301) := by
  have failed : (Json.read (List.replicate 4301 '1')).map (fun _ => ()) =
      .error (.integerTooLong 4301) := by decide +kernel
  cases read : Json.read (List.replicate 4301 '1') with
  | ok value =>
    rw [read] at failed
    cases failed
  | error failure =>
    rw [read] at failed
    cases failed
    rfl

/-- A text for each reader that ends in a way that is not foreseen. -/
theorem readers_unforeseen :
    ¬ Foreseen (Options.read "?".toList) ∧
    ¬ Foreseen (Schema.read .yaml "!!int".toList) ∧
    ¬ Foreseen (Schema.read .json (List.replicate 4301 '1')) := by
  refine ⟨?_, ?_, ?_⟩
  · rw [read_null_key]
    exact not_foreseen_broken _
  · rw [Schema.foreseen_read_iff, Schema.foreseen_documentOf_yaml_iff]
    exact fun malformed => nomatch malformed _ read_empty_integer
  · rw [Schema.foreseen_read_iff, Schema.foreseen_documentOf_json_iff]
    intro malformed
    obtain ⟨fault, same⟩ := malformed _ read_long_integer
    cases same

end TypedRpc
