import TypedRpc.Proofs.Grouping
import TypedRpc.Schema.Encode
import TypedRpc.Schema.Scalar

/-!
# Readers and writers

A part of a schema is written as a value and read from a document.  A reader inverts a writer when
it takes back what is written, and admits a condition when nothing else is ever read.  Both are
shown part by part: a record is read field by field, a list item by item, and what is read of a
whole is read of its parts.

* `Checked.Yields`: what holds of everything that is read, with a rule for each way in which reads
  are put together.
* `Checked.Inverts`: a reader that takes back what is written, and how far.
* `Checked.required_written`, `Checked.optional_written`: the fields of a record that has been
  written.
-/

namespace TypedRpc
namespace Checked

variable {α β : Type}

/-! ## What holds of everything that is read -/

/-- Whether a value that has been read has a property. -/
def Yields (read : Checked α) (P : α → Prop) : Prop :=
  ∀ a, read = .ok a → P a

section Yields

variable {P : α → Prop} {read : Reader α}

theorem yields_ok {a : α} : (Checked.ok a).Yields P ↔ P a :=
  ⟨fun h => h a rfl, fun h b same => by cases same; exact h⟩

theorem yields_refuse (cause : Cause) : (refuse cause : Checked α).Yields P :=
  nofun

theorem yields_under {checked : Checked α} {step : Step} :
    (checked.under step).Yields P ↔ checked.Yields P := by
  cases checked with
  | ok a => rfl
  | faulty problems => exact ⟨fun _ => nofun, fun _ => nofun⟩

theorem yields_map {f : β → α} {first : Checked β} :
    (f <$> first).Yields P ↔ ∀ b, first = .ok b → P (f b) := by
  cases first with
  | ok b => exact yields_ok.trans ⟨fun h b' same => by cases same; exact h, fun h => h b rfl⟩
  | faulty problems => exact ⟨fun _ => nofun, fun _ => nofun⟩

/-- What is put together of two reads has a property when it follows from what either has read. -/
theorem yields_seq {f : Checked (β → α)} {last : Checked β} :
    (f <*> last).Yields P ↔ f.Yields fun g => ∀ b, last = .ok b → P (g b) := by
  cases f with
  | ok g =>
    have as_map : Checked.ok g <*> last = g <$> last := by cases last <;> rfl
    rw [as_map, yields_map, yields_ok]
  | faulty problems => cases last <;> exact ⟨fun _ => nofun, fun _ => nofun⟩

theorem yields_required (each : ∀ document, (read document).Yields P) (fields : Entries)
    (name : String) : (required fields name read).Yields P := by
  unfold required present
  cases Value.field? fields name with
  | none => exact yields_under.mpr (yields_refuse _)
  | some document => exact yields_under.mpr (each document)

theorem yields_optional {missing : α} (none : P missing)
    (each : ∀ document, (read document).Yields P) (fields : Entries) (name : String) :
    (optional fields name missing read).Yields P := by
  unfold optional presentOr
  cases Value.field? fields name with
  | none => exact yields_ok.mpr none
  | some document => exact yields_under.mpr (each document)

theorem yields_orNull (each : ∀ document, (read document).Yields P) (document : Document) :
    (orNull read document).Yields fun found => ∀ a ∈ found, P a := by
  unfold orNull
  split
  · exact yields_ok.mpr nofun
  · refine yields_map.mpr fun b given a held => ?_
    obtain rfl := Option.some.inj held
    exact each document _ given

theorem yields_items (each : ∀ document, (read document).Yields P) (index : Nat)
    (documents : List Document) :
    (items read index documents).Yields fun found => ∀ a ∈ found, P a := by
  induction documents generalizing index with
  | nil => exact yields_ok.mpr nofun
  | cons document rest ih =>
    rw [items, yields_seq, yields_map]
    intro a given found others
    exact List.forall_mem_cons.mpr
      ⟨yields_under.mpr (each document) _ given, ih (index + 1) _ others⟩

theorem yields_list (each : ∀ document, (read document).Yields P) (document : Document) :
    (list read document).Yields fun found => ∀ a ∈ found, P a := by
  unfold list
  split <;> first
    | exact yields_items each 0 _
    | exact yields_refuse _

theorem yields_entries (each : ∀ document, (read document).Yields P) (found : Entries) :
    (entries read found).Yields fun named => ∀ entry ∈ named, P entry.2 := by
  induction found with
  | nil => exact yields_ok.mpr nofun
  | cons entry rest ih =>
    rw [entries, yields_seq, yields_map]
    intro named given others readOthers
    refine List.forall_mem_cons.mpr ⟨?_, ih _ readOthers⟩
    have named_yields : (Prod.mk <$> ((text { value := entry.1 }).under (.name "[key]")).under
        (keyStep entry.1) <*> (read entry.2).under (keyStep entry.1)).Yields fun named =>
          P named.2 :=
      yields_seq.mpr (yields_map.mpr fun _ _ _ value => yields_under.mpr (each entry.2) _ value)
    exact named_yields named given

theorem yields_table (each : ∀ document, (read document).Yields P) (document : Document) :
    (table read document).Yields fun named => ∀ entry ∈ named, P entry.2 := by
  unfold table
  split
  · exact yields_entries each _
  · exact yields_refuse _

theorem yields_record {readFields : Entries → Checked α}
    (each : ∀ fields, (readFields fields).Yields P) (model : String) (document : Document) :
    (record model readFields document).Yields P := by
  unfold record
  split
  · exact each _
  · exact yields_refuse _

end Yields

/-! ## Reading what has been written -/

/-- The entries of a written record as they are read. -/
def written (fields : List (String × Value)) : Entries :=
  fields.map fun field => (.text field.1, { value := field.2 })

theorem map_ok (f : α → β) {checked : Checked α} {a : α} (h : checked = .ok a) :
    f <$> checked = .ok (f a) := by
  rw [h]
  rfl

theorem seq_ok {f : Checked (α → β)} {checked : Checked α} {g : α → β} {a : α} (hf : f = .ok g)
    (h : checked = .ok a) : f <*> checked = .ok (g a) := by
  rw [hf, h]
  rfl

theorem record_written (model : String) (read : Entries → Checked α)
    (fields : List (String × Value)) :
    record model read { value := .record fields } = read (written fields) := by
  simp [record, Value.record, Document.content, Document.entries, Document.within, written,
    Function.comp_def]

theorem field?_text_cons (key name : String) (found : α) (rest : List (Value × α)) :
    Value.field? ((.text key, found) :: rest) name =
      if key = name then some found else Value.field? rest name := by
  unfold Value.field? Value.find?
  rw [List.find?_cons]
  show Option.map _ (match key == name with | true => _ | false => _) = _
  by_cases same : key = name
  · rw [beq_iff_eq.mpr same, if_pos same]
    rfl
  · rw [beq_eq_false_iff_ne.mpr same, if_neg same]

/-- A map of texts is looked up by these. -/
theorem field?_texts (fields : List (String × α)) (name : String) :
    Value.field? (fields.map fun field => (.text field.1, field.2)) name = fields.lookup name := by
  induction fields with
  | nil => rfl
  | cons field rest ih => rw [List.map_cons, field?_text_cons, ih, lookup_cons_eq_ite]

theorem field?_written (fields : List (String × Value)) (name : String) :
    Value.field? (written fields) name =
      (fields.lookup name).map fun value => { value := value } := by
  rw [← lookup_map_value, ← field?_texts, List.map_map]
  rfl

section Written

variable {read : Reader α} {write : α → Value} {fields : List (String × Value)} {name : String}

/-- A field of a written record is read from what is written under its name. -/
theorem required_written {value : Value} {a : α} (found : fields.lookup name = some value)
    (given : read { value := value } = .ok a) : required (written fields) name read = .ok a := by
  rw [required, field?_written, found, Option.map_some, present, given]
  rfl

theorem optional_written {missing : α} {value : Value} {a : α}
    (found : fields.lookup name = some value) (given : read { value := value } = .ok a) :
    optional (written fields) name missing read = .ok a := by
  rw [optional, field?_written, found, Option.map_some, presentOr, given]
  rfl

theorem orNull_written {found : Option α} (present : ∀ a ∈ found, write a ≠ .null)
    (given : ∀ a ∈ found, read { value := write a } = .ok a) :
    orNull read { value := (found.map write).getD .null } = .ok found := by
  cases found with
  | none => rfl
  | some a =>
    have here : orNull read { value := write a } = (read { value := write a }).map some := by
      unfold orNull
      split
      · next isNull => exact absurd isNull (present a rfl)
      · rfl
    rw [Option.map_some, Option.getD_some, here, given a rfl]
    rfl

theorem items_written (index : Nat) {as : List α}
    (given : ∀ a ∈ as, read { value := write a } = .ok a) :
    items read index ((as.map write).map fun value => { value := value }) = .ok as := by
  induction as generalizing index with
  | nil => rfl
  | cons a rest ih =>
    rw [List.forall_mem_cons] at given
    rw [List.map_cons, List.map_cons, items, given.1, ih (index + 1) given.2]
    rfl

theorem list_written {as : List α} (given : ∀ a ∈ as, read { value := write a } = .ok a) :
    list read { value := .list (as.map write) } = .ok as :=
  items_written 0 given

theorem entries_written {named : List (String × α)}
    (given : ∀ entry ∈ named, read { value := write entry.2 } = .ok entry.2) :
    entries read (written (named.map fun entry => (entry.1, write entry.2))) = .ok named := by
  induction named with
  | nil => rfl
  | cons entry rest ih =>
    rw [List.forall_mem_cons] at given
    rw [List.map_cons, written, List.map_cons, ← written, entries, given.1, ih given.2]
    rfl

theorem table_written {named : List (String × α)}
    (given : ∀ entry ∈ named, read { value := write entry.2 } = .ok entry.2) :
    table read { value := .record (named.map fun entry => (entry.1, write entry.2)) } =
      .ok named := by
  rw [← entries_written given]
  simp [table, Value.record, Document.content, Document.entries, Document.within, written,
    Function.comp_def]

end Written

/-! ## Scalars -/

theorem text_written (s : String) : text { value := .text s } = .ok s := rfl

theorem boolean_written (b : Bool) : boolean { value := .bool b } = .ok b := rfl

theorem texts_written (items : List String) : list text { value := .texts items } = .ok items :=
  list_written fun s _ => text_written s

theorem text?_written (found : Option String) :
    orNull text { value := .ofText? found } = .ok found := by
  cases found <;> rfl

theorem integer?_written (found : Option Int) :
    orNull integer { value := .ofInt? found } = .ok found := by
  cases found <;> rfl

theorem bound?_written (found : Option Bound) :
    orNull bound { value := (found.map Bound.toValue).getD .null } = .ok found := by
  rcases found with _ | _ | _ <;> rfl

theorem renames_written (names : Renames) :
    table text { value := .ofTable names } = .ok names :=
  table_written fun entry _ => text_written entry.2

/-- Whether every member of a vocabulary is the one that its word stands for. -/
def Faithful (α : Type) [Vocabulary α] : Prop :=
  ∀ member : α, Vocabulary.ofWord? (Vocabulary.word member) = some member

theorem word_written [Vocabulary α] (faithful : Faithful α) (member : α) :
    word { value := wordValue member } = .ok member := by
  simp only [word, wordValue, faithful member]

/-! ## Inverses -/

/-- A reader takes back what a writer writes, as long as that is admitted.  Nothing else is ever
read. -/
structure Inverts (read : Reader α) (write : α → Value) (admitted : α → Prop) : Prop where
  reads : ∀ a, admitted a → read { value := write a } = .ok a
  admits : ∀ document, (read document).Yields admitted

section Inverts

variable {read : Reader α} {write : α → Value} {admitted : α → Prop}

theorem Inverts.list (inverts : Inverts read write admitted) :
    Inverts (list read) (fun as => .list (as.map write)) fun as => ∀ a ∈ as, admitted a where
  reads _ all := list_written fun a listed => inverts.reads a (all a listed)
  admits := yields_list inverts.admits

/-- What may be left out and is a list otherwise holds nothing but what is admitted. -/
theorem Inverts.admits_items (inverts : Inverts read write admitted) (fields : Entries)
    (name : String) :
    (optional fields name [] (Checked.list read)).Yields fun as => ∀ a ∈ as, admitted a :=
  yields_optional (List.forall_mem_nil _) inverts.list.admits fields name

theorem Inverts.table (inverts : Inverts read write admitted) :
    Inverts (table read) (fun named => .record (named.map fun entry => (entry.1, write entry.2)))
      fun named => ∀ entry ∈ named, admitted entry.2 where
  reads _ all := table_written fun entry listed => inverts.reads entry.2 (all entry listed)
  admits := yields_table inverts.admits

/-- A value that may be null is read back, unless something else is written as null. -/
theorem Inverts.orNull (inverts : Inverts read write admitted) (present : ∀ a, write a ≠ .null) :
    Inverts (orNull read) (fun found => (found.map write).getD .null)
      fun found => ∀ a ∈ found, admitted a where
  reads _ all := orNull_written (fun a _ => present a) fun a held => inverts.reads a (all a held)
  admits := yields_orNull inverts.admits

end Inverts

end Checked
end TypedRpc
