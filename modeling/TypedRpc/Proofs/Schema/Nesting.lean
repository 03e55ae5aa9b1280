import TypedRpc.Proofs.Schema.Reading
import TypedRpc.Schema.Decode

/-!
# How deep descriptors may stand inside each other

Reading a descriptor opens marks, and there is room for a limited number of them.  How many are open
at the deepest place depends on the descriptor and on the scope that it is read in, not on the
document: a descriptor that has been read has found room, and one that finds room is read back when
it has been written.

* `TypeRef.marksIn`: the marks that are open at the deepest place of a descriptor.
* `Checked.descriptorIn_inverts`: descriptors are read back exactly as far as there is room for
  their marks.
-/

namespace TypedRpc

/-! ## Marks of descriptors -/

/-- The number of marks that a descriptor opens for itself. -/
def Scope.marks (scope : Scope) (kind : DescriptorKind) : Nat :=
  if (scope.opened? kind).isSome then 2 else 1

/-- The scope inside a descriptor. -/
def Scope.inside (scope : Scope) (kind : DescriptorKind) : Scope :=
  (scope.opened? kind).getD scope

namespace TypeRef

/-- What a descriptor describes. -/
def kind : TypeRef → DescriptorKind
  | .primitive _ _ => .primitive
  | .array _ _ => .array
  | .enum _ _ => .enum
  | .union _ _ => .union
  | .struct _ _ _ _ => .struct
  | .resource _ => .resource
  | .unknown _ => .unknown

mutual

/-- The number of marks that are open at the deepest place of a descriptor. -/
def marksIn (scope : Scope) : TypeRef → Nat
  | .array item _ => scope.marks .array + item.marksIn (scope.inside .array)
  | .union members _ => scope.marks .union + marksInMembers (scope.inside .union) members
  | .struct _ fields _ _ => scope.marks .struct + marksInFields fields
  | .primitive _ _ => scope.marks .primitive
  | .enum _ _ => scope.marks .enum
  | .resource _ => scope.marks .resource
  | .unknown _ => scope.marks .unknown

/-- The number of marks at the deepest place of some members of a union. -/
def marksInMembers (scope : Scope) : List (String × TypeRef) → Nat
  | [] => 0
  | (_, type) :: rest => max (type.marksIn scope) (marksInMembers scope rest)

/-- The number of marks at the deepest place of some fields of a struct.  A field is marked as
well. -/
def marksInFields : List (Field TypeRef) → Nat
  | [] => 0
  | ⟨_, type, _, _, _⟩ :: rest => max (type.marksIn .field + 1) (marksInFields rest)

end

theorem marksInMembers_le_iff {scope : Scope} {members : List (String × TypeRef)} {room : Nat} :
    marksInMembers scope members ≤ room ↔ ∀ member ∈ members, member.2.marksIn scope ≤ room := by
  induction members with
  | nil => simp [marksInMembers]
  | cons member rest ih => rw [marksInMembers, Nat.max_le, ih, List.forall_mem_cons]

theorem marksInFields_le_iff {fields : List FieldSpec} {room : Nat} :
    marksInFields fields ≤ room ↔ ∀ field ∈ fields, field.type.marksIn .field + 1 ≤ room := by
  induction fields with
  | nil => simp [marksInFields]
  | cons field rest ih => rw [marksInFields, Nat.max_le, ih, List.forall_mem_cons]

/-- Whether there is room for a descriptor. -/
def FitsIn (nesting : Nesting) (type : TypeRef) : Prop :=
  type.marksIn nesting.scope ≤ nesting.room

/-- Whether there is room for what stands right inside a descriptor, given what is open there. -/
def PartsFitIn (inner : Nesting) : TypeRef → Prop
  | .array item _ => item.FitsIn inner
  | .union members _ => ∀ member ∈ members, member.2.FitsIn inner
  | .struct _ fields _ _ => ∀ field ∈ fields, field.type.marksIn .field + 1 ≤ inner.room
  | _ => True

/-! ## Descriptors as records -/

theorem memberEntries_eq (members : List (String × TypeRef)) :
    memberEntries members = members.map fun member => (.text member.1, member.2.toValue) := by
  induction members with
  | nil => rfl
  | cons member rest ih => rw [memberEntries, ih, List.map_cons]

theorem fieldValues_eq (fields : List FieldSpec) :
    fieldValues fields = fields.map Field.toValue := by
  induction fields with
  | nil => rfl
  | cons field rest ih =>
    rw [fieldValues, ih, List.map_cons]
    rfl

/-- The fields of a descriptor that has been written. -/
def entries : TypeRef → List (String × Value)
  | .primitive kind constraints => [
      ("kind", .text "primitive"), ("primitive", wordValue kind),
      ("constraints", constraints.toValue)]
  | .array item constraints => [
      ("kind", .text "array"), ("item_type", item.toValue), ("constraints", constraints.toValue)]
  | .enum values name => [
      ("kind", .text "enum"), ("values", .texts values), ("name", .ofText? name)]
  | .union members name => [
      ("kind", .text "union"),
      ("members", .record (members.map fun member => (member.1, member.2.toValue))),
      ("name", .ofText? name)]
  | .struct container fields instanceOf fieldNames => [
      ("kind", .text "struct"), ("container", wordValue container),
      ("fields", .list (fields.map Field.toValue)), ("instance_of", .ofText? instanceOf),
      ("field_names", .ofTable fieldNames)]
  | .resource id => [("kind", .text "resource"), ("resource", .text id)]
  | .unknown name => [("kind", .text "unknown"), ("name", .ofText? name)]

theorem toValue_eq_record (type : TypeRef) : type.toValue = .record type.entries := by
  cases type with
  | union members name =>
    have table : Value.map (memberEntries members) =
        .record (members.map fun member => (member.1, member.2.toValue)) := by
      simp [memberEntries_eq, Value.record]
    rw [toValue, table, entries]
  | struct container fields instanceOf fieldNames =>
    rw [toValue, fieldValues_eq]
    rfl
  | _ => rw [toValue, entries]

end TypeRef

/-! ## Room -/

namespace Nesting

variable {nesting inner : Nesting} {kind : DescriptorKind} {document : Document}

/-- An opened mark takes up room and leaves the scope as it is. -/
theorem of_mark {sort : Option DescriptorKind} (h : nesting.mark sort document = .ok inner) :
    inner.scope = nesting.scope ∧ inner.room + 1 = nesting.room := by
  simp only [mark] at h
  split at h
  · contradiction
  · split at h
    · contradiction
    · next enough =>
      cases h
      exact ⟨rfl, enough.symm⟩

/-- What is open inside a descriptor, and how much room is left. -/
theorem of_enter (h : nesting.enter kind document = .ok inner) :
    inner.scope = nesting.scope.inside kind ∧
      inner.room + nesting.scope.marks kind = nesting.room := by
  unfold enter at h
  cases first : nesting.mark (some kind) document with
  | error cause =>
    rw [first] at h
    contradiction
  | ok marked =>
    obtain ⟨same, room⟩ := of_mark first
    rw [first] at h
    rw [Scope.inside, Scope.marks]
    cases opened : nesting.scope.opened? kind with
    | none =>
      rw [opened] at h
      cases h
      exact ⟨same, room⟩
    | some scope =>
      rw [opened] at h
      obtain ⟨there, left⟩ := of_mark h
      exact ⟨there, by simp only [Option.isSome_some, if_true] at *; omega⟩

/-- A value that its document keeps under no number is marked as long as there is room. -/
theorem exists_mark (nesting : Nesting) (plain : document.number? = none)
    (room : 1 ≤ nesting.room) (sort : Option DescriptorKind) :
    ∃ inner, nesting.mark sort document = .ok inner := by
  obtain ⟨left, enough⟩ := Nat.exists_eq_add_of_le' room
  refine ⟨{ nesting with room := left }, ?_⟩
  simp [mark, plain, enough]

theorem exists_enter (plain : document.number? = none)
    (room : nesting.scope.marks kind ≤ nesting.room) :
    ∃ inner, nesting.enter kind document = .ok inner := by
  have positive : 1 ≤ nesting.scope.marks kind := by
    rw [Scope.marks]
    split <;> omega
  obtain ⟨marked, first⟩ := nesting.exists_mark plain (Nat.le_trans positive room) (some kind)
  have left := (of_mark first).2
  unfold enter
  rw [first]
  rw [Scope.marks] at room
  cases opened : nesting.scope.opened? kind with
  | none => exact ⟨marked, rfl⟩
  | some scope =>
    rw [opened] at room
    simp only [Option.isSome_some, if_true] at room
    have enough : 1 ≤ marked.room := by omega
    exact exists_mark { marked with scope := scope } plain enough (some kind)

end Nesting

/-- A descriptor finds room when it does so itself and its parts do inside it. -/
theorem TypeRef.fitsIn_iff {nesting inner : Nesting} {type : TypeRef}
    (scope : inner.scope = nesting.scope.inside type.kind)
    (room : inner.room + nesting.scope.marks type.kind = nesting.room) :
    type.FitsIn nesting ↔ type.PartsFitIn inner := by
  cases type with
  | array item constraints =>
    rw [FitsIn, marksIn, PartsFitIn, FitsIn, scope, ← room]
    simp only [kind]
    omega
  | union members name =>
    simp only [FitsIn, marksIn, PartsFitIn, scope, ← room, kind, ← marksInMembers_le_iff]
    omega
  | struct container fields instanceOf fieldNames =>
    simp only [FitsIn, marksIn, PartsFitIn, ← room, kind, ← marksInFields_le_iff]
    omega
  | _ =>
    simp only [FitsIn, marksIn, PartsFitIn, ← room, kind, iff_true]
    omega

/-! ## Readers of descriptors -/

namespace Checked

/-- A field of a struct inside others. -/
def fieldIn (nesting : Nesting) : Reader FieldSpec := fun document =>
  match nesting.enterField document with
  | .error cause => refuse cause
  | .ok inside => record "FieldSpec" (namedValue (descriptorIn inside)) document

/-- What a descriptor of some kind holds, given what is open inside it. -/
def descriptorOf (inner : Nesting) (kind : DescriptorKind) (fields : Entries) : Checked TypeRef :=
  match kind with
  | .primitive => primitiveType fields
  | .array => arrayType (descriptorIn inner) fields
  | .enum => enumType fields
  | .union => unionType (descriptorIn inner) fields
  | .struct => structType (fieldIn inner) fields
  | .resource => resourceType fields
  | .unknown => unknownType fields

/-- How a descriptor is read: its kind, the room for it, and what it holds. -/
theorem descriptorIn_eq (nesting : Nesting) (document : Document) :
    descriptorIn nesting document =
      match document.content with
      | .map found =>
        match descriptorKind (document.entries found) with
        | .error cause => refuse cause
        | .ok kind =>
          (match nesting.enter kind document with
            | .error cause => refuse cause
            | .ok inner => descriptorOf inner kind (document.entries found)).under
              (.name kind.word)
      | _ => refuse .notDescriptor := by
  rw [descriptorIn]
  cases document.content with
  | map found =>
    dsimp only
    cases descriptorKind (document.entries found) with
    | error cause => rfl
    | ok kind =>
      dsimp only
      congr 1
      split
      · next entered => rw [entered]
      · next inner entered =>
        have held : (match nesting.enter kind document with
            | .error cause => refuse cause
            | .ok inner => descriptorOf inner kind (document.entries found)) =
            descriptorOf inner kind (document.entries found) := by rw [entered]
        refine Eq.trans ?_ held.symm
        cases kind with
        | struct =>
          refine congrArg (structType · _) (funext fun document => ?_)
          rw [fieldIn]
          split <;> next marked => rw [marked]
        | _ => rfl
  | _ => rfl

/-- How a written descriptor is read whose kind is known. -/
theorem descriptorIn_written {nesting : Nesting} {fields : List (String × Value)}
    {kind : DescriptorKind} (known : descriptorKind (written fields) = .ok kind) :
    descriptorIn nesting { value := .record fields } =
      (match nesting.enter kind { value := .record fields } with
        | .error cause => refuse cause
        | .ok inner => descriptorOf inner kind (written fields)).under (.name kind.word) := by
  have found : Document.entries { value := .record fields }
      (fields.map fun field => (.text field.1, field.2)) = written fields := by
    simp [Document.entries, Document.within, written, Function.comp_def]
  rw [descriptorIn_eq]
  simp only [Document.content, Value.record] at found known ⊢
  rw [found, known]

/-! ## What descriptors hold -/

theorem faithful_primitiveKind : Faithful PrimitiveKind := by
  intro kind
  cases kind <;> rfl

theorem faithful_container : Faithful Container := by
  intro container
  cases container <;> rfl

theorem anything_written (value : Value) : anything { value := value } = .ok value := rfl

theorem constraints_written (c : Constraints) : constraints { value := c.toValue } = .ok c :=
  (record_written _ _ _).trans <|
    seq_ok (seq_ok (seq_ok (seq_ok (map_ok _
      (optional_written rfl (bound?_written c.min)))
      (optional_written rfl (bound?_written c.max)))
      (optional_written rfl (integer?_written c.minLength)))
      (optional_written rfl (integer?_written c.maxLength)))
      (optional_written rfl (text?_written c.pattern))

/-- The fields of a named value are read back when its type is, whatever stands behind them. -/
theorem namedValue_written {type : Reader TypeRef} {field : FieldSpec}
    (given : type { value := field.type.toValue } = .ok field.type)
    (others : List (String × Value)) :
    namedValue type (written (field.entries ++ others)) = .ok field :=
  seq_ok (seq_ok (seq_ok (seq_ok (map_ok _
    (required_written rfl (text_written field.name)))
    (required_written rfl given))
    (optional_written rfl (boolean_written field.nullable)))
    (optional_written rfl (anything_written field.default)))
    (optional_written rfl (text?_written field.description))

theorem yields_namedValue {type : Reader TypeRef} {P : TypeRef → Prop}
    (each : ∀ document, (type document).Yields P) (fields : Entries) :
    (namedValue type fields).Yields fun field => P field.type := by
  simp only [namedValue, yields_seq, yields_map]
  intro _ _ found given _ _ _ _ _ _
  exact yields_required each fields _ found given

theorem descriptorKind_written (type : TypeRef) :
    descriptorKind (written type.entries) = .ok type.kind := by
  rw [descriptorKind, field?_written]
  cases type <;> rfl

section Held

variable {inner : Nesting}

/-- A field of a struct is read back as far as there is room for its type. -/
theorem fieldIn_inverts (below : ∀ nesting : Nesting, nesting.room < inner.room →
      Inverts (descriptorIn nesting) TypeRef.toValue (TypeRef.FitsIn nesting)) :
    Inverts (fieldIn inner) Field.toValue
      fun field => field.type.marksIn .field + 1 ≤ inner.room where
  reads field fits := by
    obtain ⟨inside, entered⟩ : ∃ inside, inner.enterField { value := field.toValue } = .ok inside :=
      Nesting.exists_mark { inner with scope := .field } rfl (by dsimp only; omega) none
    obtain ⟨scope, room⟩ := Nesting.of_mark entered
    have type_reads := (below inside (Nesting.room_lt_of_enterField entered)).reads field.type
      (by rw [TypeRef.FitsIn, scope]; dsimp only at room ⊢; omega)
    rw [fieldIn, entered]
    exact (record_written _ _ _).trans (by
      simpa only [List.append_nil] using namedValue_written type_reads [])
  admits document := by
    rw [fieldIn]
    split
    · exact yields_refuse _
    · next inside entered =>
      obtain ⟨scope, room⟩ := Nesting.of_mark entered
      have admits := (below inside (Nesting.room_lt_of_enterField entered)).admits
      intro field given
      have fits : field.type.FitsIn inside :=
        yields_record (yields_namedValue admits) _ document field given
      rw [TypeRef.FitsIn, scope] at fits
      dsimp only at fits room
      omega

/-- What a descriptor holds is read back when there is room for its parts. -/
theorem descriptorOf_written (items : Inverts (descriptorIn inner) TypeRef.toValue
      (TypeRef.FitsIn inner))
    (fields : Inverts (fieldIn inner) Field.toValue
      fun field => field.type.marksIn .field + 1 ≤ inner.room)
    {type : TypeRef} (fits : type.PartsFitIn inner) :
    descriptorOf inner type.kind (written type.entries) = .ok type := by
  cases type with
  | primitive kind constraints =>
    exact seq_ok (map_ok _ (required_written rfl (word_written faithful_primitiveKind kind)))
      (optional_written rfl (constraints_written constraints))
  | array item constraints =>
    exact seq_ok (map_ok _ (required_written rfl (items.reads item fits)))
      (optional_written rfl (constraints_written constraints))
  | enum values name =>
    exact seq_ok (map_ok _ (required_written rfl (texts_written values)))
      (optional_written rfl (text?_written name))
  | union members name =>
    exact seq_ok (map_ok _ (required_written rfl (items.table.reads members fits)))
      (optional_written rfl (text?_written name))
  | struct container held instanceOf fieldNames =>
    exact seq_ok (seq_ok (seq_ok (map_ok _
      (optional_written rfl (word_written faithful_container container)))
      (optional_written rfl (fields.list.reads held fits)))
      (optional_written rfl (text?_written instanceOf)))
      (optional_written rfl (renames_written fieldNames))
  | resource id => exact map_ok _ (required_written rfl (text_written id))
  | unknown name => exact map_ok _ (optional_written rfl (text?_written name))

/-- What is read of a kind is of that kind, and its parts have found room. -/
theorem yields_descriptorOf (items : Inverts (descriptorIn inner) TypeRef.toValue
      (TypeRef.FitsIn inner))
    (fields : Inverts (fieldIn inner) Field.toValue
      fun field => field.type.marksIn .field + 1 ≤ inner.room)
    (kind : DescriptorKind) (found : Entries) :
    (descriptorOf inner kind found).Yields fun type =>
      type.kind = kind ∧ type.PartsFitIn inner := by
  cases kind with
  | primitive =>
    simp only [descriptorOf, primitiveType, yields_seq, yields_map]
    exact fun _ _ _ _ => ⟨rfl, trivial⟩
  | array =>
    simp only [descriptorOf, arrayType, yields_seq, yields_map]
    exact fun item given _ _ => ⟨rfl, yields_required items.admits found _ item given⟩
  | enum =>
    simp only [descriptorOf, enumType, yields_seq, yields_map]
    exact fun _ _ _ _ => ⟨rfl, trivial⟩
  | union =>
    simp only [descriptorOf, unionType, yields_seq, yields_map]
    exact fun members given _ _ => ⟨rfl, yields_required items.table.admits found _ members given⟩
  | struct =>
    simp only [descriptorOf, structType, yields_seq, yields_map]
    exact fun _ _ held given _ _ _ _ =>
      ⟨rfl, yields_optional nofun fields.list.admits found _ held given⟩
  | resource =>
    simp only [descriptorOf, resourceType, yields_map]
    exact fun _ _ => ⟨rfl, trivial⟩
  | unknown =>
    simp only [descriptorOf, unknownType, yields_map]
    exact fun _ _ => ⟨rfl, trivial⟩

end Held

/-- **Descriptors are read back exactly as far as there is room for their marks.** -/
theorem descriptorIn_inverts (nesting : Nesting) :
    Inverts (descriptorIn nesting) TypeRef.toValue (TypeRef.FitsIn nesting) := by
  induction room : nesting.room using Nat.strongRecOn generalizing nesting with
  | ind room' ih =>
    subst room
    -- what is open inside a descriptor leaves less room, and so does what is open inside its fields
    have below (inner : Nesting) (less : inner.room < nesting.room) :
        Inverts (descriptorIn inner) TypeRef.toValue (TypeRef.FitsIn inner) ∧
          Inverts (fieldIn inner) Field.toValue
            fun field => field.type.marksIn .field + 1 ≤ inner.room :=
      ⟨ih inner.room less inner rfl,
        fieldIn_inverts fun inside lower => ih inside.room (Nat.lt_trans lower less) inside rfl⟩
    constructor
    case reads =>
      intro type fits
      have plain : Document.number? { value := type.toValue } = none := by
        rw [type.toValue_eq_record]
        rfl
      have enough : nesting.scope.marks type.kind ≤ nesting.room := by
        refine Nat.le_trans ?_ fits
        cases type <;> simp [TypeRef.marksIn, TypeRef.kind]
      obtain ⟨inner, entered⟩ := Nesting.exists_enter plain enough
      obtain ⟨scope, left⟩ := Nesting.of_enter entered
      obtain ⟨items, fields⟩ := below inner (Nesting.room_lt_of_enter entered)
      have held := descriptorOf_written items fields ((TypeRef.fitsIn_iff scope left).mp fits)
      rw [type.toValue_eq_record] at entered ⊢
      rw [descriptorIn_written (descriptorKind_written type), entered]
      dsimp only
      rw [held]
      rfl
    case admits =>
      intro document
      rw [descriptorIn_eq]
      split
      · split
        · exact yields_refuse _
        · next kind _ =>
          refine yields_under.mpr ?_
          split
          · exact yields_refuse _
          · next inner entered =>
            obtain ⟨scope, left⟩ := Nesting.of_enter entered
            obtain ⟨items, fields⟩ := below inner (Nesting.room_lt_of_enter entered)
            intro type given
            obtain ⟨rfl, fits⟩ := yields_descriptorOf items fields kind _ type given
            exact (TypeRef.fitsIn_iff scope left).mpr fits
      · exact yields_refuse _

end Checked
end TypedRpc
