import Mathlib.Data.List.Forall2
import TypedRpc.Proofs.Target.Literal
import TypedRpc.Proofs.Verification.RpcConfig

/-!
# Selections that hold names

A selection that holds nothing but names is a list of trees: a field is a leaf, a relationship with
a selection of its own is a node.  Classes and literals are made of such selections only, and the
well-formed queries have them.

* `NameTree.preorder`: a selection and those nested in it, each before the ones nested in itself.
* `TypedQuery.holdNames_of_wellFormed`: a well-formed query selects names.
* `Typing.itemLiterals_isOk_iff`: a selection can be written as a literal exactly when it holds
  names.
* `NameTree.listLiteral_inj`: selections that are written alike are the same.
-/

namespace TypedRpc

/-- A field, or a relationship with a selection of its own. -/
inductive NameTree where
  | field (name : String)
  | nested (name : String) (inner : List NameTree)

namespace NameTree

/-- The name at the root. -/
def name : NameTree → String
  | .field name => name
  | .nested name _ => name

/-- Induction on a selection: over the items behind the first one and, when the first one is a
relationship, over what is selected of it. -/
theorem items_induction {motive : List NameTree → Prop} (nil : motive [])
    (field : ∀ name rest, motive rest → motive (.field name :: rest))
    (nested : ∀ name inner rest, motive inner → motive rest →
      motive (.nested name inner :: rest)) :
    ∀ items, motive items
  | [] => nil
  | .field name :: rest => field name rest (items_induction nil field nested rest)
  | .nested name inner :: rest =>
    nested name inner rest (items_induction nil field nested inner)
      (items_induction nil field nested rest)

mutual

/-- The item of a selection that a tree stands for. -/
def selection : NameTree → Selection
  | .field name => .field name
  | .nested name inner => .nested (.text name) (selections inner)

/-- The selection that trees stand for. -/
def selections : List NameTree → List Selection
  | [] => []
  | item :: rest => item.selection :: selections rest

end

mutual

/-- A tree with other names. -/
def rename (f : String → String) : NameTree → NameTree
  | .field name => .field (f name)
  | .nested name inner => .nested (f name) (renameAll f inner)

/-- Trees with other names. -/
def renameAll (f : String → String) : List NameTree → List NameTree
  | [] => []
  | item :: rest => item.rename f :: renameAll f rest

end

/-- A selection at the end of a path of relationships. -/
structure Branch where
  path : List String
  items : List NameTree

/-- The names in a selection without those nested in it. -/
def Branch.names (branch : Branch) : List String :=
  branch.items.map name

mutual

/-- The selections in a tree at the end of a path. -/
def branches (path : List String) : NameTree → List Branch
  | .field _ => []
  | .nested name inner => ⟨path ++ [name], inner⟩ :: branchesBelow (path ++ [name]) inner

/-- The selections that are nested in one at the end of a path. -/
def branchesBelow (path : List String) : List NameTree → List Branch
  | [] => []
  | item :: rest => branches path item ++ branchesBelow path rest

end

/-- A selection and all those that are nested in it, in preorder. -/
def preorder (items : List NameTree) : List Branch :=
  ⟨[], items⟩ :: branchesBelow [] items

mutual

/-- A tree as a literal. -/
def literal : NameTree → String
  | .field name => Target.stringLiteral name
  | .nested name inner =>
    "mapOf(" ++ Target.stringLiteral name ++ " to " ++ Typing.listLiteral (literals inner) ++ ")"

/-- Trees as literals. -/
def literals : List NameTree → List String
  | [] => []
  | item :: rest => item.literal :: literals rest

end

/-- A selection as a literal. -/
def listLiteral (items : List NameTree) : String :=
  Typing.listLiteral (literals items)

/-! ## Other names -/

@[simp]
theorem name_rename (f : String → String) (item : NameTree) :
    (item.rename f).name = f item.name := by
  cases item <;> simp [rename, name]

theorem map_name_renameAll (f : String → String) (items : List NameTree) :
    (renameAll f items).map name = items.map fun item => f item.name := by
  induction items with
  | nil => rfl
  | cons item rest ih => rw [renameAll, List.map_cons, List.map_cons, name_rename, ih]

/-- The names of nested selections are replaced where they stand. -/
theorem map_names_branchesBelow (f : String → String) (items : List NameTree)
    (path : List String) :
    (branchesBelow (path.map f) (renameAll f items)).map Branch.names =
      (branchesBelow path items).map fun branch => branch.names.map f := by
  induction items using items_induction generalizing path with
  | nil => rfl
  | field name rest rest_ih =>
    simpa [renameAll, rename, branchesBelow, branches] using rest_ih path
  | nested name inner rest inner_ih rest_ih =>
    have below := inner_ih (path ++ [name])
    rw [List.map_append, List.map_singleton] at below
    simp [renameAll, rename, branchesBelow, branches, Branch.names, below, rest_ih path,
      map_name_renameAll, Function.comp_def]

/-- The names of a selection and of those nested in it are replaced where they stand. -/
theorem map_names_preorder (f : String → String) (items : List NameTree) :
    (preorder (renameAll f items)).map Branch.names =
      (preorder items).map fun branch => branch.names.map f := by
  have below := map_names_branchesBelow f items []
  rw [List.map_nil] at below
  rw [preorder, preorder, List.map_cons, List.map_cons, below, Branch.names, map_name_renameAll,
    Branch.names, List.map_map]
  rfl

/-! ## Literals are unambiguous -/

/-- What stands behind the opening of the literal of a selection. -/
def closing (items : List NameTree) (after : List Char) : List Char :=
  (Text.listing (literals items)).toList ++ ')' :: after

/-- What stands behind an item in the literal of a selection. -/
def following (rest : List NameTree) (after : List Char) : List Char :=
  match rest with
  | [] => ')' :: after
  | item :: rest => ',' :: ' ' :: closing (item :: rest) after

theorem toList_listLiteral (items : List NameTree) :
    (listLiteral items).toList = "listOf(".toList ++ closing items [] := by
  simp [listLiteral, Typing.listLiteral, closing]

theorem closing_cons (item : NameTree) (rest : List NameTree) (after : List Char) :
    closing (item :: rest) after = item.literal.toList ++ following rest after := by
  cases rest with
  | nil => simp [closing, following, literals, Text.listing]
  | cons next rest =>
    simp [closing, following, literals, Text.listing, String.intercalate_cons_cons]

theorem closing_field (name : String) (rest : List NameTree) (after : List Char) :
    closing (.field name :: rest) after =
      Target.stringLiteralChars name.toList ++ following rest after := by
  rw [closing_cons, literal, Target.stringLiteral, String.toList_ofList]

theorem closing_nested (name : String) (inner rest : List NameTree) (after : List Char) :
    closing (.nested name inner :: rest) after =
      "mapOf(".toList ++ (Target.stringLiteralChars name.toList ++
        (" to listOf(".toList ++ closing inner (')' :: following rest after))) := by
  rw [closing_cons, literal]
  simp [Target.stringLiteral, Typing.listLiteral, closing]

/-- The first character behind the opening of the literal of a selection. -/
def firstChar : List NameTree → Char
  | [] => ')'
  | .field _ :: _ => '"'
  | .nested _ _ :: _ => 'm'

/-- The first character tells whether the literal ends, and which kind of item comes first. -/
theorem firstChar_eq {items others : List NameTree} {after further : List Char}
    (same : closing items after = closing others further) : firstChar items = firstChar others := by
  have head (items : List NameTree) (after : List Char) :
      (closing items after).head? = some (firstChar items) := by
    match items with
    | [] => rfl
    | .field _ :: _ => rw [closing_field]; rfl
    | .nested _ _ :: _ => rw [closing_nested]; rfl
  have heads := congrArg List.head? same
  rw [head, head] at heads
  exact Option.some.inj heads

/-- Behind an item, the literal goes on with another one or ends. -/
theorem following_inj {rest others : List NameTree} {after further : List Char}
    (inj : ∀ {others after further}, closing rest after = closing others further →
      rest = others ∧ after = further)
    (same : following rest after = following others further) : rest = others ∧ after = further := by
  cases rest with
  | nil =>
    cases others with
    | nil => exact ⟨rfl, (List.cons.inj same).2⟩
    | cons _ _ => cases (List.cons.inj same).1
  | cons item rest =>
    cases others with
    | nil => cases (List.cons.inj same).1
    | cons _ _ => exact inj (List.cons.inj (List.cons.inj same).2).2

/-- The literal of a selection tells its items, and what stands behind it. -/
theorem closing_inj {items others : List NameTree} {after further : List Char}
    (same : closing items after = closing others further) : items = others ∧ after = further := by
  -- What stands behind a nested selection belongs to the ones around it, so it is not fixed.
  induction items using items_induction generalizing others after further with
  | nil =>
    match others with
    | [] => exact ⟨rfl, (List.cons.inj same).2⟩
    | .field _ :: _ | .nested _ _ :: _ => cases firstChar_eq same
  | field name rest ih =>
    match others with
    | .field _ :: _ =>
      rw [closing_field, closing_field] at same
      obtain ⟨names, same⟩ := Target.stringLiteralChars_append_inj same
      obtain ⟨rfl, rfl⟩ := following_inj ih same
      rw [String.toList_inj.mp names]
      exact ⟨rfl, rfl⟩
    | [] | .nested _ _ :: _ => cases firstChar_eq same
  | nested name inner rest inner_ih rest_ih =>
    match others with
    | .nested _ _ :: _ =>
      rw [closing_nested, closing_nested, List.append_cancel_left_eq] at same
      obtain ⟨names, behind_name⟩ := Target.stringLiteralChars_append_inj same
      rw [List.append_cancel_left_eq] at behind_name
      obtain ⟨rfl, behind_inner⟩ := inner_ih behind_name
      obtain ⟨rfl, rfl⟩ := following_inj rest_ih (List.cons.inj behind_inner).2
      rw [String.toList_inj.mp names]
      exact ⟨rfl, rfl⟩
    | [] | .field _ :: _ => cases firstChar_eq same

/-- **Selections that are written alike are the same.** -/
theorem listLiteral_inj {items others : List NameTree}
    (same : listLiteral items = listLiteral others) : items = others := by
  have chars := congrArg String.toList same
  rw [toList_listLiteral, toList_listLiteral] at chars
  exact (closing_inj (List.append_cancel_left chars)).1

/-! ## Selections of names -/

/-- Selections that hold names can be joined. -/
theorem selections_append (items others : List NameTree) :
    selections (items ++ others) = selections items ++ selections others := by
  induction items with
  | nil => rfl
  | cons item rest ih => rw [List.cons_append, selections, ih, selections, List.cons_append]

end NameTree

/-- Whether a selection holds names only. -/
def Selection.HoldNames (items : List Selection) : Prop :=
  ∃ names, items = NameTree.selections names

namespace Selection

theorem holdNames_nil : HoldNames [] :=
  ⟨[], rfl⟩

theorem HoldNames.field (name : String) {rest : List Selection} (others : HoldNames rest) :
    HoldNames (.field name :: rest) := by
  obtain ⟨names, rfl⟩ := others
  exact ⟨.field name :: names, rfl⟩

theorem HoldNames.nested (name : String) {inner rest : List Selection} (below : HoldNames inner)
    (others : HoldNames rest) : HoldNames (.nested (.text name) inner :: rest) := by
  obtain ⟨names, rfl⟩ := below
  obtain ⟨more, rfl⟩ := others
  exact ⟨.nested name names :: more, rfl⟩

theorem HoldNames.append {items others : List Selection} (left : HoldNames items)
    (right : HoldNames others) : HoldNames (items ++ others) := by
  obtain ⟨names, rfl⟩ := left
  obtain ⟨more, rfl⟩ := right
  exact ⟨names ++ more, (NameTree.selections_append names more).symm⟩

theorem holdNames_flatMap {α : Type} {items : List α} {f : α → List Selection}
    (h : ∀ item ∈ items, HoldNames (f item)) : HoldNames (items.flatMap f) := by
  induction items with
  | nil => exact holdNames_nil
  | cons item rest ih =>
    rw [List.flatMap_cons]
    exact (h item (List.mem_cons_self ..)).append
      (ih fun other listed => h other (List.mem_cons_of_mem _ listed))

mutual

theorem holdNames_ofItems : ∀ values : List Value, Value.areSelectionItems values →
    HoldNames (ofItems values)
  | [], _ => holdNames_nil
  | .text name :: rest, h => by
    simp only [Value.areSelectionItems, Value.isSelectionItem, Bool.true_and] at h
    exact (holdNames_ofItems rest h).field name
  | .map entries :: rest, h => by
    simp only [Value.areSelectionItems, Value.isSelectionItem, Bool.and_eq_true] at h
    exact (holdNames_ofEntries entries h.1).append (holdNames_ofItems rest h.2)
  | .null :: _, h | .bool _ :: _, h | .int _ :: _, h | .float _ :: _, h | .bytes _ :: _, h
  | .date _ :: _, h | .moment _ :: _, h | .list _ :: _, h | .tuple _ :: _, h | .set _ :: _, h
  | .part _ _ :: _, h => by
    simp [Value.areSelectionItems, Value.isSelectionItem] at h

theorem holdNames_ofEntries : ∀ entries : List (Value × Value), Value.areNested entries →
    HoldNames (ofEntries entries)
  | [], _ => holdNames_nil
  | (key, .list values) :: rest, h => by
    simp only [Value.areNested, Value.isSelection, Bool.and_eq_true] at h
    cases key with
    | text name =>
      exact (holdNames_ofItems values h.1.2).nested name (holdNames_ofEntries rest h.2)
    | _ => simp [Value.asText?] at h
  | (_, .null) :: _, h | (_, .bool _) :: _, h | (_, .int _) :: _, h | (_, .float _) :: _, h
  | (_, .text _) :: _, h | (_, .bytes _) :: _, h | (_, .date _) :: _, h | (_, .moment _) :: _, h
  | (_, .tuple _) :: _, h | (_, .map _) :: _, h | (_, .set _) :: _, h | (_, .part _ _) :: _, h => by
    simp [Value.areNested, Value.isSelection] at h

end

end Selection

/-- **A query whose nested selections are well formed selects names.** -/
theorem TypedQuery.holdNames_of_wellFormed {query : TypedQuery} (h : query.wellFormed) :
    Selection.HoldNames query.selection := by
  refine Selection.holdNames_flatMap fun entry listed => ?_
  have formed := List.all_eq_true.mp h entry listed
  cases entry with
  | field name => exact Selection.holdNames_nil.field name
  | nested selections =>
    rw [Selection.ofEntry, ← List.flatMap_pure_eq_map]
    refine Selection.holdNames_flatMap fun selection held => ?_
    have items := List.all_eq_true.mp formed selection held
    exact (Selection.holdNames_ofItems _ items).nested _ Selection.holdNames_nil

/-! ## Selections that can be written -/

section Writing

variable (typing : Typing)

/-- The names of a selection are written under the convention of the wire. -/
theorem Typing.itemLiterals_selections (items : List NameTree) :
    typing.itemLiterals (NameTree.selections items) =
      .ok (NameTree.literals (NameTree.renameAll typing.options.outputFormat.apply items)) := by
  induction items using NameTree.items_induction with
  | nil => rfl
  | field name rest ih =>
    rw [NameTree.selections, NameTree.selection, itemLiterals, ih]
    rfl
  | nested name inner rest inner_ih rest_ih =>
    rw [NameTree.selections, NameTree.selection, itemLiterals, itemLiteral, inner_ih, rest_ih]
    rfl

theorem keyText_eq_ok_iff {key : Value} {name : String} :
    keyText key = .ok name ↔ key = .text name := by
  cases key <;> simp [keyText]

/-- Where a selection has been written, all that has been met in it are names. -/
theorem Typing.holdNames_of_itemLiterals : ∀ (items : List Selection) {texts : List String},
    typing.itemLiterals items = .ok texts → Selection.HoldNames items
  | [], _, _ => Selection.holdNames_nil
  | item :: rest, texts, written => by
    rw [itemLiterals] at written
    obtain ⟨here, first, written⟩ := bind_eq_ok_iff.mp written
    obtain ⟨more, others, -⟩ := bind_eq_ok_iff.mp written
    have rest_names := holdNames_of_itemLiterals rest others
    cases item with
    | field name => exact rest_names.field name
    | nested key inner =>
      rw [itemLiteral] at first
      obtain ⟨_, below, first⟩ := bind_eq_ok_iff.mp first
      obtain ⟨name, known, -⟩ := bind_eq_ok_iff.mp first
      rw [keyText_eq_ok_iff.mp known]
      exact (holdNames_of_itemLiterals inner below).nested name rest_names
    | unusable _ _ => cases first
    | stray _ => cases first

/-- **A selection can be written exactly when it holds names.** -/
theorem Typing.itemLiterals_isOk_iff {items : List Selection} :
    (∃ texts, typing.itemLiterals items = .ok texts) ↔ Selection.HoldNames items := by
  constructor
  · rintro ⟨_, written⟩
    exact typing.holdNames_of_itemLiterals items written
  · rintro ⟨names, rfl⟩
    exact ⟨_, typing.itemLiterals_selections names⟩

end Writing

end TypedRpc
