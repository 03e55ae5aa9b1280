import TypedRpc.Proofs.Results
import TypedRpc.Proofs.Value.Document
import TypedRpc.Yaml.Reader

/-!
# What YAML documents hold

A document keeps its collections under numbers, each filled once with what it holds.  What it is
filled with is a collection again, never a scalar or another number, and a map that it is filled
with has no key twice.

* `Yaml.Graph.filled_of_fill`: the invariant of filling.
* `Yaml.read_cases`, `Yaml.keysDiffer_of_read`: the documents that texts stand for.
-/

namespace TypedRpc

namespace Yaml

theorem isScalar_of_timestampOf {text : String} {value : Value}
    (read : timestampOf text = .ok value) : value.IsScalar := by
  unfold timestampOf at read
  split at read
  · cases read
  · dsimp only at read
    split at read
    · obtain ⟨date, -, same⟩ := bind_eq_ok_iff.mp read
      cases same
      trivial
    · obtain ⟨offset, -, read⟩ := bind_eq_ok_iff.mp read
      obtain ⟨date, -, read⟩ := bind_eq_ok_iff.mp read
      repeat'
        split at read
        · cases read
      cases read
      trivial

/-- What a scalar stands for is no collection. -/
theorem isScalar_of_scalarValue {tag : Tag} {text : String} {value : Value}
    (read : scalarValue tag text = .ok value) : value.IsScalar := by
  have mapped {α : Type} {work : Except Failure α} {form : α → Value}
      (read : work.map form = .ok value) (scalar : ∀ a, (form a).IsScalar) : value.IsScalar := by
    obtain ⟨a, -, rfl⟩ := map_eq_ok_iff.mp read
    exact scalar a
  cases tag with
  | null | text =>
    cases read
    trivial
  | bool | int | float | binary => exact mapped read fun _ => trivial
  | timestamp => exact isScalar_of_timestampOf read
  | merge | value | unknown | orderedMap | pairs | set | sequence | mapping => cases read

namespace Graph

variable {graph : Graph} {node : Node} {value : Value}

theorem isScalar_of_scalarOf {tag : Tag} (read : graph.scalarOf tag node = .ok value) :
    value.IsScalar := by
  unfold scalarOf at read
  split at read
  · cases read
  · obtain ⟨text, -, read⟩ := bind_eq_ok_iff.mp read
    split at read
    · cases read
    · exact isScalar_of_scalarValue read

/-- The value of a node is a scalar, or refers to a collection. -/
theorem valueOf_cases (read : graph.valueOf node = .ok value) :
    value.IsScalar ∨ ∃ form number, value = .part form number := by
  unfold valueOf at read
  dsimp only at read
  split at read
  · cases read
    exact .inr ⟨_, _, rfl⟩
  · exact .inl (isScalar_of_scalarOf read)

theorem filled_of_contentOf {inner : List Node} (read : graph.contentOf node = .ok (value, inner)) :
    value.Filled := by
  unfold contentOf at read
  split at read
  -- sequences, and the two kinds of lists of pairs
  iterate 3
    obtain ⟨items, -, same⟩ := bind_eq_ok_iff.mp read
    cases same
    exact .list _
  · obtain ⟨entries, -, read⟩ := bind_eq_ok_iff.mp read
    obtain ⟨values, -, same⟩ := bind_eq_ok_iff.mp read
    cases same
    exact .map (Value.keysDiffer_ofEntries values)
  · obtain ⟨entries, -, read⟩ := bind_eq_ok_iff.mp read
    obtain ⟨values, -, same⟩ := bind_eq_ok_iff.mp read
    cases same
    exact .set _
  · cases read

/-- Filling collections leaves nothing else under their numbers. -/
theorem filled_of_fill {unfilled : List Nat} {parts result : Array Value} {queue : List Node}
    (filled : ∀ part ∈ parts, part.Filled)
    (read : graph.fill unfilled parts queue = .ok result) : ∀ part ∈ result, part.Filled := by
  induction unfilled, parts, queue using fill.induct graph with
  | case1 unfilled parts =>
    rw [fill] at read
    cases read
    exact filled
  | case2 unfilled parts node rest number listed ih =>
    rw [fill] at read
    simp only [number] at listed
    rw [dif_pos listed] at read
    obtain ⟨⟨content, inner⟩, here, read⟩ := bind_eq_ok_iff.mp read
    refine ih content inner (fun part held => ?_) read
    rcases Array.mem_or_eq_of_mem_setIfInBounds held with old | rfl
    · exact filled part old
    · exact filled_of_contentOf here
  | case3 unfilled parts node rest number listed outside =>
    rw [fill, dif_neg listed, if_pos outside] at read
    cases read
  | case4 unfilled parts node rest number listed inside ih =>
    rw [fill, dif_neg listed, if_neg inside] at read
    exact ih filled read

/-- What a document has under its numbers are collections, and its value is a scalar or refers to
one. -/
theorem document_cases {document : Document} (read : graph.document = .ok document) :
    document.Sound ∧
      (document.value.IsScalar ∨ ∃ form number, document.value = .part form number) := by
  obtain ⟨value, here, read⟩ := bind_eq_ok_iff.mp read
  obtain ⟨parts, filled, same⟩ := bind_eq_ok_iff.mp read
  cases same
  refine ⟨filled_of_fill (fun part held => ?_) filled, valueOf_cases here⟩
  rw [(Array.mem_replicate.mp held).2]
  exact .nothing

end Graph

variable {text : List Char} {document : Document}

/-- **The documents that texts stand for.**  Nothing but collections stand under the numbers of a
document, and its value is a scalar or refers to one of them. -/
theorem read_cases (read : Yaml.read text = .ok document) :
    document.Sound ∧
      (document.value.IsScalar ∨ ∃ form number, document.value = .part form number) := by
  unfold Yaml.read at read
  obtain ⟨graph, -, read⟩ := bind_eq_ok_iff.mp read
  cases graph with
  | none =>
    cases read
    exact ⟨nofun, .inl trivial⟩
  | some graph => exact Graph.document_cases read

/-- A map that a text stands for has no key twice. -/
theorem keysDiffer_of_read (read : Yaml.read text = .ok document)
    {found : List (Value × Value)} (content : document.content = .map found) :
    Value.KeysDiffer found := by
  obtain ⟨sound, scalar | ⟨form, number, refers⟩⟩ := read_cases read
  · have itself : document.content = document.value := by
      unfold Document.content
      split
      · next refers => exact absurd scalar (by rw [refers]; exact id)
      · rfl
    rw [← itself, content] at scalar
    exact scalar.elim
  · rw [Document.content, refers] at content
    cases held : document.parts[number]? with
    | none => simp [held] at content
    | some part =>
      have same : part = .map found := by simpa [held] using content
      have filled := sound part (Array.mem_of_getElem? held)
      rw [same] at filled
      cases filled with
      | map differ => exact differ

end Yaml
end TypedRpc
