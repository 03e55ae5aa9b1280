import Mathlib.Data.List.Infix
import TypedRpc.Text.Blocks

/-!
# Words inside texts

A word may occur in a text by itself or inside a longer word.  Which it is depends on the characters
next to it, and on what counts as a part of a word; where nothing does, every occurrence is one by
itself.  A character that is no part of a word, and does not occur in the word that is looked for,
parts a text into two: what occurs in the text occurs on one side of it.

* `occursIn_iff`: the search for a text inside another one.
* `StandsIn`, `standsIn_of_nothing_iff`: words by themselves.
* `standsIn_cons_iff`: on which side of a separator a word stands.
* `infix_append_iff_of_head`, `infix_append_iff_of_last`: what can be left away from a text because
  a word does not begin, or does not end, in it.
-/

namespace TypedRpc
namespace Text

theorem startsWith_iff {head cs : List Char} : startsWith head cs ↔ head <+: cs := by
  induction head generalizing cs with
  | nil => simp [startsWith]
  | cons h head ih =>
    cases cs with
    | nil => simp [startsWith]
    | cons c cs => simp [startsWith, ih, List.cons_prefix_cons]

/-- A text occurs in another one exactly when it is a stretch of it. -/
theorem occursIn_iff {part cs : List Char} : occursIn part cs ↔ part <:+: cs := by
  induction cs with
  | nil => simp [occursIn]
  | cons c cs ih => rw [occursIn, Bool.or_eq_true, startsWith_iff, ih, List.infix_cons_iff]

/-- Whether a word stands in a text by itself: no part of a word is directly before or behind it. -/
def StandsIn (isPart : Char → Bool) (word cs : List Char) : Prop :=
  ∃ before after, before ++ (word ++ after) = cs ∧
    (∀ c ∈ before.getLast?, ¬isPart c) ∧ ∀ c ∈ after.head?, ¬isPart c

section Standing

variable {isPart : Char → Bool} {word cs : List Char}

/-- A word that stands by itself occurs. -/
theorem StandsIn.occurs (stands : StandsIn isPart word cs) : word <:+: cs := by
  obtain ⟨before, after, split, -⟩ := stands
  exact ⟨before, after, by rw [List.append_assoc, split]⟩

/-- A word that does not occur does not stand by itself either. -/
theorem not_standsIn_of_not_occursIn (absent : occursIn word cs = false) :
    ¬StandsIn isPart word cs := by
  intro stands
  rw [occursIn_iff.mpr stands.occurs] at absent
  cases absent

/-- Where nothing is part of a word, every word that occurs stands by itself. -/
theorem standsIn_of_nothing_iff : StandsIn (fun _ => false) word cs ↔ word <:+: cs := by
  refine ⟨StandsIn.occurs, ?_⟩
  rintro ⟨before, after, split⟩
  exact ⟨before, after, by rw [← List.append_assoc, split], by simp, by simp⟩

/-- A word stands in itself. -/
theorem standsIn_self (isPart : Char → Bool) (word : List Char) : StandsIn isPart word word :=
  ⟨[], [], by simp, by simp, by simp⟩

/-- **A word stands on one side of a separator**, or on the other. -/
theorem standsIn_cons_iff {separator : Char} (between : isPart separator = false)
    (some : word ≠ []) (whole : separator ∉ word) {before after : List Char} :
    StandsIn isPart word (before ++ separator :: after) ↔
      StandsIn isPart word before ∨ StandsIn isPart word after := by
  constructor
  · rintro ⟨left, right, split, leftEnd, rightEnd⟩
    rcases List.append_eq_append_iff.mp split with ⟨behind, rfl, rest⟩ | ⟨behind, rfl, rest⟩
    · -- the word begins in front of the separator, and so it ends there
      refine .inl ?_
      rcases List.append_eq_append_iff.mp rest with ⟨left', rfl, rfl⟩ | ⟨left', same, rest'⟩
      · refine ⟨left, left', rfl, leftEnd, fun c first => ?_⟩
        exact rightEnd c (List.mem_head?_append_of_mem_head? first)
      · cases left' with
        | nil =>
          rw [List.append_nil] at same
          exact ⟨left, [], by rw [same, List.append_nil], leftEnd, by simp⟩
        | cons c left' =>
          obtain rfl : separator = c := (List.cons.inj rest').1
          exact absurd (same ▸ List.mem_append_right _ List.mem_cons_self) whole
    · refine .inr ?_
      cases behind with
      | nil =>
        obtain ⟨c, word, rfl⟩ := List.exists_cons_of_ne_nil some
        obtain rfl : separator = c := (List.cons.inj rest).1
        exact absurd List.mem_cons_self whole
      | cons c behind =>
        obtain ⟨rfl, rfl⟩ := List.cons.inj rest
        refine ⟨behind, right, rfl, fun last ends => leftEnd last ?_, rightEnd⟩
        rw [List.getLast?_append, List.getLast?_cons, ends]
        rfl
  · rintro (⟨left, right, rfl, leftEnd, rightEnd⟩ | ⟨left, right, rfl, leftEnd, rightEnd⟩)
    · refine ⟨left, right ++ separator :: after, by simp, leftEnd, ?_⟩
      cases right with
      | nil => simpa using between
      | cons c right => exact rightEnd
    · refine ⟨before ++ separator :: left, right, by simp, ?_, rightEnd⟩
      intro last ends
      rw [List.getLast?_append, List.getLast?_cons, Option.some_or, Option.mem_some] at ends
      cases final : left.getLast? with
      | none =>
        rw [final] at ends
        obtain rfl : separator = last := ends
        simpa using between
      | some c =>
        rw [final] at ends
        obtain rfl : c = last := ends
        exact leftEnd c final

end Standing

/-! ## Leaving stretches away -/

section Stretches

variable {word before after : List Char} {c : Char}

/-- What holds no separator occurs on one side of it, or on the other. -/
theorem infix_append_cons_iff (some : word ≠ []) (whole : c ∉ word) :
    word <:+: before ++ c :: after ↔ word <:+: before ∨ word <:+: after := by
  have standing : StandsIn (fun _ => false) word (before ++ c :: after) ↔
      StandsIn (fun _ => false) word before ∨ StandsIn (fun _ => false) word after :=
    standsIn_cons_iff rfl some whole
  simpa only [standsIn_of_nothing_iff] using standing

/-- A word begins behind a stretch that does not hold its first character. -/
theorem infix_append_iff_of_head (absent : c ∉ before) :
    c :: word <:+: before ++ after ↔ c :: word <:+: after := by
  induction before with
  | nil => rfl
  | cons d before ih =>
    rw [List.mem_cons, not_or] at absent
    rw [List.cons_append, List.infix_cons_iff, ih absent.2, List.cons_prefix_cons]
    exact or_iff_right fun first => absent.1 first.1

/-- A word ends in front of a stretch that does not hold its last character. -/
theorem infix_append_iff_of_last (absent : c ∉ after) :
    word ++ [c] <:+: before ++ after ↔ word ++ [c] <:+: before := by
  calc word ++ [c] <:+: before ++ after
      ↔ c :: word.reverse <:+: after.reverse ++ before.reverse := by
        rw [← List.reverse_infix, List.reverse_concat, List.reverse_append]
    _ ↔ c :: word.reverse <:+: before.reverse :=
        infix_append_iff_of_head (mt List.mem_reverse.mp absent)
    _ ↔ word ++ [c] <:+: before := by
        rw [← List.reverse_concat, List.reverse_infix]

end Stretches

end Text
end TypedRpc
