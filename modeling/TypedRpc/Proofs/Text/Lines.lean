import Mathlib.Data.List.Infix
import TypedRpc.Text.Lines

/-!
# Lines and margins

Cutting a text into lines loses what ended them: no line holds a character that ends one, whichever
of the ten it is.  A stretch without such a character is never cut, so that indenting puts a margin
before it and leaves it as it is; a stretch with one does not come out in one piece.

* `isLineEnd_of_mem_splitLines`: no line holds a line end.
* `splitLines_append_feed`: a stretch up to a line feed is a line.
* `infix_indentChars`: what is a line of a text stands in the indented text as well.
* `eq_feed_of_mem_indentChars`: line feeds are all that ends a line of an indented text.
-/

namespace TypedRpc
namespace Text

/-! ## Cutting -/

/-- A text in which no character ends a line, as it is found out. -/
theorem isLineEnd_of_all {cs : List Char} (clear : cs.all fun c => !isLineEnd c) :
    ∀ c ∈ cs, isLineEnd c = false := by
  simpa using clear

/-- A line feed ends an empty line. -/
theorem splitLines_feed (rest : List Char) : splitLines ('\n' :: rest) = [] :: splitLines rest := by
  rw [splitLines]
  · rw [if_pos (by decide)]
  · simp

/-- A character that ends no line belongs to the first one. -/
theorem splitLines_cons {c : Char} (inside : isLineEnd c = false) (rest : List Char) :
    splitLines (c :: rest) =
      match splitLines rest with
      | [] => [[c]]
      | line :: lines => (c :: line) :: lines := by
  rw [splitLines]
  · rw [inside]
    rfl
  · rintro others rfl
    exact absurd inside (by decide)

/-- **A stretch up to a line feed is a line**, where nothing in it ends one. -/
theorem splitLines_append_feed {line : List Char} (whole : ∀ c ∈ line, isLineEnd c = false)
    (rest : List Char) : splitLines (line ++ '\n' :: rest) = line :: splitLines rest := by
  induction line with
  | nil => exact splitLines_feed rest
  | cons c line ih =>
    rw [List.forall_mem_cons] at whole
    rw [List.cons_append, splitLines_cons whole.1, ih whole.2]

/-- **No line holds a line end.** -/
theorem isLineEnd_of_mem_splitLines {cs : List Char} :
    ∀ line ∈ splitLines cs, ∀ c ∈ line, isLineEnd c = false := by
  induction cs using splitLines.induct with
  | case1 => simp [splitLines]
  | case2 rest ih =>
    rw [splitLines]
    exact List.forall_mem_cons.mpr ⟨by simp, ih⟩
  | case3 c rest other ends ih =>
    rw [splitLines, if_pos ends]
    · exact List.forall_mem_cons.mpr ⟨by simp, ih⟩
    · exact other
  | case4 c rest other inside none ih =>
    rw [Bool.not_eq_true] at inside
    rw [splitLines_cons inside, none]
    simpa using inside
  | case5 c rest other inside line lines first ih =>
    rw [Bool.not_eq_true] at inside
    rw [splitLines_cons inside, first]
    rw [first, List.forall_mem_cons] at ih
    exact List.forall_mem_cons.mpr ⟨List.forall_mem_cons.mpr ⟨inside, ih.1⟩, ih.2⟩

/-! ## Joining -/

section Joining

variable {α : Type} {separator part : List α} {parts : List (List α)}

/-- What is joined stands in the result. -/
theorem infix_intercalate (listed : part ∈ parts) : part <:+: separator.intercalate parts := by
  induction parts with
  | nil => exact absurd listed List.not_mem_nil
  | cons first parts ih =>
    cases parts with
    | nil =>
      rw [List.mem_singleton.mp listed, List.intercalate_singleton]
    | cons second parts =>
      rw [List.intercalate_cons_cons]
      rcases List.mem_cons.mp listed with rfl | behind
      · exact List.infix_append_of_infix_left (List.infix_append [] part separator)
      · exact (ih behind).trans (List.suffix_append _ _).isInfix

/-- What stands in the result is in something that is joined or in what stands between. -/
theorem mem_of_mem_intercalate {a : α} (held : a ∈ separator.intercalate parts) :
    a ∈ separator ∨ ∃ part ∈ parts, a ∈ part := by
  induction parts with
  | nil => exact absurd held List.not_mem_nil
  | cons first parts ih =>
    cases parts with
    | nil =>
      rw [List.intercalate_singleton] at held
      exact .inr ⟨first, List.mem_cons_self, held⟩
    | cons second parts =>
      rw [List.intercalate_cons_cons, List.mem_append, List.mem_append] at held
      rcases held with (here | between) | behind
      · exact .inr ⟨first, List.mem_cons_self, here⟩
      · exact .inl between
      · refine (ih behind).imp_right ?_
        rintro ⟨part, listed, inside⟩
        exact ⟨part, List.mem_cons_of_mem _ listed, inside⟩

end Joining

/-! ## Margins -/

section Margins

variable {margin line cs : List Char}

theorem infix_indentLine (margin line : List Char) : line <:+: indentLine margin line := by
  cases line with
  | nil => exact List.infix_rfl
  | cons c line => exact (List.suffix_append margin (c :: line)).isInfix

/-- What is a line of a text stands in the indented text as well. -/
theorem infix_indentChars (listed : line ∈ splitLines cs) : line <:+: indentChars margin cs :=
  (infix_indentLine margin line).trans (infix_intercalate (List.mem_map_of_mem listed))

theorem mem_of_mem_indentLine {c : Char} (held : c ∈ indentLine margin line) :
    c ∈ margin ∨ c ∈ line := by
  cases line with
  | nil => exact absurd held List.not_mem_nil
  | cons d line => exact List.mem_append.mp held

/-- **Line feeds are all that ends a line of an indented text**, unless the margin ends lines. -/
theorem eq_feed_of_mem_indentChars (clear : ∀ c ∈ margin, isLineEnd c = false) {c : Char}
    (held : c ∈ indentChars margin cs) (ends : isLineEnd c) : c = '\n' := by
  rcases mem_of_mem_intercalate held with between | ⟨part, listed, inside⟩
  · exact List.mem_singleton.mp between
  · exfalso
    obtain ⟨line, cut, rfl⟩ := List.mem_map.mp listed
    rcases mem_of_mem_indentLine inside with before | behind
    · exact Bool.false_ne_true ((clear c before).symm.trans ends)
    · exact Bool.false_ne_true ((isLineEnd_of_mem_splitLines line cut c behind).symm.trans ends)

end Margins

end Text
end TypedRpc
