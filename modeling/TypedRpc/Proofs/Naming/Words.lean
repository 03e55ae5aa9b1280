import TypedRpc.Naming.Convention
import TypedRpc.Proofs.Grouping

/-!
# The words of a name

A name falls into pieces at its separators, and its words are the pieces that hold something.  So a
word that no separator interrupts is the first one, whatever follows it, and only a name of nothing
but separators has no words.  camelCase writes the words after each other without losing any of
them, because no form of a letter is empty.

* `words_append`: the first word and those of the rest; `words_of_whole`: a single word.
* `mem_of_mem_words`: the characters of words.
* `words_eq_nil_iff`: names without words.
* `camelCaseChars_eq_head_iff`: a name is its own first word in camelCase exactly when no other
  follows.
-/

namespace TypedRpc
namespace Naming

open Text

section Words

variable {isSeparator : Char → Bool}

theorem pieces_ne_nil (cs : List Char) : pieces isSeparator cs ≠ [] := by
  cases cs with
  | nil => exact List.cons_ne_nil _ _
  | cons c rest =>
    rw [pieces]
    split
    · exact List.cons_ne_nil _ _
    · split <;> exact List.cons_ne_nil _ _

/-- A character that separates nothing belongs to the first piece. -/
theorem pieces_cons_of_not {c : Char} (inside : ¬ isSeparator c) (cs : List Char) :
    ∃ piece others, pieces isSeparator cs = piece :: others ∧
      pieces isSeparator (c :: cs) = (c :: piece) :: others := by
  obtain ⟨piece, others, split⟩ := List.exists_cons_of_ne_nil (pieces_ne_nil cs)
  exact ⟨piece, others, split, by simp [pieces, inside, split]⟩

theorem pieces_cons_of_separator {c : Char} (between : isSeparator c) (cs : List Char) :
    pieces isSeparator (c :: cs) = [] :: pieces isSeparator cs := by
  simp [pieces, between]

/-- Characters that separate nothing are a piece when a separator follows, or nothing does. -/
theorem pieces_append {word rest : List Char} (whole : ∀ c ∈ word, ¬ isSeparator c)
    (ended : ∀ c ∈ rest.head?, isSeparator c) :
    pieces isSeparator (word ++ rest) = word :: (pieces isSeparator rest).tail := by
  induction word with
  | nil =>
    cases rest with
    | nil => rfl
    | cons c rest => simp [pieces_cons_of_separator (ended c rfl)]
  | cons c word ih =>
    rw [List.forall_mem_cons] at whole
    obtain ⟨piece, others, before, after⟩ := pieces_cons_of_not whole.1 (word ++ rest)
    rw [ih whole.2] at before
    injection before with first tail
    rw [List.cons_append, after, ← first, ← tail]

/-- Before a separator, or at the end, there is an empty piece. -/
theorem pieces_of_ended {rest : List Char} (ended : ∀ c ∈ rest.head?, isSeparator c) :
    pieces isSeparator rest = [] :: (pieces isSeparator rest).tail :=
  pieces_append (List.forall_mem_nil _) ended

/-- **A word that no separator interrupts is the first one**, and those of the rest follow. -/
theorem words_append {word rest : List Char} (some : word ≠ [])
    (whole : ∀ c ∈ word, ¬ isSeparator c) (ended : ∀ c ∈ rest.head?, isSeparator c) :
    words isSeparator (word ++ rest) = word :: words isSeparator rest := by
  rw [words, words, pieces_append whole ended, pieces_of_ended ended]
  simp [some]

/-- A text that no separator interrupts is its only word. -/
theorem words_of_whole {word : List Char} (some : word ≠ [])
    (whole : ∀ c ∈ word, ¬ isSeparator c) : words isSeparator word = [word] := by
  have ended : ∀ c ∈ ([] : List Char).head?, isSeparator c := fun c held => by cases held
  have alone := words_append some whole ended
  rwa [List.append_nil] at alone

theorem ne_nil_of_mem_words {cs word : List Char} (listed : word ∈ words isSeparator cs) :
    word ≠ [] := by
  simpa using (List.mem_filter.mp listed).2

/-- A character of a piece is one of the name, and separates nothing. -/
theorem mem_of_mem_pieces {cs piece : List Char} (listed : piece ∈ pieces isSeparator cs) {c : Char}
    (inside : c ∈ piece) : c ∈ cs ∧ ¬ isSeparator c := by
  induction cs generalizing piece with
  | nil =>
    rw [pieces, List.mem_singleton] at listed
    rw [listed] at inside
    exact absurd inside List.not_mem_nil
  | cons d rest ih =>
    by_cases between : isSeparator d
    · rw [pieces_cons_of_separator between] at listed
      rcases List.mem_cons.mp listed with rfl | later
      · exact absurd inside List.not_mem_nil
      · obtain ⟨source, whole⟩ := ih later inside
        exact ⟨List.mem_cons_of_mem d source, whole⟩
    · obtain ⟨first, others, before, after⟩ := pieces_cons_of_not between rest
      rw [after] at listed
      rw [before] at ih
      rcases List.mem_cons.mp listed with rfl | later
      · rcases List.mem_cons.mp inside with rfl | further
        · exact ⟨List.mem_cons_self, between⟩
        · obtain ⟨source, whole⟩ := ih List.mem_cons_self further
          exact ⟨List.mem_cons_of_mem d source, whole⟩
      · obtain ⟨source, whole⟩ := ih (List.mem_cons_of_mem first later) inside
        exact ⟨List.mem_cons_of_mem d source, whole⟩

/-- A character of a word is one of the name, and separates nothing. -/
theorem mem_of_mem_words {cs word : List Char} (listed : word ∈ words isSeparator cs) {c : Char}
    (inside : c ∈ word) : c ∈ cs ∧ ¬ isSeparator c :=
  mem_of_mem_pieces (List.mem_of_mem_filter listed) inside

/-- A character of a name that separates nothing is in a piece. -/
theorem exists_piece_of_mem {cs : List Char} {c : Char} (listed : c ∈ cs)
    (inside : ¬ isSeparator c) : ∃ piece ∈ pieces isSeparator cs, c ∈ piece := by
  induction cs with
  | nil => exact absurd listed List.not_mem_nil
  | cons d rest ih =>
    by_cases between : isSeparator d
    · rcases List.mem_cons.mp listed with rfl | later
      · exact absurd between inside
      · obtain ⟨piece, isPiece, within⟩ := ih later
        rw [pieces_cons_of_separator between]
        exact ⟨piece, List.mem_cons_of_mem _ isPiece, within⟩
    · obtain ⟨first, others, before, after⟩ := pieces_cons_of_not between rest
      rw [after]
      rw [before] at ih
      rcases List.mem_cons.mp listed with rfl | later
      · exact ⟨_, List.mem_cons_self, List.mem_cons_self⟩
      · obtain ⟨piece, isPiece, within⟩ := ih later
        rcases List.mem_cons.mp isPiece with rfl | further
        · exact ⟨_, List.mem_cons_self, List.mem_cons_of_mem d within⟩
        · exact ⟨piece, List.mem_cons_of_mem _ further, within⟩

/-- A character of a name that separates nothing is in a word. -/
theorem exists_word_of_mem {cs : List Char} {c : Char} (listed : c ∈ cs)
    (inside : ¬ isSeparator c) : ∃ word ∈ words isSeparator cs, c ∈ word := by
  obtain ⟨piece, isPiece, within⟩ := exists_piece_of_mem listed inside
  have some : piece ≠ [] := List.ne_nil_of_mem within
  exact ⟨piece, List.mem_filter.mpr ⟨isPiece, by simpa using some⟩, within⟩

/-- **There are no words exactly where there are only separators.** -/
theorem words_eq_nil_iff {cs : List Char} :
    words isSeparator cs = [] ↔ ∀ c ∈ cs, isSeparator c := by
  induction cs with
  | nil => simp [words, pieces]
  | cons c rest ih =>
    rw [List.forall_mem_cons, ← ih]
    by_cases between : isSeparator c
    · simp [words, pieces_cons_of_separator between, between]
    · obtain ⟨piece, others, -, after⟩ := pieces_cons_of_not between rest
      simp [words, after, between]

end Words

/-! ## Words in camelCase -/

theorem isJoiner_iff {c : Char} : isJoiner c ↔ c = '_' ∨ c = '-' := by
  simp [isJoiner]

/-- A name without words is left alone. -/
theorem camelCaseChars_of_no_words {cs : List Char} (none : words isJoiner cs = []) :
    camelCaseChars cs = cs := by
  rw [camelCaseChars, none]

/-- No upper form of a character is empty. -/
theorem upperChar_ne_nil (c : Char) : upperChar c ≠ [] := by
  unfold upperChar caseForm
  split
  · next codes listed =>
    have inhabited : ∀ entry ∈ upperExpansions, entry.2 ≠ [] := by decide
    simpa using inhabited _ (mem_of_lookup_eq_some listed)
  · exact List.cons_ne_nil _ _

theorem capitalize_eq_nil_iff {word : List Char} : capitalize word = [] ↔ word = [] := by
  cases word with
  | nil => simp [capitalize]
  | cons c rest => simp [capitalize, upperChar_ne_nil]

/-- **A name is its own first word in camelCase exactly when no other word follows**, provided that
the first letter of the word is in lower case. -/
theorem camelCaseChars_eq_head_iff {word rest : List Char} (some : word ≠ [])
    (whole : ∀ c ∈ word, ¬ isJoiner c) (ended : ∀ c ∈ rest.head?, isJoiner c)
    (lowered : decapitalize word = word) :
    camelCaseChars (word ++ rest) = word ↔ ∀ c ∈ rest, isJoiner c := by
  rw [camelCaseChars, words_append some whole ended]
  simp only [lowered, List.append_right_eq_self, List.flatten_eq_nil_iff, List.forall_mem_map,
    capitalize_eq_nil_iff]
  rw [← words_eq_nil_iff, List.eq_nil_iff_forall_not_mem]
  exact forall_congr' fun other => imp_congr_right fun listed =>
    iff_of_false (ne_nil_of_mem_words listed) id

end Naming
end TypedRpc
