import Mathlib
import TypedRpc.Proofs.Naming.Words
import TypedRpc.Proofs.Text.Case
import TypedRpc.Proofs.Text.Lines

/-!
# Canonical names

A canonical name is spelled by words in snake case: each word is a lower-case letter followed by
lower-case letters and digits, and single underscores stand between them.  The conventions join the
words and leave nothing of a boundary but a capital.  Words have no capitals of their own, so every
capital marks a boundary, and the name can be read off again: an underscore before every capital,
and the capitals in lower case.  So different names stay different.

* `SpelledBy`, `IsCanonical`: canonical names and their words.
* `words_intercalate`, `isCanonical_iff`: the words of a canonical name are those that spell it.
* `camelCaseChars_intercalate`, `pascalCaseChars_intercalate`: canonical names in the conventions.
* `readOff_camelCaseChars`, `readOff_pascalCaseChars`: the name can be read off.
* `camelCase_injOn_canonical`, `pascalCase_injOn_canonical`: different names stay different.
-/

namespace TypedRpc
namespace Naming

open Text

/-! ## Plain words -/

/-- Whether a word is a lower-case letter followed by lower-case letters and digits, all of the
first 128 characters. -/
def isPlainWord : List Char → Bool
  | [] => false
  | c :: rest => c.isLower && rest.all endsLowerWord

/-- Some words spell a name in canonical snake case. -/
@[mk_iff]
structure SpelledBy (name : String) (words : List (List Char)) : Prop where
  some : words ≠ []
  plain : ∀ word ∈ words, isPlainWord word
  joined : name.toList = ['_'].intercalate words

instance (name : String) (words : List (List Char)) : Decidable (SpelledBy name words) :=
  decidable_of_iff _ (spelledBy_iff name words).symm

/-- A name is spelled by some words in canonical snake case. -/
def IsCanonical (name : String) : Prop :=
  ∃ words, SpelledBy name words

section Letters

variable {c : Char}

theorem ascii_of_isAlphanum (letter : c.isAlphanum) : c.toNat < 128 := by
  have bounded : c.val ≤ 122 := by
    grind [Char.isAlphanum, Char.isAlpha, Char.isLower, Char.isUpper, Char.isDigit]
  exact Nat.lt_of_le_of_lt (UInt32.le_iff_toNat_le.mp bounded) (by decide)

/-- No letter and no digit separates words. -/
theorem not_isWordBreak_of_isAlphanum (letter : c.isAlphanum) : ¬ isWordBreak c :=
  forall_ascii (P := fun c => c.isAlphanum → ¬ isWordBreak c) (by decide +kernel)
    (ascii_of_isAlphanum letter) letter

theorem isAlphanum_of_endsLowerWord (small : endsLowerWord c) : c.isAlphanum := by
  grind [endsLowerWord, Char.isAlphanum, Char.isAlpha]

theorem not_isUpper_of_endsLowerWord (small : endsLowerWord c) : ¬ c.isUpper := by
  grind [endsLowerWord, Char.isLower, Char.isDigit, Char.isUpper]

theorem toLower_of_endsLowerWord (small : endsLowerWord c) : c.toLower = c :=
  Char.toLower_eq_of_not_isUpper (not_isUpper_of_endsLowerWord small)

theorem map_toLower_of_endsLowerWord {cs : List Char} (small : ∀ c ∈ cs, endsLowerWord c) :
    cs.map Char.toLower = cs :=
  (List.map_congr_left fun c inside => toLower_of_endsLowerWord (small c inside)).trans
    (List.map_id cs)

theorem endsLowerWord_of_isLower (lower : c.isLower) : endsLowerWord c := by
  simp [endsLowerWord, lower]

/-- The upper form of a lower-case letter is a capital, and lowering takes it back. -/
theorem toUpper_of_isLower (lower : c.isLower) : c.toUpper.isUpper ∧ c.toUpper.toLower = c := by
  constructor
  · rw [Char.isUpper_toUpper_eq_isAlpha, Char.isAlpha, lower, Bool.or_true]
  · rw [Char.toLower_toUpper_eq_toLower, toLower_of_endsLowerWord (endsLowerWord_of_isLower lower)]

end Letters

section PlainWord

variable {word : List Char}

/-- The letter that a plain word begins with, and the rest. -/
theorem exists_cons_of_plain (plain : isPlainWord word) :
    ∃ c rest, word = c :: rest ∧ c.isLower ∧ ∀ d ∈ rest, endsLowerWord d := by
  cases word with
  | nil => cases plain
  | cons c rest =>
    rw [isPlainWord, Bool.and_eq_true, List.all_eq_true] at plain
    exact ⟨c, rest, rfl, plain⟩

theorem ne_nil_of_plain (plain : isPlainWord word) : word ≠ [] := by
  obtain ⟨c, rest, rfl, -⟩ := exists_cons_of_plain plain
  exact List.cons_ne_nil c rest

theorem endsLowerWord_of_mem_plain (plain : isPlainWord word) : ∀ c ∈ word, endsLowerWord c := by
  obtain ⟨c, rest, rfl, lower, small⟩ := exists_cons_of_plain plain
  exact List.forall_mem_cons.mpr ⟨endsLowerWord_of_isLower lower, small⟩

theorem isAlphanum_of_mem_plain (plain : isPlainWord word) : ∀ c ∈ word, c.isAlphanum :=
  fun c inside => isAlphanum_of_endsLowerWord (endsLowerWord_of_mem_plain plain c inside)

theorem not_isUpper_of_mem_plain (plain : isPlainWord word) : ∀ c ∈ word, ¬ c.isUpper :=
  fun c inside => not_isUpper_of_endsLowerWord (endsLowerWord_of_mem_plain plain c inside)

theorem capitalize_cons_of_isLower {c : Char} (lower : c.isLower) (rest : List Char) :
    capitalize (c :: rest) = c.toUpper :: rest := by
  have ascii := ascii_of_isAlphanum (isAlphanum_of_endsLowerWord (endsLowerWord_of_isLower lower))
  rw [capitalize, (caseForms_of_ascii ascii).1, List.singleton_append]

theorem decapitalize_plain (plain : isPlainWord word) : decapitalize word = word := by
  obtain ⟨c, rest, rfl, lower, -⟩ := exists_cons_of_plain plain
  have small := endsLowerWord_of_isLower lower
  rw [decapitalize,
    (caseForms_of_ascii (ascii_of_isAlphanum (isAlphanum_of_endsLowerWord small))).2,
    toLower_of_endsLowerWord small, List.singleton_append]

/-- The letters after the first one are in lower case already. -/
theorem capitalizeOnly_plain (plain : isPlainWord word) :
    capitalizeOnly word = capitalize word := by
  obtain ⟨c, rest, rfl, -, small⟩ := exists_cons_of_plain plain
  have ascii : ∀ d ∈ rest, d.toNat < 128 := fun d inside =>
    ascii_of_isAlphanum (isAlphanum_of_endsLowerWord (small d inside))
  rw [capitalizeOnly, lower_of_ascii ascii, map_toLower_of_endsLowerWord small, capitalize]

end PlainWord

/-! ## Words between underscores -/

/-- The first word, and each other one with an underscore before it. -/
theorem intercalate_cons (first : List Char) (others : List (List Char)) :
    ['_'].intercalate (first :: others) = first ++ (others.map ('_' :: ·)).flatten := by
  induction others generalizing first with
  | nil => rw [List.intercalate_singleton, List.map_nil, List.flatten_nil, List.append_nil]
  | cons second others ih =>
    rw [List.intercalate_cons_cons, ih, List.map_cons, List.flatten_cons, List.append_assoc]
    rfl

/-- **The words of a name are those that spell it**, if none of them is interrupted. -/
theorem words_intercalate {isSeparator : Char → Bool} (between : isSeparator '_')
    {spelling : List (List Char)}
    (whole : ∀ word ∈ spelling, word ≠ [] ∧ ∀ c ∈ word, ¬ isSeparator c) :
    words isSeparator (['_'].intercalate spelling) = spelling := by
  induction spelling with
  | nil => rfl
  | cons first others ih =>
    rw [List.forall_mem_cons] at whole
    obtain ⟨⟨some, inside⟩, later⟩ := whole
    cases others with
    | nil => rw [List.intercalate_singleton, words_of_whole some inside]
    | cons second others =>
      have ended : ∀ c ∈ ('_' :: ['_'].intercalate (second :: others)).head?, isSeparator c := by
        rintro c ⟨⟩
        exact between
      rw [List.intercalate_cons_cons, List.append_assoc, List.singleton_append,
        words_append some inside ended, words, pieces_cons_of_separator between]
      exact congrArg (first :: ·) (ih later)

/-- A capital at the front meets nothing, and where there is no other one nothing is marked. -/
theorem markCapitals_cons_of_no_capitals (c : Char) {rest : List Char}
    (small : ∀ d ∈ rest, ¬ d.isUpper) : markCapitals (c :: rest) = c :: rest := by
  induction rest generalizing c with
  | nil => rfl
  | cons d rest ih =>
    rw [List.forall_mem_cons] at small
    have apart : ¬ (endsLowerWord c && d.isUpper) := by simp [small.1]
    rw [markCapitals, if_neg apart, ih d small.2]

theorem markCapitals_of_no_capitals {cs : List Char} (small : ∀ c ∈ cs, ¬ c.isUpper) :
    markCapitals cs = cs := by
  cases cs with
  | nil => rfl
  | cons c rest => exact markCapitals_cons_of_no_capitals c (List.forall_mem_cons.mp small).2

/-- Plain words are told apart at underscores, whatever else of the usual separates words. -/
theorem words_of_plain {isSeparator : Char → Bool} (between : isSeparator '_')
    (usual : ∀ c, isSeparator c → isWordBreak c) {spelling : List (List Char)}
    (plain : ∀ word ∈ spelling, isPlainWord word) :
    words isSeparator (['_'].intercalate spelling) = spelling :=
  words_intercalate between fun word isWord =>
    ⟨ne_nil_of_plain (plain word isWord), fun c inside separates =>
      not_isWordBreak_of_isAlphanum (isAlphanum_of_mem_plain (plain word isWord) c inside)
        (usual c separates)⟩

theorem isWordBreak_of_isJoiner {c : Char} (joins : isJoiner c) : isWordBreak c := by
  simp [isWordBreak, joins]

theorem isWordBreak_of_underscore {c : Char} (same : decide (c = '_') = true) : isWordBreak c := by
  rw [of_decide_eq_true same]
  decide

/-- **A canonical name is spelled by its own words**, so the pieces between its underscores show
whether a name is canonical. -/
theorem isCanonical_iff {name : String} :
    IsCanonical name ↔ SpelledBy name (words (· = '_') name.toList) := by
  constructor
  · rintro ⟨spelling, spelled⟩
    have own : words (· = '_') name.toList = spelling := by
      rw [spelled.joined]
      exact words_of_plain (by decide) (fun _ => isWordBreak_of_underscore) spelled.plain
    rwa [own]
  · exact fun spelled => ⟨_, spelled⟩

instance (name : String) : Decidable (IsCanonical name) :=
  decidable_of_iff _ isCanonical_iff.symm

/-! ## Canonical names in the conventions -/

section Spelling

variable {first : List Char} {others spelling : List (List Char)}

/-- **In camelCase every word but the first one is capitalized**, and nothing else changes. -/
theorem camelCaseChars_intercalate (plain : ∀ word ∈ first :: others, isPlainWord word) :
    camelCaseChars (['_'].intercalate (first :: others)) =
      first ++ (others.map capitalize).flatten := by
  have spelled : words isJoiner (['_'].intercalate (first :: others)) = first :: others :=
    words_of_plain (by decide) (fun _ => isWordBreak_of_isJoiner) plain
  rw [camelCaseChars, spelled]
  dsimp only
  rw [decapitalize_plain (plain first List.mem_cons_self)]

/-- **In PascalCase every word is capitalized**, and nothing else changes. -/
theorem pascalCaseChars_intercalate (plain : ∀ word ∈ spelling, isPlainWord word) :
    pascalCaseChars (['_'].intercalate spelling) = (spelling.map capitalize).flatten := by
  have small : ∀ c ∈ ['_'].intercalate spelling, ¬ c.isUpper := by
    intro c listed
    rcases mem_of_mem_intercalate listed with between | ⟨word, isWord, inside⟩
    · rw [List.mem_singleton.mp between]
      decide
    · exact not_isUpper_of_mem_plain (plain word isWord) c inside
  rw [pascalCaseChars, markCapitals_of_no_capitals small,
    words_of_plain (by decide) (fun _ => id) plain]
  exact congrArg List.flatten (List.map_congr_left fun word isWord =>
    capitalizeOnly_plain (plain word isWord))

/-! ## Reading names off -/

/-- The name in snake case that is read off: an underscore before every capital, and the capitals in
lower case. -/
def readOff (cs : List Char) : List Char :=
  cs.flatMap fun c => if c.isUpper then ['_', c.toLower] else [c]

theorem readOff_append (cs others : List Char) :
    readOff (cs ++ others) = readOff cs ++ readOff others :=
  List.flatMap_append

theorem readOff_of_no_capitals {cs : List Char} (small : ∀ c ∈ cs, ¬ c.isUpper) :
    readOff cs = cs := by
  induction cs with
  | nil => rfl
  | cons c rest ih =>
    rw [List.forall_mem_cons] at small
    rw [readOff, List.flatMap_cons, if_neg small.1, ← readOff, ih small.2, List.singleton_append]

/-- A capitalized word is read off as the word after an underscore. -/
theorem readOff_capitalize {word : List Char} (plain : isPlainWord word) :
    readOff (capitalize word) = '_' :: word := by
  obtain ⟨c, rest, rfl, lower, small⟩ := exists_cons_of_plain plain
  obtain ⟨capital, back⟩ := toUpper_of_isLower lower
  have unread : readOff rest = rest :=
    readOff_of_no_capitals fun d inside => not_isUpper_of_endsLowerWord (small d inside)
  rw [capitalize_cons_of_isLower lower, readOff, List.flatMap_cons, if_pos capital, back, ← readOff,
    unread]
  rfl

theorem readOff_flatten_capitalize (plain : ∀ word ∈ spelling, isPlainWord word) :
    readOff (spelling.map capitalize).flatten = (spelling.map ('_' :: ·)).flatten := by
  induction spelling with
  | nil => rfl
  | cons first others ih =>
    rw [List.forall_mem_cons] at plain
    rw [List.map_cons, List.flatten_cons, readOff_append, readOff_capitalize plain.1, ih plain.2,
      List.map_cons, List.flatten_cons]

/-- **A canonical name is read off its form in camelCase.** -/
theorem readOff_camelCaseChars (plain : ∀ word ∈ first :: others, isPlainWord word) :
    readOff (camelCaseChars (['_'].intercalate (first :: others))) =
      ['_'].intercalate (first :: others) := by
  have head := plain first List.mem_cons_self
  rw [camelCaseChars_intercalate plain, readOff_append,
    readOff_of_no_capitals (not_isUpper_of_mem_plain head),
    readOff_flatten_capitalize fun word isWord => plain word (List.mem_cons_of_mem _ isWord),
    intercalate_cons]

/-- **A canonical name is read off its form in PascalCase**, but for the underscore that the first
capital gets. -/
theorem readOff_pascalCaseChars (plain : ∀ word ∈ first :: others, isPlainWord word) :
    readOff (pascalCaseChars (['_'].intercalate (first :: others))) =
      '_' :: ['_'].intercalate (first :: others) := by
  rw [pascalCaseChars_intercalate plain, readOff_flatten_capitalize plain, intercalate_cons,
    List.map_cons, List.flatten_cons, List.cons_append]

end Spelling

/-- A canonical name is read off both forms, up to the first underscore in PascalCase. -/
theorem readOff_of_canonical {name : String} (canonical : IsCanonical name) :
    readOff (camelCase name).toList = name.toList ∧
      readOff (pascalCase name).toList = '_' :: name.toList := by
  obtain ⟨spelling, some, plain, joined⟩ := canonical
  obtain ⟨first, others, rfl⟩ := List.exists_cons_of_ne_nil some
  rw [camelCase, pascalCase, String.toList_ofList, String.toList_ofList, joined]
  exact ⟨readOff_camelCaseChars plain, readOff_pascalCaseChars plain⟩

/-- **Different canonical names stay different in camelCase.** -/
theorem camelCase_injOn_canonical : Set.InjOn camelCase {name | IsCanonical name} := by
  intro a canonical b other same
  apply String.toList_injective
  rw [← (readOff_of_canonical canonical).1, ← (readOff_of_canonical other).1, same]

/-- **Different canonical names stay different in PascalCase.** -/
theorem pascalCase_injOn_canonical : Set.InjOn pascalCase {name | IsCanonical name} := by
  intro a canonical b other same
  apply String.toList_injective
  have read : '_' :: a.toList = '_' :: b.toList := by
    rw [← (readOff_of_canonical canonical).2, ← (readOff_of_canonical other).2, same]
  exact (List.cons.inj read).2

end Naming
end TypedRpc
