import TypedRpc.Proofs.Naming.Canonical

/-!
# Canonical names brought back to snake case

Bringing a name to snake case marks the places where a capital follows a lower-case letter or digit,
and tidies up underscores.  A text of letters and digits needs no tidying, because a mark stands
between two of its characters.  So what comes back of a canonical name is settled by the marks:
the capital of a word is marked unless the word before it is a single capital.

* `markCapitals_append`: marking a text part by part.
* `snakeCaseChars_of_alphanum`: letters and digits are marked and lowered, and nothing else.
* `rejoin`, `snakeCaseChars_append_capitalized`: what comes back of words.
* `rejoin_eq_iff`: when every underscore comes back.
* `snakeCase_of_canonical_iff`: the names that come back.
-/

namespace TypedRpc
namespace Naming

open Text

/-! ## Marks -/

/-- Whether a text ends where a capital would be marked, and another one begins with a capital. -/
def meetsCapital (cs others : List Char) : Bool :=
  cs.getLast?.any endsLowerWord && others.head?.any Char.isUpper

/-- **Capitals are marked part by part**, and where two parts meet. -/
theorem markCapitals_append (cs others : List Char) :
    markCapitals (cs ++ others) =
      markCapitals cs ++ ((if meetsCapital cs others then ['_'] else []) ++
        markCapitals others) := by
  induction cs using markCapitals.induct with
  | case1 => rfl
  | case2 c =>
    cases others with
    | nil => simp [meetsCapital, markCapitals]
    | cons d rest =>
      rw [List.singleton_append, markCapitals]
      by_cases boundary : endsLowerWord c && d.isUpper
      · simp [meetsCapital, markCapitals, boundary]
      · simp [meetsCapital, markCapitals, boundary]
  | case3 c d rest boundary ih =>
    have same : meetsCapital (c :: d :: rest) others = meetsCapital (d :: rest) others := rfl
    rw [List.cons_append, List.cons_append, markCapitals, if_pos boundary, ← List.cons_append, ih,
      same, markCapitals, if_pos boundary]
    rfl
  | case4 c d rest boundary ih =>
    have same : meetsCapital (c :: d :: rest) others = meetsCapital (d :: rest) others := rfl
    rw [List.cons_append, List.cons_append, markCapitals, if_neg boundary, ← List.cons_append, ih,
      same, markCapitals, if_neg boundary]
    rfl

/-- The first character stays the first one. -/
theorem exists_markCapitals_cons (c : Char) (rest : List Char) :
    ∃ more, markCapitals (c :: rest) = c :: more := by
  cases rest with
  | nil => exact ⟨[], rfl⟩
  | cons d rest =>
    rw [markCapitals]
    split
    · exact ⟨_, rfl⟩
    · exact ⟨_, rfl⟩

theorem head?_markCapitals (cs : List Char) : (markCapitals cs).head? = cs.head? := by
  cases cs with
  | nil => rfl
  | cons c rest =>
    obtain ⟨more, marked⟩ := exists_markCapitals_cons c rest
    rw [marked]
    rfl

/-- The last character stays the last one. -/
theorem getLast?_markCapitals (cs : List Char) : (markCapitals cs).getLast? = cs.getLast? := by
  induction cs using markCapitals.induct with
  | case1 => rfl
  | case2 c => rfl
  | case3 c d rest boundary ih =>
    obtain ⟨more, marked⟩ := exists_markCapitals_cons d rest
    rw [markCapitals, if_pos boundary, List.getLast?_cons_cons]
    rw [marked] at ih ⊢
    exact ih
  | case4 c d rest boundary ih =>
    obtain ⟨more, marked⟩ := exists_markCapitals_cons d rest
    rw [markCapitals, if_neg boundary]
    rw [marked] at ih ⊢
    exact ih

/-- Marking adds nothing but underscores. -/
theorem mem_markCapitals {cs : List Char} {c : Char} (listed : c ∈ markCapitals cs) :
    c = '_' ∨ c ∈ cs := by
  induction cs using markCapitals.induct with
  | case1 => exact .inr listed
  | case2 d => exact .inr listed
  | case3 d e rest boundary ih =>
    rw [markCapitals, if_pos boundary, List.mem_cons, List.mem_cons] at listed
    rcases listed with rfl | rfl | later
    · exact .inr List.mem_cons_self
    · exact .inl rfl
    · exact (ih later).imp_right (List.mem_cons_of_mem d)
  | case4 d e rest boundary ih =>
    rw [markCapitals, if_neg boundary, List.mem_cons] at listed
    rcases listed with rfl | later
    · exact .inr List.mem_cons_self
    · exact (ih later).imp_right (List.mem_cons_of_mem d)

/-! ## Letters and digits -/

/-- Marks stand apart, so none of them is squeezed. -/
theorem squeezeUnderscores_markCapitals {cs : List Char} (free : '_' ∉ cs) :
    squeezeUnderscores (markCapitals cs) = markCapitals cs := by
  induction cs using markCapitals.induct with
  | case1 => rfl
  | case2 c => rfl
  | case3 c d rest boundary ih =>
    rw [List.mem_cons, not_or, eq_comm] at free
    have next : d ≠ '_' := fun same => free.2 (same ▸ List.mem_cons_self)
    have kept := ih free.2
    obtain ⟨more, marked⟩ := exists_markCapitals_cons d rest
    rw [markCapitals, if_pos boundary]
    rw [marked] at kept ⊢
    simp [squeezeUnderscores, free.1, next, kept]
  | case4 c d rest boundary ih =>
    rw [List.mem_cons, not_or, eq_comm] at free
    have kept := ih free.2
    obtain ⟨more, marked⟩ := exists_markCapitals_cons d rest
    rw [markCapitals, if_neg boundary]
    rw [marked] at kept ⊢
    simp [squeezeUnderscores, free.1, kept]

/-- Nothing is stripped from a text that neither begins nor ends with an underscore. -/
theorem stripUnderscores_eq_self {cs : List Char} (first : '_' ∉ cs.head?)
    (last : '_' ∉ cs.getLast?) : stripUnderscores cs = cs := by
  have kept : ∀ {cs : List Char}, '_' ∉ cs.head? → cs.dropWhile (· = '_') = cs := by
    intro cs first
    cases cs with
    | nil => rfl
    | cons c rest =>
      refine List.dropWhile_cons_of_neg fun same => first ?_
      rw [of_decide_eq_true same]
      rfl
  rw [stripUnderscores, kept first, kept (List.head?_reverse ▸ last), List.reverse_reverse]

/-- Lowering makes no underscores. -/
theorem toLower_ne_underscore {c : Char} (letter : c.isAlphanum) : c.toLower ≠ '_' :=
  forall_ascii (P := fun c => c.isAlphanum → c.toLower ≠ '_') (by decide +kernel)
    (ascii_of_isAlphanum letter) letter

/-- **Letters and digits are marked and lowered**; there is nothing to squeeze or to strip. -/
theorem snakeCaseChars_of_alphanum {cs : List Char} (letters : ∀ c ∈ cs, c.isAlphanum) :
    snakeCaseChars cs = (markCapitals cs).map Char.toLower := by
  have free : '_' ∉ cs := fun listed => absurd (letters '_' listed) (by decide)
  have marked : ∀ c ∈ markCapitals cs, c = '_' ∨ c.isAlphanum := fun c listed =>
    (mem_markCapitals listed).imp_right (letters c)
  have unhyphened : underscored (markCapitals cs) = markCapitals cs := by
    refine (List.map_congr_left fun c listed => if_neg ?_).trans (List.map_id _)
    rintro rfl
    exact absurd (marked '-' listed) (by decide)
  have ascii : ∀ c ∈ markCapitals cs, c.toNat < 128 := by
    intro c listed
    rcases marked c listed with rfl | letter
    · decide
    · exact ascii_of_isAlphanum letter
  have ended : ∀ {edge : Option Char}, (∀ c ∈ edge, c ∈ cs) → '_' ∉ edge.map Char.toLower := by
    intro edge source listed
    obtain ⟨c, isEnd, lowered⟩ := Option.map_eq_some_iff.mp listed
    exact toLower_ne_underscore (letters c (source c isEnd)) lowered
  rw [snakeCaseChars, unhyphened, squeezeUnderscores_markCapitals free, lower_of_ascii ascii,
    stripUnderscores_eq_self]
  · rw [List.head?_map, head?_markCapitals]
    exact ended fun c isHead => List.mem_of_mem_head? isHead
  · rw [List.getLast?_map, getLast?_markCapitals]
    exact ended fun c isLast => List.mem_of_mem_getLast? isLast

/-! ## Words that come back -/

/-- Words written after each other, with an underscore before each one that follows more than a
single letter; before the first of them if something of that kind is in front. -/
def rejoin (write : List Char → List Char) (closed : Bool) : List (List Char) → List Char
  | [] => []
  | word :: others =>
    (if closed then ['_'] else []) ++ (write word ++ rejoin write (1 < word.length) others)

/-- A capitalized word closes itself if anything follows its capital. -/
theorem getLast?_capitalize_any {word : List Char} (plain : isPlainWord word) :
    (capitalize word).getLast?.any endsLowerWord = decide (1 < word.length) := by
  obtain ⟨c, rest, rfl, lower, small⟩ := exists_cons_of_plain plain
  rw [capitalize_cons_of_isLower lower]
  cases rest with
  | nil =>
    have capital : ¬ endsLowerWord c.toUpper := fun ends =>
      not_isUpper_of_endsLowerWord ends (toUpper_of_isLower lower).1
    simp [capital]
  | cons d rest =>
    have last := small _ (List.getLast_mem (List.cons_ne_nil d rest))
    simp [List.getLast?_eq_some_getLast, last]

/-- The capitals of words are marked behind whatever closes. -/
theorem markCapitals_append_capitalized (cs : List Char) {spelling : List (List Char)}
    (plain : ∀ word ∈ spelling, isPlainWord word) :
    markCapitals (cs ++ (spelling.map capitalize).flatten) =
      markCapitals cs ++ rejoin capitalize (cs.getLast?.any endsLowerWord) spelling := by
  -- each word in turn is what stands in front of the next one
  induction spelling generalizing cs with
  | nil =>
    rw [List.map_nil, List.flatten_nil, rejoin, List.append_nil, List.append_nil]
  | cons word others ih =>
    rw [List.forall_mem_cons] at plain
    have closes := getLast?_capitalize_any plain.1
    obtain ⟨c, rest, rfl, lower, small⟩ := exists_cons_of_plain plain.1
    have meets : meetsCapital cs (capitalize (c :: rest) ++ (others.map capitalize).flatten) =
        cs.getLast?.any endsLowerWord := by
      rw [capitalize_cons_of_isLower lower, meetsCapital, List.cons_append, List.head?_cons,
        Option.any_some, (toUpper_of_isLower lower).1, Bool.and_true]
    have whole : markCapitals (capitalize (c :: rest)) = capitalize (c :: rest) := by
      rw [capitalize_cons_of_isLower lower]
      exact markCapitals_cons_of_no_capitals _ fun d inside =>
        not_isUpper_of_endsLowerWord (small d inside)
    rw [List.map_cons, List.flatten_cons, markCapitals_append, meets, ih _ plain.2, whole, closes,
      rejoin]

/-- Lowering takes the capital of a word away again. -/
theorem map_toLower_capitalize {word : List Char} (plain : isPlainWord word) :
    (capitalize word).map Char.toLower = word := by
  obtain ⟨c, rest, rfl, lower, small⟩ := exists_cons_of_plain plain
  rw [capitalize_cons_of_isLower lower, List.map_cons, (toUpper_of_isLower lower).2,
    map_toLower_of_endsLowerWord small]

theorem map_toLower_rejoin (closed : Bool) {spelling : List (List Char)}
    (plain : ∀ word ∈ spelling, isPlainWord word) :
    (rejoin capitalize closed spelling).map Char.toLower = rejoin id closed spelling := by
  induction spelling generalizing closed with
  | nil => rfl
  | cons word others ih =>
    rw [List.forall_mem_cons] at plain
    have mark : (if closed then ['_'] else []).map Char.toLower = if closed then ['_'] else [] := by
      cases closed <;> rfl
    rw [rejoin, List.map_append, List.map_append, mark, map_toLower_capitalize plain.1,
      ih _ plain.2, rejoin, id]

theorem isAlphanum_of_mem_capitalize {word : List Char} (plain : isPlainWord word) :
    ∀ c ∈ capitalize word, c.isAlphanum := by
  obtain ⟨c, rest, rfl, lower, small⟩ := exists_cons_of_plain plain
  rw [capitalize_cons_of_isLower lower, List.forall_mem_cons]
  refine ⟨?_, fun d inside => isAlphanum_of_endsLowerWord (small d inside)⟩
  rw [Char.isAlphanum, Char.isAlpha, (toUpper_of_isLower lower).1, Bool.true_or, Bool.true_or]

/-- **What comes back of words**, behind lower-case letters and digits. -/
theorem snakeCaseChars_append_capitalized {cs : List Char} (small : ∀ c ∈ cs, endsLowerWord c)
    {spelling : List (List Char)} (plain : ∀ word ∈ spelling, isPlainWord word) :
    snakeCaseChars (cs ++ (spelling.map capitalize).flatten) =
      cs ++ rejoin id (cs.getLast?.any endsLowerWord) spelling := by
  have letters : ∀ c ∈ cs ++ (spelling.map capitalize).flatten, c.isAlphanum := by
    intro c listed
    rcases List.mem_append.mp listed with inside | inside
    · exact isAlphanum_of_endsLowerWord (small c inside)
    · obtain ⟨piece, isPiece, within⟩ := List.mem_flatten.mp inside
      obtain ⟨word, isWord, rfl⟩ := List.mem_map.mp isPiece
      exact isAlphanum_of_mem_capitalize (plain word isWord) c within
  rw [snakeCaseChars_of_alphanum letters, markCapitals_append_capitalized cs plain,
    List.map_append, map_toLower_rejoin _ plain,
    markCapitals_of_no_capitals fun c inside => not_isUpper_of_endsLowerWord (small c inside),
    map_toLower_of_endsLowerWord small]

/-- **When every underscore comes back**: something closes in front, and no word but the last one is
a single letter. -/
theorem rejoin_eq_iff (closed : Bool) {spelling : List (List Char)}
    (plain : ∀ word ∈ spelling, isPlainWord word) :
    rejoin id closed spelling = (spelling.map ('_' :: ·)).flatten ↔
      (spelling = [] ∨ closed) ∧ ∀ word ∈ spelling.dropLast, 2 ≤ word.length := by
  induction spelling generalizing closed with
  | nil => simp [rejoin]
  | cons word others ih =>
    rw [List.forall_mem_cons] at plain
    rw [rejoin, List.map_cons, List.flatten_cons, id]
    cases closed with
    | false =>
      -- the underscore in front is missing, and no word begins with one
      obtain ⟨c, rest, rfl, lower, -⟩ := exists_cons_of_plain plain.1
      have other : c ≠ '_' := by
        rintro rfl
        exact absurd lower (by decide)
      simp [other]
    | true =>
      have back : ['_'] ++ (word ++ rejoin id (1 < word.length) others) =
          '_' :: word ++ (others.map ('_' :: ·)).flatten ↔
            rejoin id (1 < word.length) others = (others.map ('_' :: ·)).flatten := by
        simp
      rw [if_pos rfl, back, ih _ plain.2]
      cases others with
      | nil => simp
      | cons second others => simp [Nat.lt_iff_add_one_le]

/-! ## Names that come back -/

section Spelled

variable {first : List Char} {others : List (List Char)}

theorem snakeCaseChars_camelCaseChars (plain : ∀ word ∈ first :: others, isPlainWord word) :
    snakeCaseChars (camelCaseChars (['_'].intercalate (first :: others))) =
      first ++ rejoin id true others := by
  obtain ⟨head, tail⟩ := List.forall_mem_cons.mp plain
  have closes : first.getLast?.any endsLowerWord := by
    rw [List.getLast?_eq_some_getLast (ne_nil_of_plain head)]
    exact endsLowerWord_of_mem_plain head _ (List.getLast_mem _)
  rw [camelCaseChars_intercalate plain,
    snakeCaseChars_append_capitalized (endsLowerWord_of_mem_plain head) tail, closes]

theorem snakeCaseChars_pascalCaseChars (plain : ∀ word ∈ first :: others, isPlainWord word) :
    snakeCaseChars (pascalCaseChars (['_'].intercalate (first :: others))) =
      first ++ rejoin id (1 < first.length) others := by
  have whole := snakeCaseChars_append_capitalized (List.forall_mem_nil _) plain
  rw [List.nil_append] at whole
  rw [pascalCaseChars_intercalate plain, whole]
  rfl

end Spelled

/-- **The canonical names that come back.**  From camelCase a name comes back to snake case exactly
when no word but the first and the last is a single letter, and from PascalCase when moreover it is
one word, or its first word is no single letter either. -/
theorem snakeCase_of_canonical_iff {name : String} {words : List (List Char)}
    (spelled : SpelledBy name words) :
    (snakeCase (camelCase name) = name ↔ ∀ word ∈ words.tail.dropLast, 2 ≤ word.length) ∧
    (snakeCase (pascalCase name) = name ↔
      (words.length = 1 ∨ ∀ first ∈ words.head?, 2 ≤ first.length) ∧
        ∀ word ∈ words.tail.dropLast, 2 ≤ word.length) := by
  obtain ⟨some, plain, joined⟩ := spelled
  obtain ⟨first, others, rfl⟩ := List.exists_cons_of_ne_nil some
  have tail := (List.forall_mem_cons.mp plain).2
  -- Behind the first word, which always comes back, the underscores are what matters.
  have same : ∀ closed, String.ofList (first ++ rejoin id closed others) = name ↔
      (others = [] ∨ closed) ∧ ∀ word ∈ others.dropLast, 2 ≤ word.length := by
    intro closed
    rw [← rejoin_eq_iff closed tail, ← String.toList_inj, String.toList_ofList, joined,
      intercalate_cons, List.append_cancel_left_eq]
  rw [snakeCase, snakeCase, camelCase, pascalCase, String.toList_ofList, String.toList_ofList,
    joined, snakeCaseChars_camelCaseChars plain, snakeCaseChars_pascalCaseChars plain, same, same]
  simp [Nat.lt_iff_add_one_le]

/-- A plan that is called `b2` keeps its name on the way through both conventions, and one that is
called `b` runs into the word behind it. -/
theorem plan_names_come_back :
    (snakeCase (camelCase "plan_b2_x") = "plan_b2_x" ∧
      snakeCase (pascalCase "plan_b2_x") = "plan_b2_x") ∧
    snakeCase (camelCase "plan_b_x") ≠ "plan_b_x" := by
  have longer : SpelledBy "plan_b2_x" [['p', 'l', 'a', 'n'], ['b', '2'], ['x']] := by
    decide +kernel
  have shorter : SpelledBy "plan_b_x" [['p', 'l', 'a', 'n'], ['b'], ['x']] := by decide +kernel
  obtain ⟨camel, pascal⟩ := snakeCase_of_canonical_iff longer
  refine ⟨⟨camel.mpr (by decide), pascal.mpr (by decide)⟩, fun back => ?_⟩
  exact absurd ((snakeCase_of_canonical_iff shorter).1.mp back) (by decide)

end Naming
end TypedRpc
