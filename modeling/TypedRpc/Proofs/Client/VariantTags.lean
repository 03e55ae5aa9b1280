import Mathlib.Data.List.Infix
import TypedRpc.Client.Record
import TypedRpc.Proofs.Target.Literal
import TypedRpc.Proofs.Text.Lines
import TypedRpc.Proofs.Text.Occurrence

/-!
# Tags of variants

The tag of a variant stands in a mark above it, as a literal, and the variant is indented once it is
written.  A literal holds line feeds and carriage returns behind a backslash, but the eight other
characters that end a line stand in it as themselves.  Indenting cuts the mark at each of them and
puts a line feed and a margin there, so that the tag is lost.

* `lineEnd_mem_mark_iff`: the line ends that a mark holds.
* `mark_infix_variant_iff`: the mark of one variant, once the variant is indented.
* `mark_infix_union_iff`: the marks of a whole union.
* `union_shows_tag_iff`: when a union shows the tag of a member, and that it can be read there;
  `parted_tag_not_shown` shows a tag that is lost.
-/

namespace TypedRpc

open Text Target

/-- Whether nothing in a text ends a line but what is escaped in its literal. -/
def StaysWhole (text : String) : Prop :=
  ∀ c ∈ text.toList, isLineEnd c → c = '\n' ∨ c = '\r'

instance (text : String) : Decidable (StaysWhole text) :=
  List.decidableBAll (fun c => isLineEnd c → c = '\n' ∨ c = '\r') text.toList

/-! ## Marks -/

section Marks

variable {tag : String} {c : Char}

/-- A line end is written as itself, or it is escaped. -/
theorem lineEnd_mem_escapeChar_iff (ends : isLineEnd c) {d : Char} :
    c ∈ escapeChar d ↔ c = d ∧ c ≠ '\n' ∧ c ≠ '\r' := by
  have apart : ∀ other, isLineEnd other = false → c ≠ other := by
    rintro other inside rfl
    exact Bool.false_ne_true (inside.symm.trans ends)
  have unslashed := apart '\\' (by decide)
  unfold escapeChar
  split_ifs with backslash quote dollar feed carriage tab
  · simp [backslash, unslashed]
  · simp [quote, unslashed, apart '"' (by decide)]
  · simp [dollar, unslashed, apart '$' (by decide)]
  · simp +contextual [feed, unslashed, apart 'n' (by decide)]
  · simp +contextual [carriage, unslashed, apart 'r' (by decide)]
  · simp [tab, unslashed, apart 't' (by decide), apart '\t' (by decide)]
  · rw [List.mem_singleton]
    exact ⟨fun same => ⟨same, same ▸ feed, same ▸ carriage⟩, And.left⟩

/-- The characters of a mark: its literal stands between brackets. -/
theorem toList_serialNameMark (name : String) :
    (serialNameMark name).toList =
      "@SerialName(".toList ++ (stringLiteralChars name.toList ++ [')']) := by
  simp [serialNameMark, stringLiteral]

/-- **The line ends that a mark holds** are those of the tag that are not escaped. -/
theorem lineEnd_mem_mark_iff (ends : isLineEnd c) :
    c ∈ (serialNameMark tag).toList ↔ c ∈ tag.toList ∧ c ≠ '\n' ∧ c ≠ '\r' := by
  have opening : ∀ d ∈ "@SerialName(\"".toList, isLineEnd d = false :=
    isLineEnd_of_all (by decide)
  have closing : ∀ d ∈ ['"', ')'], isLineEnd d = false := isLineEnd_of_all (by decide)
  have before : c ∉ "@SerialName(\"".toList := fun held => by simp [opening c held] at ends
  have behind : c ∉ ['"', ')'] := fun held => by simp [closing c held] at ends
  have parts : (serialNameMark tag).toList =
      "@SerialName(\"".toList ++ (tag.toList.flatMap escapeChar ++ ['"', ')']) := by
    rw [toList_serialNameMark, stringLiteralChars]
    simp
  rw [parts, List.mem_append, or_iff_right before, List.mem_append, or_iff_left behind,
    List.mem_flatMap]
  simp only [lineEnd_mem_escapeChar_iff ends]
  constructor
  · rintro ⟨d, held, same, free⟩
    exact ⟨same ▸ held, free⟩
  · rintro ⟨held, free⟩
    exact ⟨c, held, rfl, free⟩

/-- A mark is whole exactly when its tag stays so. -/
theorem mark_whole_iff :
    (∀ c ∈ (serialNameMark tag).toList, isLineEnd c = false) ↔ StaysWhole tag := by
  constructor
  · intro whole c held ends
    by_contra free
    rw [not_or] at free
    simp [whole c ((lineEnd_mem_mark_iff ends).mpr ⟨held, free⟩)] at ends
  · intro stays c held
    rw [← Bool.not_eq_true]
    intro ends
    obtain ⟨inside, feed, carriage⟩ := (lineEnd_mem_mark_iff ends).mp held
    exact (stays c inside ends).elim feed carriage

/-- No mark holds a line feed. -/
theorem feed_not_mem_mark : '\n' ∉ (serialNameMark tag).toList := by
  intro held
  exact ((lineEnd_mem_mark_iff (by decide)).mp held).2.1 rfl

/-- A compiler reads the tag where its mark stands. -/
theorem exists_readLiteral_of_mark {cs : List Char} (shown : (serialNameMark tag).toList <:+: cs) :
    ∃ before behind rest, cs = before ++ ("@SerialName(".toList ++ behind) ∧
      readLiteral behind = some (tag.toList, ')' :: rest) := by
  obtain ⟨before, rest, rfl⟩ := shown
  refine ⟨before, stringLiteralChars tag.toList ++ ')' :: rest, rest, ?_, readLiteral_append _ _⟩
  rw [toList_serialNameMark]
  simp

end Marks

/-! ## Indented text -/

section Indented

variable {tag text : String}

theorem eq_feed_of_mem_indent {c : Char} (held : c ∈ (indent text).toList) (ends : isLineEnd c) :
    c = '\n' := by
  rw [indent, indentWith, String.toList_ofList] at held
  exact eq_feed_of_mem_indentChars (isLineEnd_of_all (by decide)) held ends

/-- A mark that stands in a text without other line ends than line feeds is whole. -/
theorem staysWhole_of_infix {cs : List Char} (feeds : ∀ c ∈ cs, isLineEnd c → c = '\n')
    (shown : (serialNameMark tag).toList <:+: cs) : StaysWhole tag := by
  rw [← mark_whole_iff]
  intro c held
  rw [← Bool.not_eq_true]
  intro ends
  exact feed_not_mem_mark (feeds c (shown.subset held) ends ▸ held)

/-- The tag of a variant stands in its second line. -/
theorem toList_text_variant (typing : Typing) (union tag : String) (member : TypeRef) :
    (typing.variant union tag member).text.toList = "@Serializable".toList ++ '\n' ::
      ((serialNameMark tag).toList ++ '\n' :: (typing.variant union tag member).body.toList) := by
  simp [DataClass.text, DataClass.marks, Typing.variant, joinLines]

/-- **A variant shows its mark exactly when the mark is whole.** -/
theorem mark_infix_variant_iff (typing : Typing) (union tag : String) (member : TypeRef) :
    (serialNameMark tag).toList <:+: (indent (typing.variant union tag member).text).toList ↔
      StaysWhole tag := by
  constructor
  · exact staysWhole_of_infix fun _ => eq_feed_of_mem_indent
  · intro stays
    rw [indent, indentWith, String.toList_ofList, toList_text_variant]
    apply infix_indentChars
    have serializable : ∀ c ∈ "@Serializable".toList, isLineEnd c = false :=
      isLineEnd_of_all (by decide)
    rw [splitLines_append_feed serializable, splitLines_append_feed (mark_whole_iff.mpr stays)]
    exact List.mem_cons_of_mem _ List.mem_cons_self

end Indented

/-! ## Unions -/

section Unions

variable {typing : Typing} {found : UnionDef} {tag : String} {member : TypeRef}

/-- The variants of a union, as they are written inside it. -/
def variantBlocks (typing : Typing) (found : UnionDef) : String :=
  joinBlocks ((typing.union found).variants.map fun variant => indent variant.text)

/-- A union is written as a line of its own, its name behind the words that open it, the variants,
and the bracket that closes it. -/
theorem toList_text_union (typing : Typing) (found : UnionDef) :
    (typing.union found).text.toList = "@Serializable".toList ++ '\n' ::
      (("sealed class ".toList ++ (found.name.toList ++ " \x7b".toList)) ++ '\n' ::
        ((variantBlocks typing found).toList ++ '\n' :: "\x7d".toList)) := by
  have opening : "@Serializable\nsealed class ".toList =
      "@Serializable".toList ++ '\n' :: "sealed class ".toList := by decide
  have named : " \x7b\n".toList = " \x7b".toList ++ ['\n'] := by decide
  have closing : "\n\x7d".toList = '\n' :: "\x7d".toList := by decide
  change ("@Serializable\nsealed class " ++ found.name ++ " \x7b\n" ++ variantBlocks typing found ++
    "\n\x7d").toList = _
  simp only [String.toList_append, opening, named, closing, List.append_assoc, List.cons_append,
    List.nil_append]

theorem eq_feed_of_mem_variantBlocks {c : Char} (held : c ∈ (variantBlocks typing found).toList)
    (ends : isLineEnd c) : c = '\n' := by
  rw [variantBlocks, joinBlocks, String.toList_intercalate] at held
  rcases mem_of_mem_intercalate held with between | ⟨block, listed, inside⟩
  · simpa using between
  · rw [List.map_map, List.mem_map] at listed
    obtain ⟨variant, -, rfl⟩ := listed
    exact eq_feed_of_mem_indent inside ends

/-- **The variants of a union show the mark of a member exactly when it is whole.** -/
theorem mark_infix_variantBlocks_iff (listed : (tag, member) ∈ found.members) :
    (serialNameMark tag).toList <:+: (variantBlocks typing found).toList ↔ StaysWhole tag := by
  constructor
  · exact staysWhole_of_infix fun _ => eq_feed_of_mem_variantBlocks
  · intro stays
    refine ((mark_infix_variant_iff typing found.name tag member).mpr stays).trans ?_
    rw [variantBlocks, joinBlocks, String.toList_intercalate, List.map_map]
    apply infix_intercalate
    exact List.mem_map.mpr ⟨_, List.mem_map_of_mem listed, rfl⟩

/-- A mark that stands among the words that open a union stands in its name. -/
theorem mark_infix_opening_iff {name : String} :
    (serialNameMark tag).toList <:+:
        "sealed class ".toList ++ (name.toList ++ " \x7b".toList) ↔
      (serialNameMark tag).toList <:+: name.toList := by
  have first : (serialNameMark tag).toList =
      '@' :: ("SerialName(".toList ++ (stringLiteralChars tag.toList ++ [')'])) :=
    toList_serialNameMark tag
  have last : (serialNameMark tag).toList =
      ("@SerialName(".toList ++ stringLiteralChars tag.toList) ++ [')'] := by
    rw [toList_serialNameMark, List.append_assoc]
  rw [first, infix_append_iff_of_head (by decide), ← first, last,
    infix_append_iff_of_last (by decide)]

/-- No mark stands where there is no bracket. -/
theorem not_mark_infix_of_not_mem {cs : List Char} (absent : '(' ∉ cs) :
    ¬(serialNameMark tag).toList <:+: cs := by
  intro shown
  refine absent (shown.subset ?_)
  rw [toList_serialNameMark]
  exact List.mem_append_left _ (by decide)

/-- **Where a union shows the mark of a member**: among its variants, when the mark is whole, or in
its own name. -/
theorem mark_infix_union_iff (listed : (tag, member) ∈ found.members) :
    (serialNameMark tag).toList <:+: (typing.union found).text.toList ↔
      StaysWhole tag ∨ (serialNameMark tag).toList <:+: found.name.toList := by
  have some : (serialNameMark tag).toList ≠ [] := by
    rw [toList_serialNameMark]
    exact List.append_ne_nil_of_left_ne_nil (by decide) _
  rw [toList_text_union, infix_append_cons_iff some feed_not_mem_mark,
    infix_append_cons_iff some feed_not_mem_mark, infix_append_cons_iff some feed_not_mem_mark,
    mark_infix_opening_iff, mark_infix_variantBlocks_iff listed,
    or_iff_right (not_mark_infix_of_not_mem (by decide)),
    or_iff_left (not_mark_infix_of_not_mem (by decide)), or_comm]

/-- **When a union shows the tag of a member**: exactly when nothing in the tag ends a line but what
is escaped, or else the union is named like the mark.  Where the mark stands, a compiler reads the
tag. -/
theorem union_shows_tag_iff (listed : (tag, member) ∈ found.members) :
    ((serialNameMark tag).toList <:+: (typing.union found).text.toList ↔
        StaysWhole tag ∨ (serialNameMark tag).toList <:+: found.name.toList) ∧
      ((serialNameMark tag).toList <:+: (typing.union found).text.toList →
        ∃ before behind rest,
          (typing.union found).text.toList = before ++ ("@SerialName(".toList ++ behind) ∧
            readLiteral behind = some (tag.toList, ')' :: rest)) :=
  ⟨mark_infix_union_iff listed, exists_readLiteral_of_mark⟩

/-- Contents that are texts, one of them under a tag of its own. -/
def contentUnion (tag : String) : UnionDef :=
  ⟨"Content", [("text", .primitive .string {}), (tag, .primitive .string {})], []⟩

theorem tag_mem_contentUnion (tag : String) :
    (tag, .primitive .string {}) ∈ (contentUnion tag).members :=
  List.mem_cons_of_mem _ List.mem_cons_self

/-- A tag of two lines is shown, and a compiler reads it. -/
theorem line_tag_shown :
    ("rich\ntext", .primitive .string {}) ∈ (contentUnion "rich\ntext").members ∧
      (serialNameMark "rich\ntext").toList <:+:
        (Typing.union ⟨{}, fun _ => none⟩ (contentUnion "rich\ntext")).text.toList ∧
      ∃ before behind rest,
        (Typing.union ⟨{}, fun _ => none⟩ (contentUnion "rich\ntext")).text.toList =
            before ++ ("@SerialName(".toList ++ behind) ∧
          readLiteral behind = some ("rich\ntext".toList, ')' :: rest) := by
  have listed := tag_mem_contentUnion "rich\ntext"
  have shown : (serialNameMark "rich\ntext").toList <:+:
      (Typing.union ⟨{}, fun _ => none⟩ (contentUnion "rich\ntext")).text.toList :=
    (union_shows_tag_iff listed).1.mpr (.inl (by decide))
  exact ⟨listed, shown, (union_shows_tag_iff listed).2 shown⟩

/-- **A tag with a line separator is lost**: the mark above its variant comes in two parts. -/
theorem parted_tag_not_shown :
    ¬∀ (typing : Typing) (found : UnionDef), ∀ entry ∈ found.members,
      (serialNameMark entry.1).toList <:+: (typing.union found).text.toList := by
  intro claimed
  have listed := tag_mem_contentUnion "rich\u2028text"
  have shown := claimed ⟨{}, fun _ => none⟩ (contentUnion "rich\u2028text") _ listed
  rcases (mark_infix_union_iff listed).mp shown with stays | named
  · exact absurd stays (by decide)
  · exact not_mark_infix_of_not_mem (by decide) named

end Unions

end TypedRpc
