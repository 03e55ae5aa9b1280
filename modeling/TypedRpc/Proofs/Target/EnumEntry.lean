import Mathlib
import TypedRpc.Proofs.Grouping
import TypedRpc.Target.Declaration

/-!
# Entries of enumerations

The name of an entry is made from a wire value and forgets much of it.  Whatever the value, the name
is well formed, and a name that is well formed is left as it is.  Each entry is written with its
wire value as its serial name, so an enumeration is decoded by looking serial names up and encoded
by looking entries up; the two undo each other as soon as all entries have names of their own.

* `IsEntryName`, `isEntryName_enumEntry`, `enumEntry_eq_self_iff`: the names of entries.
* `EnumClass.entries`, `EnumClass.text_eq_entries`: what is written for an enumeration.
* `EnumClass.decode?`, `EnumClass.encode?`, `EnumClass.oneToOne_iff`: entries and wire values.
-/

namespace TypedRpc
namespace Target

/-! ## Names of entries -/

/-- Whether a character is a capital from A to Z, a digit from 0 to 9, or an underscore. -/
def isEntryChar (c : Char) : Bool :=
  c.isUpper || c.isDigit || c = '_'

/-- Whether a name is well formed for an entry: it is not empty, it holds capitals, digits and
underscores only, and it does not begin with a digit. -/
structure IsEntryName (name : String) : Prop where
  nonempty : name ≠ ""
  chars : ∀ c ∈ name.toList, isEntryChar c
  begins : ∀ c, name.toList.head? = some c → c.isDigit = false

theorem toUpper_of_isDigit {c : Char} (digit : c.isDigit) : c.toUpper = c := by
  refine Char.toUpper_eq_of_not_isLower fun lower => ?_
  grind [Char.isDigit, Char.isLower]

/-- Whatever is written for a character may stand in an entry. -/
theorem isEntryChar_entryChar (c : Char) : isEntryChar (entryChar c) := by
  unfold entryChar isEntryChar
  by_cases letter : c.isAlpha
  · simp [Char.isAlphanum, letter, Char.isUpper_toUpper_eq_isAlpha]
  · by_cases digit : c.isDigit
    · simp [Char.isAlphanum, digit, toUpper_of_isDigit digit]
    · simp [Char.isAlphanum, letter, digit]

/-- What may stand in an entry is written as it is. -/
theorem entryChar_of_isEntryChar {c : Char} (formed : isEntryChar c) : entryChar c = c := by
  simp only [isEntryChar, Bool.or_eq_true, decide_eq_true_eq] at formed
  unfold entryChar
  rcases formed with (capital | digit) | rfl
  · rw [if_pos (by simp [Char.isAlphanum, Char.isAlpha, capital])]
    exact Char.toUpper_eq_of_not_isLower (Char.not_isLower_of_isUpper capital)
  · rw [if_pos (by simp [Char.isAlphanum, digit])]
    exact toUpper_of_isDigit digit
  · rfl

@[simp] theorem toList_enumEntry (value : String) :
    (enumEntry value).toList = guardEntry (value.toList.map entryChar) := by
  simp [enumEntry, enumEntryChars]

/-- **Every name that is made from a wire value is well formed**, also from an empty one and from
one in another alphabet. -/
theorem isEntryName_enumEntry (value : String) : IsEntryName (enumEntry value) := by
  have chars : ∀ c ∈ value.toList.map entryChar, isEntryChar c :=
    List.forall_mem_map.mpr fun c _ => isEntryChar_entryChar c
  have guarded (cs : List Char) (formed : ∀ c ∈ cs, isEntryChar c) :
      guardEntry cs ≠ [] ∧ (∀ c ∈ guardEntry cs, isEntryChar c) ∧
        ∀ c, (guardEntry cs).head? = some c → c.isDigit = false := by
    cases cs with
    | nil => exact ⟨nofun, List.forall_mem_singleton.mpr rfl, fun c h => by cases h; rfl⟩
    | cons c rest =>
      rw [guardEntry]
      by_cases digit : c.isDigit
      · rw [if_pos digit]
        exact ⟨nofun, List.forall_mem_cons.mpr ⟨rfl, formed⟩, fun c h => by cases h; rfl⟩
      · rw [if_neg digit]
        exact ⟨nofun, formed, fun d h => by cases h; simpa using digit⟩
  obtain ⟨nonempty, formed, begins⟩ := guarded _ chars
  rw [← toList_enumEntry] at nonempty formed begins
  exact ⟨fun empty => nonempty (by rw [empty]; rfl), formed, begins⟩

/-- **A name is left as it is exactly when it is well formed.** -/
theorem enumEntry_eq_self_iff {name : String} : enumEntry name = name ↔ IsEntryName name := by
  constructor
  · intro same
    rw [← same]
    exact isEntryName_enumEntry name
  · rintro ⟨nonempty, chars, begins⟩
    have kept : name.toList.map entryChar = name.toList :=
      (List.map_congr_left fun c listed => entryChar_of_isEntryChar (chars c listed)).trans
        (List.map_id _)
    refine String.toList_injective ?_
    rw [toList_enumEntry, kept]
    cases read : name.toList with
    | nil => exact absurd (String.toList_eq_nil_iff.mp read) nonempty
    | cons c rest =>
      have first := begins c (by rw [read]; rfl)
      rw [guardEntry, if_neg (by simp [first])]

/-- Making a name of a name changes nothing. -/
theorem enumEntry_idem (value : String) : enumEntry (enumEntry value) = enumEntry value :=
  enumEntry_eq_self_iff.mpr (isEntryName_enumEntry value)

example : enumEntry "2nd–best" = "_2ND_BEST" := by cbv

/-! ## Entries and wire values -/

/-- The line of an entry, given its serial name and its name. -/
def entryLine (entry : String × String) : String :=
  Text.defaultMargin ++ serialNameMark entry.1 ++ " " ++ entry.2

namespace EnumClass

variable (declared : EnumClass)

/-- The entries of an enumeration: the serial name and the name of each. -/
def entries : List (String × String) :=
  declared.values.map fun value => (value, enumEntry value)

/-- The entry that a text on the wire is decoded to: the one that has it as its serial name. -/
def decode? (wire : String) : Option String :=
  declared.entries.lookup wire

/-- The text that an entry is encoded to: its serial name. -/
def encode? (entry : String) : Option String :=
  (declared.entries.map Prod.swap).lookup entry

theorem map_entryLine : declared.entries.map entryLine = declared.values.map entryText := by
  simp only [entries, List.map_map]
  exact List.map_congr_left fun value _ => (entryText.eq_1 value).symm

/-- An enumeration is written entry by entry, each with its serial name. -/
theorem text_eq_entries :
    declared.text = "@Serializable\nenum class " ++ declared.name ++ " \x7b\n" ++
      ",\n".intercalate (declared.entries.map entryLine) ++ "\n\x7d" := by
  rw [map_entryLine]
  rfl

/-- Whether the entries of an enumeration stand for its wire values one by one: no two entries have
one name, no two have one serial name, decoding and encoding undo each other, exactly the wire
values can be decoded, and exactly the entries can be encoded. -/
structure OneToOne : Prop where
  entries : (declared.values.map enumEntry).Nodup
  values : declared.values.Nodup
  inverse : ∀ wire entry, declared.decode? wire = some entry ↔ declared.encode? entry = some wire
  decoded : ∀ wire, (declared.decode? wire).isSome ↔ wire ∈ declared.values
  encoded : ∀ entry, (declared.encode? entry).isSome ↔ entry ∈ declared.values.map enumEntry

variable {declared}

theorem map_fst_entries : declared.entries.map Prod.fst = declared.values := by
  simp [entries, Function.comp_def]

theorem map_fst_swapped :
    (declared.entries.map Prod.swap).map Prod.fst = declared.values.map enumEntry := by
  simp [entries, Function.comp_def]

/-- **Entries stand for wire values one by one exactly when their names differ.** -/
theorem oneToOne_iff : declared.OneToOne ↔ (declared.values.map enumEntry).Nodup := by
  refine ⟨OneToOne.entries, fun apart => ?_⟩
  have values : declared.values.Nodup := apart.of_map
  refine ⟨apart, values, fun wire entry => ?_, fun wire => ?_, fun entry => ?_⟩
  · -- both sides say that the pair is an entry
    have decoded : declared.decode? wire = some entry ↔ (wire, entry) ∈ declared.entries :=
      ⟨mem_of_lookup_eq_some, lookup_eq_some_of_mem (by rwa [map_fst_entries])⟩
    have encoded : declared.encode? entry = some wire ↔
        (entry, wire) ∈ declared.entries.map Prod.swap :=
      ⟨mem_of_lookup_eq_some, lookup_eq_some_of_mem (by rwa [map_fst_swapped])⟩
    rw [decoded, encoded, List.mem_map]
    constructor
    · exact fun listed => ⟨(wire, entry), listed, rfl⟩
    · rintro ⟨pair, listed, same⟩
      rwa [← Prod.swap_swap pair, same] at listed
  · rw [decode?, isSome_lookup_iff, map_fst_entries]
  · rw [encode?, isSome_lookup_iff, map_fst_swapped]

end EnumClass
end Target
end TypedRpc
