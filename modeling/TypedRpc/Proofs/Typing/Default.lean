import TypedRpc.Proofs.Target.Literal
import TypedRpc.Proofs.Target.NumberLiteral
import TypedRpc.Typing.Default

/-!
# Defaults and the types that they are declared with

A default is written as a literal of its own kind, whatever the type is that the field is declared
with: what kind that is can be told from the characters of the literal.  A warning is given where
the kind is none of those that are let pass for the declared type.  All numbers are let pass alike,
for integers, for numbers with a fraction and for texts, so that a number under the wrong one of
these types is not reported.

* `LiteralType.IsLiteral`, `LiteralType.told_eq`: the literals of a type, and how they are told from
  those of other types.
* `Value.isLiteral_literalText_iff`: of which type a default is a literal.
* `default_literals_fit_iff`: which defaults fit their types, and which misfits are not reported;
  `fraction_default_unreported` shows one.
-/

namespace TypedRpc

open Target (TypeExpr IsIntegerLiteral IsRealLiteral IsEscaped isNumberChar isRealMark)

/-! ## Literals of types -/

/-- A type that has literals. -/
inductive LiteralType where
  | boolean
  | integer
  | real
  | text
  deriving DecidableEq, Repr

namespace LiteralType

/-- The name of the type. -/
def word : LiteralType → String
  | .boolean => "Boolean"
  | .integer => "Int"
  | .real => "Double"
  | .text => "String"

/-- Whether a text is a literal of the type. -/
def IsLiteral : LiteralType → String → Prop
  | .boolean, literal => literal = "true" ∨ literal = "false"
  | .integer, literal => IsIntegerLiteral literal
  | .real, literal => IsRealLiteral literal
  | .text, literal => ∃ inside, IsEscaped inside ∧ literal.toList = '"' :: (inside ++ ['"'])

/-- The type that a literal is told to have by its characters. -/
def told (cs : List Char) : LiteralType :=
  if cs.all isNumberChar then (if cs.any isRealMark then .real else .integer)
  else if cs.head? = some '"' then .text else .boolean

/-- **The characters of a literal tell its type.** -/
theorem told_eq {declared : LiteralType} {text : String} (literal : declared.IsLiteral text) :
    told text.toList = declared := by
  cases declared with
  | boolean => rcases literal with rfl | rfl <;> decide
  | integer =>
    have numeric : text.toList.all isNumberChar := List.all_eq_true.mpr literal.numberChars
    have unmarked : text.toList.any isRealMark = false := by
      simpa using literal.not_mark
    rw [told, if_pos numeric, unmarked]
    rfl
  | real =>
    have numeric : text.toList.all isNumberChar := List.all_eq_true.mpr literal.numberChars
    have marked : text.toList.any isRealMark := List.any_eq_true.mpr literal.exists_mark
    rw [told, if_pos numeric, if_pos marked]
  | text =>
    obtain ⟨inside, -, quoted⟩ := literal
    rw [told, quoted, List.all_cons]
    rfl

/-- A literal has one type. -/
theorem IsLiteral.unique {a b : LiteralType} {text : String} (here : a.IsLiteral text)
    (there : b.IsLiteral text) : a = b :=
  (told_eq here).symm.trans (told_eq there)

/-- A word that is not a boolean and holds more than numbers do is no literal. -/
theorem not_isLiteral_of_word {text : String} (worded : told text.toList = .boolean)
    (unknown : text ≠ "true" ∧ text ≠ "false") (declared : LiteralType) :
    ¬declared.IsLiteral text := by
  intro literal
  obtain rfl := (told_eq literal).symm.trans worded
  exact literal.elim unknown.1 unknown.2

end LiteralType

/-! ## Literals of defaults -/

namespace Value

/-- The type that a value has a literal of, if there is one. -/
def literalType? : Value → Option LiteralType
  | .bool _ => some .boolean
  | .int _ => some .integer
  | .float (.finite _ _ _) => some .real
  | .text _ => some .text
  | _ => none

/-- Whether a value is a number. -/
def isNumber : Value → Bool
  | .int _ | .float _ => true
  | _ => false

/-- What is written for a value that is a default. -/
def literalText (value : Value) : String :=
  (value.literal?.map Prod.fst).getD "null"

/-- A value is written as a literal of its type. -/
theorem isLiteral_literalText {value : Value} {declared : LiteralType}
    (typed : value.literalType? = some declared) : declared.IsLiteral value.literalText := by
  unfold literalType? at typed
  split at typed <;> cases typed
  · next b => cases b <;> simp [LiteralType.IsLiteral, literalText, literal?]
  · next n => exact Target.isIntegerLiteral_toString n
  · next negative significand exponent =>
    exact Target.isRealLiteral_finite negative significand exponent
  · next s =>
    exact ⟨_, Target.isEscaped_flatMap_escapeChar s.toList, String.toList_ofList⟩

/-- A value without a type of this kind is not written as a literal of any. -/
theorem not_isLiteral_literalText {value : Value} (untyped : value.literalType? = none)
    (declared : LiteralType) : ¬declared.IsLiteral value.literalText := by
  cases value with
  | bool | int | text => cases untyped
  | float x =>
    cases x with
    | finite => cases untyped
    | infinite negative =>
      cases negative <;>
        exact LiteralType.not_isLiteral_of_word (by decide) (by decide) declared
    | nan => exact LiteralType.not_isLiteral_of_word (by decide) (by decide) declared
  | null | bytes | date | moment | list | tuple | map | set | part =>
    have unknown : ¬declared.IsLiteral "null" :=
      LiteralType.not_isLiteral_of_word (by decide) (by decide) declared
    exact unknown

/-- **A value is written as a literal of its own type and of no other one.** -/
theorem isLiteral_literalText_iff {value : Value} {declared : LiteralType} :
    declared.IsLiteral value.literalText ↔ value.literalType? = some declared := by
  refine ⟨fun literal => ?_, isLiteral_literalText⟩
  cases typed : value.literalType? with
  | none => exact absurd literal (not_isLiteral_literalText typed declared)
  | some own => rw [(isLiteral_literalText typed).unique literal]

end Value

/-! ## Warnings -/

theorem Field.defaultLiteral?_of_given {field : FieldSpec} (given : field.default ≠ .null) :
    field.defaultLiteral? = some field.default.literalText := by
  unfold Field.defaultLiteral?
  split
  · contradiction
  · rfl

/-- A value that has a literal is let pass for its own type and, if it is a number, for those of the
other numbers and for that of texts. -/
theorem Value.contains_word_iff {value : Value} {declared : LiteralType} {literal : String}
    {expected : List String} (written : value.literal? = some (literal, expected)) :
    expected.contains declared.word ↔
      value.literalType? = some declared ∨ value.isNumber ∧ declared ≠ .boolean := by
  cases value with
  | bool b =>
    cases written
    cases declared <;> simp [LiteralType.word, literalType?, isNumber]
  | int n =>
    cases written
    cases declared <;> simp [LiteralType.word, literalType?, isNumber]
  | float x =>
    cases written
    cases x <;> cases declared <;> simp [LiteralType.word, literalType?, isNumber]
  | text s =>
    cases written
    cases declared <;> simp [LiteralType.word, literalType?, isNumber]
  | null | bytes | date | moment | list | tuple | map | set | part => cases written

/-- A value without a literal is of none of these types. -/
theorem Value.literalType?_of_not_written {value : Value} (unwritten : value.literal? = none) :
    value.literalType? = none ∧ value.isNumber = false := by
  cases value with
  | bool | int | float | text => cases unwritten
  | null | bytes | date | moment | list | tuple | map | set | part => exact ⟨rfl, rfl⟩

/-- **No warning is given about a default that fits its type, nor about any number that is not
declared as a boolean.** -/
theorem Field.defaultWarning?_eq_none_iff {field : FieldSpec} {type : TypeExpr}
    {declared : LiteralType} (given : field.default ≠ .null)
    (typed : type.baseText = declared.word) :
    field.defaultWarning? type = none ↔ field.default.literalType? = some declared ∨
      field.default.isNumber ∧ declared ≠ .boolean := by
  unfold Field.defaultWarning?
  rw [typed]
  split
  · contradiction
  · cases written : field.default.literal? with
    | none =>
      obtain ⟨untyped, other⟩ := Value.literalType?_of_not_written written
      rw [untyped, other]
      simp
    | some literal =>
      rw [← Value.contains_word_iff written]
      exact ite_eq_left_iff.trans (by simp)

/-- **Which defaults are written as literals of their types.**  A default is a literal of the type
that it is declared with exactly when it is a value of that type, and a number with an infinite
value or none is a literal of no type.  The misfits that no warning is given about are numbers: they
are declared as texts or as numbers of the other kind. -/
theorem default_literals_fit_iff {field : FieldSpec} {type : TypeExpr} {declared : LiteralType}
    (given : field.default ≠ .null) (typed : type.baseText = declared.word) :
    ∃ literal, field.defaultLiteral? = some literal ∧
      (declared.IsLiteral literal ↔ field.default.literalType? = some declared) ∧
      ((field.defaultWarning? type = none → declared.IsLiteral literal) ↔
        ¬(field.default.isNumber ∧ declared ≠ .boolean ∧
          field.default.literalType? ≠ some declared)) := by
  refine ⟨_, Field.defaultLiteral?_of_given given, Value.isLiteral_literalText_iff, ?_⟩
  rw [Field.defaultWarning?_eq_none_iff given typed, Value.isLiteral_literalText_iff]
  constructor
  · rintro fits ⟨number, other, misfit⟩
    exact misfit (fits (.inr ⟨number, other⟩))
  · rintro reported (fits | ⟨number, other⟩)
    · exact fits
    · by_contra misfit
      exact reported ⟨number, other, misfit⟩

/-- A share, half of the whole by default. -/
def shareField : FieldSpec where
  name := "share"
  type := .primitive .float {}
  default := .float (.finite false 4503599627370496 (-53))

/-- The default of a share is a literal of its type, and nothing is reported. -/
theorem share_default_fits :
    shareField.default ≠ .null ∧
      (TypeExpr.nullable (.named "Double")).baseText = LiteralType.real.word ∧
      shareField.defaultWarning? (.nullable (.named "Double")) = none ∧
      ∃ literal, shareField.defaultLiteral? = some literal ∧
        LiteralType.real.IsLiteral literal := by
  have given : shareField.default ≠ .null := by simp [shareField]
  have typed : (TypeExpr.nullable (.named "Double")).baseText = LiteralType.real.word := by
    decide +kernel
  obtain ⟨literal, written, fits, -⟩ := default_literals_fit_iff given typed
  have quiet := (Field.defaultWarning?_eq_none_iff given typed).mpr (.inl rfl)
  exact ⟨given, typed, quiet, literal, written, fits.mpr rfl⟩

/-- A count that is 2.5 by default. -/
def countField : FieldSpec where
  name := "count"
  type := .primitive .integer {}
  default := .float (.finite false 5629499534213120 (-51))

/-- **A fraction under the type of integers is not reported**, and it is no literal of that type. -/
theorem fraction_default_unreported :
    countField.defaultWarning? (.named "Int") = none ∧ countField.defaultLiteral? = some "2.5" ∧
      ¬∀ (field : FieldSpec) (type : TypeExpr) (declared : LiteralType), field.default ≠ .null →
        type.baseText = declared.word → field.defaultWarning? type = none →
          ∃ literal, field.defaultLiteral? = some literal ∧ declared.IsLiteral literal := by
  have given : countField.default ≠ .null := by simp [countField]
  have typed : (TypeExpr.named "Int").baseText = LiteralType.integer.word := by decide +kernel
  have quiet : countField.defaultWarning? (.named "Int") = none :=
    (Field.defaultWarning?_eq_none_iff given typed).mpr (.inr ⟨rfl, by decide⟩)
  refine ⟨quiet, by decide +kernel, fun claimed => ?_⟩
  obtain ⟨literal, written, fits⟩ := claimed countField (.named "Int") .integer given typed quiet
  rw [Field.defaultLiteral?_of_given given, Option.some_inj] at written
  rw [← written, Value.isLiteral_literalText_iff] at fits
  cases fits

end TypedRpc
