import TypedRpc.Breakdown
import TypedRpc.Schema.Basic
import TypedRpc.Target.Literal
import TypedRpc.Text.Blocks

/-!
# Validation annotations

What a field restricts about its values, as annotations of an input property.  A value that must be
there is not blank when it is a text and not null otherwise.  Lengths are checked of texts and
arrays, bounds of numbers, and patterns of texts.  The annotations for bounds take whole numbers, so
a bound with a fraction loses it, and an infinite one has no annotation.

Annotations are written one after the other.  An integer that is too long cannot be written, which
is found out when its annotation is.
-/

namespace TypedRpc

/-- A validation annotation. -/
inductive InputCheck where
  | notBlank
  | notNull
  | size (least most : Option Int)
  | min (bound : Int)
  | max (bound : Int)
  | pattern (regex : String)
  deriving DecidableEq, Repr

namespace InputCheck

/-- The parts of a size annotation. -/
def sizeParts (least most : Option Int) : List String :=
  (least.map fun n => "min = " ++ toString n).toList ++
    (most.map fun n => "max = " ++ toString n).toList

/-- The annotation as it is written. -/
def text : InputCheck → String
  | .notBlank => "@field:NotBlank"
  | .notNull => "@field:NotNull"
  | .size least most => "@field:Size(" ++ Text.listing (sizeParts least most) ++ ")"
  | .min bound => "@field:Min(" ++ toString bound ++ ")"
  | .max bound => "@field:Max(" ++ toString bound ++ ")"
  | .pattern regex => "@field:Pattern(regexp = " ++ Target.stringLiteral regex ++ ")"

/-- The integers in an annotation. -/
def integers : InputCheck → List Int
  | .size least most => least.toList ++ most.toList
  | .min bound | .max bound => [bound]
  | .notBlank | .notNull | .pattern _ => []

/-- Whether an annotation can be written. -/
def isWritable (check : InputCheck) : Bool :=
  check.integers.all Number.isWritable

/-- Writes an annotation. -/
def write (check : InputCheck) : Except Breakdown String :=
  if check.isWritable then .ok check.text else .error .unwritableInteger

theorem write_eq_ok_iff {check : InputCheck} {text : String} :
    check.write = .ok text ↔ check.isWritable = true ∧ check.text = text := by
  unfold write
  split
  · next short => simp [short]
  · next long => simp [long]

end InputCheck

/-- The whole number of a bound, with its fraction cut off. -/
def Bound.truncate : Bound → Except Breakdown Int
  | .int n => .ok n
  | .float x =>
    match x.truncate? with
    | some n => .ok n
    | none => .error (if x = .nan then .bound else .infiniteBound)

namespace TypeRef

/-- Whether the values are texts. -/
def isText : TypeRef → Bool
  | .primitive .string _ | .primitive .ciString _ => true
  | _ => false

/-- Whether the values are numbers. -/
def isNumeric : TypeRef → Bool
  | .primitive .integer _ | .primitive .float _ | .primitive .decimal _ => true
  | _ => false

/-- Whether the values are arrays. -/
def isArray : TypeRef → Bool
  | .array _ _ => true
  | _ => false

/-- The restrictions that the type carries. -/
def constraints? : TypeRef → Option Constraints
  | .primitive _ constraints | .array _ constraints => some constraints
  | _ => none

end TypeRef

/-- The annotation for a value that must be there. -/
def presenceCheck (field : FieldSpec) : List InputCheck :=
  if field.nullable then [] else if field.type.isText then [.notBlank] else [.notNull]

/-- The annotation for lengths. -/
def sizeCheck (type : TypeRef) (constraints : Constraints) : List InputCheck :=
  if (type.isText || type.isArray) &&
      (constraints.minLength.isSome || constraints.maxLength.isSome) then
    [.size constraints.minLength constraints.maxLength]
  else []

/-- The annotations for bounds, where there is one for the bound. -/
def boundChecks (type : TypeRef) (constraints : Constraints) : List (Except Breakdown InputCheck) :=
  if type.isNumeric then
    (constraints.min.map fun bound => bound.truncate.map InputCheck.min).toList ++
      (constraints.max.map fun bound => bound.truncate.map InputCheck.max).toList
  else []

/-- The annotation for a pattern. -/
def patternCheck (type : TypeRef) (constraints : Constraints) : List InputCheck :=
  if type.isText then (constraints.pattern.map InputCheck.pattern).toList else []

/-- The annotations of an input field in a fixed order, each where there is one. -/
def Field.checks (field : FieldSpec) : List (Except Breakdown InputCheck) :=
  match field.type.constraints? with
  | none => (presenceCheck field).map .ok
  | some constraints =>
    (presenceCheck field ++ sizeCheck field.type constraints).map .ok ++
      boundChecks field.type constraints ++ (patternCheck field.type constraints).map .ok

/-- The annotations of an input field. -/
def Field.annotations (field : FieldSpec) : Except Breakdown (List InputCheck) :=
  field.checks.mapM id

/-- The annotations of an input field as they are written. -/
def Field.annotationTexts (field : FieldSpec) : Except Breakdown (List String) :=
  field.checks.mapM (· >>= InputCheck.write)

end TypedRpc
