import TypedRpc.Value.Shown

/-!
# Problems of schema documents

A document that is no schema is refused with every problem in it, each at the place where it was
found.  A place is a path of steps from the top of the document: field names, list indices, map
keys, the kind of a type descriptor, and, where a value may take one of several forms, the form that
was tried.
-/

namespace TypedRpc

/-- A step on the way to a value of a document. -/
inductive Step where
  | name (text : String)
  | index (n : Nat)
  deriving DecidableEq, Repr

/-- The text of a step. -/
def Step.text : Step → String
  | .name s => s
  | .index n => toString n

/-- A place in a document, as the steps that lead to it. -/
abbrev Place : Type := List Step

/-- What is wrong with a value of a document. -/
inductive Cause where
  | missing
  | notText
  | undecodableText
  | notBoolean
  | unreadableBoolean
  | notInteger
  | unreadableInteger
  | fractionalInteger
  | infiniteInteger
  | oversizedInteger
  | notNumber
  | unreadableNumber
  | notList
  | notMap
  | notRecord (model : String)
  | notDescriptor
  | noTag
  | unknownTag (tag : String) (known : List String)
  | notAWord (known : List String)
  /-- The value stands inside itself. -/
  | cyclic
  /-- The value stands inside too many others. -/
  | tooDeep
  deriving DecidableEq, Repr

/-- Words between quotes, in a row that ends with "or". -/
def alternatives (words : List String) : String :=
  let quoted := words.map fun word => "'" ++ word ++ "'"
  match quoted.reverse with
  | [] => ""
  | [only] => only
  | last :: others => ", ".intercalate others.reverse ++ " or " ++ last

/-- The wording for a cause. -/
def Cause.message : Cause → String
  | .missing => "Field required"
  | .notText => "Input should be a valid string"
  | .undecodableText =>
    "Input should be a valid string, unable to parse raw data as a unicode string"
  | .notBoolean => "Input should be a valid boolean"
  | .unreadableBoolean => "Input should be a valid boolean, unable to interpret input"
  | .notInteger => "Input should be a valid integer"
  | .unreadableInteger =>
    "Input should be a valid integer, unable to parse string as an integer"
  | .fractionalInteger =>
    "Input should be a valid integer, got a number with a fractional part"
  | .infiniteInteger => "Input should be a finite number"
  | .oversizedInteger => "Unable to parse input string as an integer, exceeded maximum size"
  | .notNumber => "Input should be a valid number"
  | .unreadableNumber => "Input should be a valid number, unable to parse string as a number"
  | .notList => "Input should be a valid list"
  | .notMap => "Input should be a valid dictionary"
  | .notRecord model => "Input should be a valid dictionary or instance of " ++ model
  | .notDescriptor => "Input should be a valid dictionary or object to extract fields from"
  | .noTag => "Unable to extract tag using discriminator 'kind'"
  | .unknownTag tag known =>
    "Input tag '" ++ tag ++ "' found using 'kind' does not match any of the expected tags: " ++
      ", ".intercalate (known.map fun word => "'" ++ word ++ "'")
  | .notAWord known => "Input should be " ++ alternatives known
  | .cyclic => "Recursion error - cyclic reference detected"
  | .tooDeep => "Recursion error - maximum validation depth exceeded"

/-- A cause at a place. -/
structure Problem where
  place : Place
  cause : Cause
  deriving DecidableEq, Repr

/-- The wording of a problem: its place, unless it is the top of the document, and its cause. -/
def Problem.message (problem : Problem) : String :=
  let place := ".".intercalate (problem.place.map Step.text)
  if place.isEmpty then problem.cause.message else place ++ ": " ++ problem.cause.message

/-- The wording of several problems. -/
def problemsMessage (problems : List Problem) : String :=
  "; ".intercalate (problems.map Problem.message)

end TypedRpc
