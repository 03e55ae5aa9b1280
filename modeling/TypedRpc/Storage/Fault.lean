import TypedRpc.Storage.Path
import TypedRpc.Text.Quoted

/-!
# Faults of storage

Why a step on files fails.  Each cause has a number and a text; the paths that the step is about
follow in quotes.
-/

namespace TypedRpc
namespace Storage

/-- Why a step fails. -/
inductive StepCause where
  | missing
  | busy
  | exists
  | notDirectory
  | isDirectory
  | nameTooLong
  /-- Any other cause, by its number and text. -/
  | other (number : Nat) (text : String)
  deriving DecidableEq, Repr

/-- The number of a cause. -/
def StepCause.number : StepCause → Nat
  | .missing => 2
  | .busy => 16
  | .exists => 17
  | .notDirectory => 20
  | .isDirectory => 21
  | .nameTooLong => 36
  | .other number _ => number

/-- The text of a cause. -/
def StepCause.text : StepCause → String
  | .missing => "No such file or directory"
  | .busy => "Device or resource busy"
  | .exists => "File exists"
  | .notDirectory => "Not a directory"
  | .isDirectory => "Is a directory"
  | .nameTooLong => "File name too long"
  | .other _ text => text

/-- The cause with a number, whose text is known from elsewhere. -/
def StepCause.ofNumber (number : Nat) (text : String) : StepCause :=
  (knownCauses.find? fun cause => cause.number == number).getD (.other number text)
where
  /-- The causes that have a name. -/
  knownCauses : List StepCause :=
    [.missing, .busy, .exists, .notDirectory, .isDirectory, .nameTooLong]

/-- A step that fails, with the paths that it is about. -/
structure StepFault where
  cause : StepCause
  paths : List String
  deriving DecidableEq, Repr

/-- The wording of a fault. -/
def StepFault.message (fault : StepFault) : String :=
  "[Errno " ++ toString fault.cause.number ++ "] " ++ fault.cause.text ++
    (if fault.paths.isEmpty then ""
    else ": " ++ " -> ".intercalate (fault.paths.map Text.quote))

end Storage
end TypedRpc
