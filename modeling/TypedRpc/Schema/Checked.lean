import TypedRpc.Schema.Problem
import TypedRpc.Value.Document

/-!
# Results that gather problems

Reading a record of a document reads all its fields, whether or not the ones before could be read,
so that one look at a document finds everything that is wrong with it.  The problems of a record
stand in the order of its fields, those of a list in the order of its items.
-/

namespace TypedRpc

/-- A value, or the problems that stand in its way. -/
inductive Checked (α : Type) where
  | ok (value : α)
  | faulty (problems : List Problem)
  deriving Repr

/-- Reads a value of a document. -/
abbrev Reader (α : Type) : Type := Document → Checked α

namespace Checked

variable {α β ι : Type}

/-- A single problem right here. -/
def refuse (cause : Cause) : Checked α :=
  .faulty [⟨[], cause⟩]

/-- Applies a function to a value. -/
def map (f : α → β) : Checked α → Checked β
  | .ok a => .ok (f a)
  | .faulty problems => .faulty problems

/-- Applies a function to a value, gathering the problems of both. -/
def apply : Checked (α → β) → Checked α → Checked β
  | .ok f, .ok a => .ok (f a)
  | .ok _, .faulty problems => .faulty problems
  | .faulty problems, .ok _ => .faulty problems
  | .faulty problems, .faulty others => .faulty (problems ++ others)

instance : Applicative Checked where
  pure := .ok
  map := map
  seq f x := f.apply (x ())

/-- Moves problems to where a step leads. -/
def under (step : Step) : Checked α → Checked α
  | .ok a => .ok a
  | .faulty problems => .faulty (problems.map fun p => { p with place := step :: p.place })

/-- The value, if there is one. -/
def toOption : Checked α → Option α
  | .ok a => some a
  | .faulty _ => none

/-- Reads items one after the other, each under its index. -/
def items (read : ι → Checked α) (index : Nat) : List ι → Checked (List α)
  | [] => .ok []
  | item :: rest =>
    List.cons <$> (read item).under (.index index) <*> items read (index + 1) rest

/-- A field that must be there, given what was found under its name. -/
def present (name : String) (found : Option ι) (read : ι → Checked α) : Checked α :=
  match found with
  | some value => (read value).under (.name name)
  | none => (refuse .missing).under (.name name)

/-- A field that may be left out, given what was found under its name. -/
def presentOr (name : String) (found : Option ι) (missing : α) (read : ι → Checked α) :
    Checked α :=
  match found with
  | some value => (read value).under (.name name)
  | none => .ok missing

/-- A field that must be there. -/
def required (entries : Entries) (name : String) (read : Reader α) : Checked α :=
  present name (Value.field? entries name) read

/-- A field that may be left out. -/
def optional (entries : Entries) (name : String) (missing : α) (read : Reader α) : Checked α :=
  presentOr name (Value.field? entries name) missing read

/-- A value that may also be null. -/
def orNull (read : Reader α) : Reader (Option α) := fun document =>
  match document.value with
  | .null => .ok none
  | _ => (read document).map some

end Checked
end TypedRpc
