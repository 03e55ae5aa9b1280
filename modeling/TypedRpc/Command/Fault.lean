import TypedRpc.Command.Flag
import TypedRpc.Text.Quoted

/-!
# Faults of a command line

Why a command line is refused, in the words that follow the usage.
-/

namespace TypedRpc
namespace Command

/-- Why a command line is refused. -/
inductive UsageFault where
  /-- A word that could stand for several flags. -/
  | ambiguous (word : String) (spellings : List String)
  /-- A flag whose value is missing. -/
  | noValue (flag : Flag)
  /-- A value for a flag that takes none. -/
  | ignoredValue (flag : Flag) (value : String)
  /-- No schema is named. -/
  | noSchema
  /-- A word that is no command. -/
  | unknownVerb (word : String)
  /-- Words that nothing takes. -/
  | unrecognized (words : List String)
  deriving DecidableEq, Repr

/-- The wording of a fault. -/
def UsageFault.message : UsageFault → String
  | .ambiguous word spellings =>
    "ambiguous option: " ++ word ++ " could match " ++ ", ".intercalate spellings
  | .noValue flag => "argument " ++ flag.name ++ ": expected one argument"
  | .ignoredValue flag value =>
    "argument " ++ flag.name ++ ": ignored explicit argument " ++ Text.quote value
  | .noSchema => "the following arguments are required: schema"
  | .unknownVerb word =>
    "argument COMMAND: invalid choice: " ++ Text.quote word ++ " (choose from " ++
      ", ".intercalate (Verb.all.map fun verb => Text.quote verb.word) ++ ")"
  | .unrecognized words => "unrecognized arguments: " ++ " ".intercalate words

end Command
end TypedRpc
