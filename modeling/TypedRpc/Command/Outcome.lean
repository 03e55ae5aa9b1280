import TypedRpc.Command.Fault
import TypedRpc.Command.Flag
import TypedRpc.Text.Blocks

/-!
# Outcomes

How a run ends: its exit code and what it has written to its two streams.  A run that is only asked
for help or for the version ends well; one whose command line is refused ends with code 2, the usage
and the fault.
-/

namespace TypedRpc
namespace Command

open Text (joinLines)

/-- How a run ends. -/
structure Outcome where
  code : Nat
  output : String := ""
  errors : String := ""
  deriving DecidableEq, Repr

/-- A line of output. -/
def asLine (text : String) : String :=
  text ++ "\n"

/-- The program, or one of its commands, that a command line is read for. -/
abbrev Scope := Option Verb

/-- The name of a scope. -/
def scopeName : Scope → String
  | none => "rpcgen"
  | some verb => "rpcgen " ++ verb.word

/-- The usage of a scope. -/
def usage : Scope → String
  | none => "usage: rpcgen [-h] [--version] COMMAND ..."
  | some .generate => joinLines [
      "usage: rpcgen generate [-h] [--config CONFIG] [--package PACKAGE] [-v]",
      "                       [--output OUTPUT] [--stdout]",
      "                       schema"]
  | some .check =>
    "usage: rpcgen check [-h] [--config CONFIG] [--package PACKAGE] [-v] schema"

/-- The help on what every command takes. -/
def commonHelp : List String := [
  "positional arguments:",
  "  schema             Path to the schema file (.yaml, .yml or .json)",
  "",
  "options:",
  "  -h, --help         show this help message and exit",
  "  --config CONFIG    Path to the generator configuration file (default: built-",
  "                     in defaults)",
  "  --package PACKAGE  Kotlin package of the generated file (overrides package-",
  "                     name from the config)",
  "  -v, --verbose      Enable debug logging"]

/-- The help on a scope, below its usage. -/
def helpLines : Scope → List String
  | none => [
      "Generate a typed Kotlin RPC client from a backend resource schema",
      "",
      "positional arguments:",
      "  COMMAND",
      "    generate  Generate the Kotlin client",
      "    check     Verify the schema without generating",
      "",
      "options:",
      "  -h, --help  show this help message and exit",
      "  --version   show program's version number and exit"]
  | some .generate =>
    ["Verify the schema and write the generated Kotlin client to the output file.", ""] ++
      commonHelp ++ [
        "  --output OUTPUT    Path of the generated Kotlin file (overrides output-file",
        "                     from the config)",
        "  --stdout           Print the generated client instead of writing it to a",
        "                     file"]
  | some .check =>
    ["Run every verification check and report the findings.", ""] ++ commonHelp

/-- A run that is asked for help. -/
def helped (scope : Scope) : Outcome :=
  { code := 0, output := asLine (joinLines (usage scope :: "" :: helpLines scope)) }

/-- A run that is asked for the version. -/
def versioned : Outcome :=
  { code := 0, output := asLine (scopeName none ++ " 0.1.0") }

/-- A run whose command line is refused. -/
def refused (scope : Scope) (fault : UsageFault) : Outcome :=
  { code := 2
    errors := asLine (usage scope) ++
      asLine (scopeName scope ++ ": error: " ++ fault.message) }

/-- A run that a fault ends, behind what was written to the stream of errors before. -/
def failed (errors message : String) : Outcome :=
  { code := 1, errors := errors ++ asLine ("Error: " ++ message) }

end Command
end TypedRpc
