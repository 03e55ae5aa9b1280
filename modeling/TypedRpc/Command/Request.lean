import TypedRpc.Command.Outcome
import TypedRpc.Command.Scan

/-!
# Requests

A command line that is accepted is a request: a command, the schema that it is for, and what its
flags say.  When a flag is given several times the last one counts.
-/

namespace TypedRpc
namespace Command

/-- What the flags of a command say. -/
structure Settings where
  config : Option FlagValue := none
  package : Option FlagValue := none
  output : Option FlagValue := none
  verbose : Bool := false
  toOutput : Bool := false
  schema : Option String := none
  extras : List String := []
  deriving DecidableEq, Repr

/-- What a run is asked to do. -/
structure Request where
  verb : Verb
  schema : String
  config : Option FlagValue
  package : Option FlagValue
  output : Option FlagValue
  verbose : Bool
  toOutput : Bool
  deriving DecidableEq, Repr

/-- Takes what the command line of a command gives, unless it asks for help. -/
def Settings.take (verb : Verb) (settings : Settings) : List Given → Except Outcome Settings
  | [] => .ok settings
  | first :: rest =>
    let next : Except Outcome Settings :=
      match first with
      | .flag .help => .error (helped (some verb))
      | .flag .verbose => .ok { settings with verbose := true }
      | .flag .stdout => .ok { settings with toOutput := true }
      | .flag _ => .ok settings
      | .value .config value => .ok { settings with config := some value }
      | .value .package value => .ok { settings with package := some value }
      | .value .output value => .ok { settings with output := some value }
      | .value _ _ => .ok settings
      | .operand words => .ok { settings with schema := words.head? }
      | .extra word => .ok { settings with extras := settings.extras ++ [word] }
    match next with
    | .error outcome => .error outcome
    | .ok settings => take verb settings rest

/-- The settings that the words behind a command give. -/
def settingsOf (verb : Verb) (words : List String) : Except Outcome Settings := do
  let scan := verb.grammar.scan words
  let settings ← Settings.take verb {} scan.given
  match scan.fault with
  | some fault => .error (refused (some verb) fault)
  | none => .ok settings

/-- The request for a command, given the words that nothing has taken before it. -/
def requestOf (extras : List String) (verb : Verb) (words : List String) :
    Except Outcome Request := do
  let settings ← settingsOf verb words
  match settings.schema with
  | none => .error (refused (some verb) .noSchema)
  | some schema =>
    if extras ++ settings.extras = [] then
      .ok {
        verb, schema, config := settings.config, package := settings.package
        output := settings.output, verbose := settings.verbose, toOutput := settings.toOutput }
    else .error (refused none (.unrecognized (extras ++ settings.extras)))

/-- Takes what a command line gives up to its command. -/
def takeProgram (fault : Option UsageFault) (extras : List String) :
    List Given → Except Outcome Request
  | [] =>
    match fault with
    | some fault => .error (refused none fault)
    | none => .error (if extras = [] then helped none else refused none (.unrecognized extras))
  | .flag .version :: _ => .error versioned
  | .flag _ :: _ => .error (helped none)
  | .operand (word :: words) :: _ =>
    match Verb.ofWord? word with
    | none => .error (refused none (.unknownVerb word))
    | some verb => requestOf extras verb words
  | .extra word :: rest => takeProgram fault (extras ++ [word]) rest
  | _ :: rest => takeProgram fault extras rest

/-- The request that a command line makes, or how the run ends without one. -/
def Request.ofWords (words : List String) : Except Outcome Request :=
  let scan := programGrammar.scan words
  takeProgram scan.fault [] scan.given

end Command
end TypedRpc
