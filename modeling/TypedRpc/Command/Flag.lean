import TypedRpc.Text.Blocks

/-!
# Flags

Flags are words of the command line that start with a hyphen.  Every command knows some flags, some
with a value, and takes one operand: a single word, or a word with everything behind it.
-/

namespace TypedRpc
namespace Command

/-- A flag. -/
inductive Flag where
  | help
  | version
  | config
  | package
  | verbose
  | output
  | stdout
  deriving DecidableEq, Repr

/-- How a flag is written: by one hyphen and a letter, or by two hyphens and a word. -/
def Flag.spellings : Flag → List String
  | .help => ["-h", "--help"]
  | .version => ["--version"]
  | .config => ["--config"]
  | .package => ["--package"]
  | .verbose => ["-v", "--verbose"]
  | .output => ["--output"]
  | .stdout => ["--stdout"]

/-- Whether a flag has a value. -/
def Flag.takesValue : Flag → Bool
  | .config | .package | .output => true
  | .help | .version | .verbose | .stdout => false

/-- A flag as messages name it. -/
def Flag.name (flag : Flag) : String :=
  "/".intercalate flag.spellings

/-- What a command takes besides flags. -/
inductive Operand where
  /-- A single word. -/
  | word
  /-- A word and everything behind it. -/
  | rest
  deriving DecidableEq, Repr

/-- The flags of a command in the order in which help lists them, and its operand. -/
structure Grammar where
  flags : List Flag
  operand : Operand
  deriving Repr

/-- Every spelling of every flag of a command. -/
def Grammar.spellings (grammar : Grammar) : List (Flag × String) :=
  grammar.flags.flatMap fun flag => flag.spellings.map fun spelling => (flag, spelling)

/-- The flag with a spelling. -/
def Grammar.flag? (grammar : Grammar) (spelling : String) : Option Flag :=
  (grammar.spellings.find? fun known => known.2 == spelling).map Prod.fst

/-- The commands. -/
inductive Verb where
  | generate
  | check
  deriving DecidableEq, Repr

/-- The word for a command. -/
def Verb.word : Verb → String
  | .generate => "generate"
  | .check => "check"

/-- Every command, in the order in which help lists them. -/
def Verb.all : List Verb :=
  [.generate, .check]

/-- The command for a word. -/
def Verb.ofWord? (word : String) : Option Verb :=
  Verb.all.find? fun verb => verb.word == word

/-- The grammar of a command line up to the command. -/
def programGrammar : Grammar :=
  ⟨[.help, .version], .rest⟩

/-- The grammar of a command. -/
def Verb.grammar : Verb → Grammar
  | .generate => ⟨[.help, .config, .package, .verbose, .output, .stdout], .word⟩
  | .check => ⟨[.help, .config, .package, .verbose], .word⟩

end Command
end TypedRpc
