import TypedRpc.Command.Words

/-!
# What a command line gives

A command line is taken from the left: flags with their values, the operand, and words that nothing
takes.  What is given comes in order and may end in a fault, so that a request for help is answered
when it stands before the fault and not when it stands behind it.

A divider belongs to the operand when it stands next to it, and is taken by nothing elsewhere.
-/

namespace TypedRpc
namespace Command

/-- The value that a flag is given.  Two hyphens are no text, even where they are attached to a
flag. -/
abbrev FlagValue : Type := Option String

/-- Something that a command line gives. -/
inductive Given where
  | flag (flag : Flag)
  | value (flag : Flag) (value : FlagValue)
  | operand (words : List String)
  | extra (word : String)
  deriving DecidableEq, Repr

/-- What a command line gives, and the fault that it ends in. -/
structure Scan where
  given : List Given
  fault : Option UsageFault := none
  deriving Repr

/-- Something is given first. -/
def Scan.after (first : List Given) (scan : Scan) : Scan :=
  { scan with given := first ++ scan.given }

/-- What the letters of one word give: flags, and at last a flag that may have a value in a later
word. -/
structure Letters where
  given : List Given
  last : Option Flag := none
  deriving Repr

namespace Grammar

variable (grammar : Grammar)

/-- What a flag gives when it stands for itself: a flag with a value waits for it. -/
def alone (flag : Flag) : Letters :=
  if flag.takesValue then ⟨[], some flag⟩ else ⟨[.flag flag], none⟩

/-- What a flag gives together with the text that is attached to it. -/
def attachedValue (flag : Flag) (text : List Char) : Given :=
  .value flag (if text = ['-', '-'] then none else some (String.ofList text))

/-- What a short flag gives together with the letters behind it, each of which must be a flag. -/
def flagLetters (flag : Flag) : List Char → Except UsageFault Letters
  | [] => .ok (alone flag)
  | text@(letter :: rest) =>
    if flag.takesValue then .ok ⟨[attachedValue flag text], none⟩
    else
      match grammar.flag? (String.ofList ['-', letter]) with
      | none => .error (.ignoredValue flag (String.ofList text))
      | some next => do
        let letters ← flagLetters next rest
        .ok { letters with given := .flag flag :: letters.given }

/-- What a flag gives together with what is attached to it. -/
def letters (flag : Flag) (short : Bool) : Option (List Char) → Except UsageFault Letters
  | none => .ok (alone flag)
  | some text =>
    if flag.takesValue then .ok ⟨[attachedValue flag text], none⟩
    else if short && !text.isEmpty then grammar.flagLetters flag text
    else .error (.ignoredValue flag (String.ofList text))

/-- How far the operand is. -/
inductive OperandState where
  | awaited
  /-- It is the word before. -/
  | justTaken
  | taken
  deriving DecidableEq, Repr

/-- Takes plain words behind a divider. -/
def takePlain (operand : OperandState) (words : List String) : List Given :=
  match operand, words with
  | .awaited, first :: rest =>
    match grammar.operand with
    | .word => .operand [first] :: rest.map .extra
    | .rest => [.operand ("--" :: first :: rest)]
  | .justTaken, words => words.map .extra
  | _, words => .extra "--" :: words.map .extra

/-- Takes the words of a command line, while a flag may wait for its value. -/
def take (operand : OperandState) (waiting : Option Flag) : List (String × Reading) → Scan
  | [] => ⟨[], waiting.map .noValue⟩
  | (word, reading) :: rest =>
    match waiting, reading with
    | some flag, .plain => (take operand none rest).after [.value flag (some word)]
    | some flag, _ => ⟨[], some (.noValue flag)⟩
    | none, .plain =>
      if operand = .awaited then
        match grammar.operand with
        | .word => (take .justTaken none rest).after [.operand [word]]
        | .rest => ⟨[.operand (word :: rest.map Prod.fst)], none⟩
      else (take .taken none rest).after [.extra word]
    | none, .divider => ⟨grammar.takePlain operand (rest.map Prod.fst), none⟩
    | none, .unknown => (take (settled operand) none rest).after [.extra word]
    | none, .flag flag short attached =>
      match grammar.letters flag short attached with
      | .error fault => ⟨[], some fault⟩
      | .ok letters => (take (settled operand) letters.last rest).after letters.given
where
  /-- The state after a word that is no operand. -/
  settled : OperandState → OperandState
    | .awaited => .awaited
    | _ => .taken

/-- What a command line gives. -/
def scan (words : List String) : Scan :=
  match grammar.readWords words with
  | .error fault => ⟨[], some fault⟩
  | .ok readings => grammar.take .awaited none readings

end Grammar
end Command
end TypedRpc
