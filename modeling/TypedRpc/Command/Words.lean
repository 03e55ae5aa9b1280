import TypedRpc.Command.Fault
import TypedRpc.Text.CharClass

/-!
# Words of a command line

Before anything is taken from a command line, every word is read by itself: as a flag, as a plain
word, or as the divider behind which all words are plain.  A flag may carry a value behind an equals
sign, a long flag may be cut short as long as only one flag starts that way, and behind a short flag
there may be more letters in the same word.  A word that starts with a hyphen and stands for no flag
is plain when it is a negative number or has a blank in it.
-/

namespace TypedRpc
namespace Command

/-- What a word is. -/
inductive Reading where
  | plain
  | divider
  /-- A flag, with the text that is attached to it in the same word.  A short one is written by one
  hyphen and a letter. -/
  | flag (flag : Flag) (short : Bool) (attached : Option (List Char))
  /-- It looks like a flag, and there is no such flag. -/
  | unknown
  deriving Repr

/-- Whether a spelling has one hyphen only. -/
def isShort : List Char → Bool
  | '-' :: '-' :: _ => false
  | _ => true

/-- A word before and behind its first equals sign, if it has one. -/
def splitValue (word : List Char) : List Char × Option (List Char) :=
  (word.takeWhile (· != '='), (word.dropWhile (· != '=')).tail?)

/-- Whether a word is written as a negative number: a hyphen and digits, with a dot or without; a
line feed may end it. -/
def isNegativeNumber (word : List Char) : Bool :=
  let number := if word.getLast? = some '\n' then word.dropLast else word
  match number with
  | '-' :: digits =>
    let whole := digits.takeWhile Text.isDigit
    match digits.dropWhile Text.isDigit with
    | [] => !whole.isEmpty
    | '.' :: fraction => !fraction.isEmpty && fraction.all Text.isDigit
    | _ => false
  | _ => false

namespace Grammar

variable (grammar : Grammar)

/-- What a word with one hyphen may stand for: a short flag with the rest of the word attached. -/
def shortReadings : List Char → List (String × Reading)
  | '-' :: letter :: rest =>
    let spelling := String.ofList ['-', letter]
    (grammar.flag? spelling).toList.map fun flag =>
      (spelling, .flag flag true (some rest))
  | _ => []

/-- What a word with two hyphens may stand for: every long flag that starts as the word does. -/
def longReadings (word : List Char) : List (String × Reading) :=
  let (start, value) := splitValue word
  (grammar.spellings.filter fun known => Text.startsWith start known.2.toList).map
    fun (flag, spelling) => (spelling, .flag flag false value)

/-- What a word that spells no flag may stand for. -/
def readings (word : List Char) : List (String × Reading) :=
  if isShort word then grammar.shortReadings word else grammar.longReadings word

/-- Reads a word that starts with a hyphen and goes on. -/
def readHyphened (word : List Char) : Except UsageFault Reading :=
  match grammar.flag? (String.ofList word), splitValue word with
  | some flag, _ => .ok (.flag flag (isShort word) none)
  | none, (spelling, value) =>
    match grammar.flag? (String.ofList spelling), value with
    | some flag, some text => .ok (.flag flag (isShort spelling) (some text))
    | _, _ =>
      match grammar.readings word with
      | [] => .ok (if isNegativeNumber word || word.contains ' ' then .plain else .unknown)
      | [(_, reading)] => .ok reading
      | several => .error (.ambiguous (String.ofList word) (several.map Prod.fst))

/-- Reads a word. -/
def readWord (word : String) : Except UsageFault Reading :=
  match word.toList with
  | '-' :: next :: rest => grammar.readHyphened ('-' :: next :: rest)
  | _ => .ok .plain

/-- Reads every word of a command line. -/
def readWords : List String → Except UsageFault (List (String × Reading))
  | [] => .ok []
  | word :: rest =>
    if word = "--" then .ok ((word, .divider) :: rest.map fun later => (later, .plain))
    else do
      let reading ← grammar.readWord word
      let readings ← readWords rest
      .ok ((word, reading) :: readings)

end Grammar
end Command
end TypedRpc
