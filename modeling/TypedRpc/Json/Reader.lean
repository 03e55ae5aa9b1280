import TypedRpc.Json.Token

/-!
# Reading JSON

A JSON text is read token by token by a machine with a stack: one frame for each list or map that
has been opened and not closed, holding what has been read of it.  Between two tokens the machine
expects one of a few things, and a token that does not fit is a fault at its own place.  One token
is one step, so reading ends with the tokens.

Texts are made of characters, so half of a pair that an escape writes alone is not kept: in its
place stands U+FFFD.  A reader whose texts may hold such halves would pass it on, and whoever checks
the value would refuse it where a text is to stand.
-/

namespace TypedRpc
namespace Json

/-- A list or a map that has not been closed.  Items of a list are kept from the last to the
first. -/
inductive Frame where
  | list (done : List Value)
  | map (done : List (Value × Value)) (key : String)
  deriving Repr

/-- What may come next. -/
inductive Expectation where
  | value
  | valueOrClose
  | key (done : List (Value × Value))
  | keyOrClose
  | colon (done : List (Value × Value)) (key : String)
  | delimiter (value : Value)
  deriving Repr

/-- What the reader holds between two tokens. -/
structure ReadState where
  stack : List Frame
  expectation : Expectation
  deriving Repr

/-- A syntax fault. -/
def refuse (kind : FaultKind) (offset : Nat) : Failure :=
  .syntaxFault ⟨kind, offset⟩

/-- The most lists and maps that may stand inside each other. -/
def maxDepth : Nat := 990

/-- What follows the opening of a list or a map, if there are not too many around it. -/
def ReadState.opened (stack : List Frame) (form : CollectionForm) (next : ReadState) :
    Except Failure ReadState :=
  if stack.length < maxDepth then .ok next else .error (.tooDeep form)

/-- The step on a token where a value is expected. -/
def ReadState.onValue (stack : List Frame) (offset : Nat) : Token → Except Failure ReadState
  | .openBrace => ReadState.opened stack .map ⟨stack, .keyOrClose⟩
  | .openBracket => ReadState.opened stack .list ⟨.list [] :: stack, .valueOrClose⟩
  | .text s => .ok ⟨stack, .delimiter (.text s)⟩
  | .scalar v => .ok ⟨stack, .delimiter v⟩
  | .broken failure _ => .error failure
  | _ => .error (refuse .expectedValue offset)

/-- The step on a token where a key is expected. -/
def ReadState.onKey (stack : List Frame) (done : List (Value × Value)) (offset : Nat) :
    Token → Except Failure ReadState
  | .text s => .ok ⟨stack, .colon done s⟩
  | .broken failure true => .error failure
  | _ => .error (refuse .expectedKey offset)

/-- The step on a token that follows a whole value. -/
def ReadState.onDelimiter (stack : List Frame) (value : Value) (offset : Nat) (token : Token) :
    Except Failure ReadState :=
  match stack, token with
  | .list done :: outer, .comma => .ok ⟨.list (value :: done) :: outer, .value⟩
  | .list done :: outer, .closeBracket => .ok ⟨outer, .delimiter (.list (value :: done).reverse)⟩
  | .map done key :: outer, .comma => .ok ⟨outer, .key (Value.insert done (.text key) value)⟩
  | .map done key :: outer, .closeBrace =>
    .ok ⟨outer, .delimiter (.map (Value.insert done (.text key) value))⟩
  | [], _ => .error (refuse .extraData offset)
  | _, _ => .error (refuse .expectedComma offset)

/-- The step on one token. -/
def ReadState.step (state : ReadState) (token : Token) (offset : Nat) : Except Failure ReadState :=
  match state.expectation, token with
  | .valueOrClose, .closeBracket => .ok ⟨state.stack.drop 1, .delimiter (.list [])⟩
  | .keyOrClose, .closeBrace => .ok ⟨state.stack, .delimiter (.map [])⟩
  | .value, token => ReadState.onValue state.stack offset token
  | .valueOrClose, token => ReadState.onValue state.stack offset token
  | .keyOrClose, token => ReadState.onKey state.stack [] offset token
  | .key done, token => ReadState.onKey state.stack done offset token
  | .colon done key, .colon => .ok ⟨.map done key :: state.stack, .value⟩
  | .colon _ _, _ => .error (refuse .expectedColon offset)
  | .delimiter value, token => ReadState.onDelimiter state.stack value offset token

/-- Reads all tokens.  The text must end right after one whole value. -/
def ReadState.run (state : ReadState) : List (Token × Nat) → Except Failure Value
  | [] => .error (refuse .expectedValue 0)
  | (token, offset) :: rest =>
    match state, token with
    | ⟨[], .delimiter value⟩, .finish => .ok value
    | state, token =>
      match state.step token offset with
      | .ok next => next.run rest
      | .error failure => .error failure

/-- The value of a JSON text. -/
def read (cs : List Char) : Except Failure Value :=
  if cs.head? = some '\ufeff' then .error (refuse .byteOrderMark 0)
  else ReadState.run ⟨[], .value⟩ (tokens cs)

end Json
end TypedRpc
