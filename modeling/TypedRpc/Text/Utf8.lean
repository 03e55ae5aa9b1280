import TypedRpc.Text.Quoted

/-!
# Texts in bytes

The bytes of a file are read as UTF-8.  A leading byte says how many bytes follow it; each of them
lies between `80` and `BF`, and the first one in a narrower range where the leading byte is `E0`,
`ED`, `F0` or `F4`: so no character has two forms, no half of a surrogate pair has any, and no code
point is too large.

Bytes that break the rule are reported with their place: a byte that leads nothing, a character that
is cut short by another byte, or one that is cut short by the end.
-/

namespace TypedRpc
namespace Text

/-- How bytes fail to be a text. -/
inductive Utf8Defect where
  /-- A byte that no character starts with. -/
  | start
  /-- A byte that does not go on with the character before it. -/
  | continuation
  /-- The end in the middle of a character. -/
  | truncated
  deriving DecidableEq, Repr

/-- The wording of a defect. -/
def Utf8Defect.message : Utf8Defect → String
  | .start => "invalid start byte"
  | .continuation => "invalid continuation byte"
  | .truncated => "unexpected end of data"

/-- Bytes that are no text: the first byte of the character that fails, its place, and how many
bytes of the character there are. -/
structure Utf8Fault where
  defect : Utf8Defect
  position : Nat
  first : UInt8
  length : Nat
  deriving DecidableEq, Repr

/-- The wording of a fault. -/
def Utf8Fault.message (fault : Utf8Fault) : String :=
  let place :=
    if fault.length ≤ 1 then
      "byte 0x" ++ String.ofList (hexDigits 2 fault.first.toNat) ++ " in position " ++
        toString fault.position
    else
      "bytes in position " ++ toString fault.position ++ "-" ++
        toString (fault.position + fault.length - 1)
  "'utf-8' codec can't decode " ++ place ++ ": " ++ fault.defect.message

/-- What a leading byte says: its share of the code point, how many bytes follow, and between which
bounds the first of them lies. -/
structure Utf8Lead where
  share : Nat
  following : Nat
  low : UInt8
  high : UInt8

/-- Reads a leading byte. -/
def utf8Lead? (byte : UInt8) : Option Utf8Lead :=
  if byte < 0x80 then some ⟨byte.toNat, 0, 0x80, 0xBF⟩
  else if byte < 0xC2 then none
  else if byte < 0xE0 then some ⟨byte.toNat - 0xC0, 1, 0x80, 0xBF⟩
  else if byte < 0xF0 then
    some ⟨byte.toNat - 0xE0, 2, if byte = 0xE0 then 0xA0 else 0x80,
      if byte = 0xED then 0x9F else 0xBF⟩
  else if byte < 0xF5 then
    some ⟨byte.toNat - 0xF0, 3, if byte = 0xF0 then 0x90 else 0x80,
      if byte = 0xF4 then 0x8F else 0xBF⟩
  else none

/-- What follows a leading byte. -/
inductive Utf8Tail where
  /-- The code point, and the bytes behind it. -/
  | complete (code : Nat) (rest : List UInt8)
  /-- A defect after some good bytes. -/
  | broken (defect : Utf8Defect) (good : Nat)

/-- Reads the bytes that follow a leading byte, of which some good ones are read already. -/
def utf8Tail (code good : Nat) (low high : UInt8) : Nat → List UInt8 → Utf8Tail
  | 0, rest => .complete code rest
  | _ + 1, [] => .broken .truncated good
  | n + 1, byte :: rest =>
    if low ≤ byte ∧ byte ≤ high then
      utf8Tail (code * 64 + (byte.toNat - 0x80)) (good + 1) 0x80 0xBF n rest
    else .broken .continuation good

/-- Reading the bytes that follow leaves no more bytes than there were. -/
theorem utf8Tail_length {code good n c : Nat} {low high : UInt8} {bytes rest : List UInt8}
    (h : utf8Tail code good low high n bytes = .complete c rest) : rest.length ≤ bytes.length := by
  induction n generalizing code good low high bytes with
  | zero => simp only [utf8Tail, Utf8Tail.complete.injEq] at h; simp [h.2]
  | succ n ih =>
    cases bytes with
    | nil => simp [utf8Tail] at h
    | cons byte bytes =>
      simp only [utf8Tail] at h
      split at h
      · have := ih h
        simp only [List.length_cons]; omega
      · simp at h

/-- Reads bytes from a place on, behind the characters that are read already. -/
def decodeFrom (position : Nat) (reversed : List Char) (bytes : List UInt8) :
    Except Utf8Fault (List Char) :=
  match bytes with
  | [] => .ok reversed.reverse
  | byte :: rest =>
    match utf8Lead? byte with
    | none => .error ⟨.start, position, byte, 1⟩
    | some lead =>
      match h : utf8Tail lead.share 0 lead.low lead.high lead.following rest with
      | .broken defect good => .error ⟨defect, position, byte, good + 1⟩
      | .complete code after =>
        have := utf8Tail_length h
        decodeFrom (position + 1 + lead.following) (Char.ofNat code :: reversed) after
termination_by bytes.length

/-- The text in some bytes. -/
def decode (bytes : List UInt8) : Except Utf8Fault (List Char) :=
  decodeFrom 0 [] bytes

/-- The bytes of a text. -/
def encode (text : String) : List UInt8 :=
  text.toUTF8.toList

end Text
end TypedRpc
