import TypedRpc.Text.Utf8
import TypedRpc.Yaml.Failure

/-!
# Breakdowns

Most of what can go wrong is foreseen: it is found by a check and reported in words of its own.  A
breakdown is not.  It is met in the middle of some work, nothing reports it with the name of the
document it comes from, and it ends the whole run.
-/

namespace TypedRpc

/-- A failure that no check foresees. -/
inductive Breakdown where
  /-- A scalar that is written well and stands for nothing. -/
  | scalar (failure : Yaml.Failure)
  /-- A decimal integer that is too long to be read. -/
  | longInteger (digits : Nat)
  /-- An integer that is too long to be written. -/
  | unwritableInteger
  /-- A collection that stands inside too many others; JSON readers tell its form. -/
  | deepNesting (form : Option CollectionForm)
  /-- Keys of two kinds that have no order. -/
  | unorderedKeys (left right : String)
  /-- A key of some kind where only texts can be listed. -/
  | keyNotText (kind : String)
  /-- A bound that is no number. -/
  | bound
  /-- A bound that is infinite. -/
  | infiniteBound
  /-- A value of some kind that has no items. -/
  | noItems (kind : String)
  /-- A value of some kind that has no entries. -/
  | noEntries (kind : String)
  /-- A key of some kind that is no text. -/
  | keyWithoutText (kind : String)
  /-- A file whose bytes are no text. -/
  | undecodable (fault : Text.Utf8Fault)
  /-- A path with the character that no path may hold. -/
  | nullInPath
  /-- A path that is no text. -/
  | pathWithoutText
  deriving DecidableEq, Repr

/-- The wording of a breakdown. -/
def Breakdown.message : Breakdown → String
  | .scalar failure => failure.message
  | .longInteger digits => Number.integerTooLongMessage digits
  | .unwritableInteger => Number.digitLimitMessage ""
  | .deepNesting none => Yaml.recursionMessage
  | .deepNesting (some form) =>
    let kind := if form = .map then "object" else "array"
    Yaml.recursionMessage ++ " while decoding a JSON " ++ kind ++ " from a unicode string"
  | .unorderedKeys left right =>
    "'<' not supported between instances of '" ++ left ++ "' and '" ++ right ++ "'"
  | .keyNotText kind => "sequence item 0: expected str instance, " ++ kind ++ " found"
  | .bound => "cannot convert float NaN to integer"
  | .infiniteBound => "cannot convert float infinity to integer"
  | .noItems kind => "'" ++ kind ++ "' object is not iterable"
  | .noEntries kind => "'" ++ kind ++ "' object has no attribute 'items'"
  | .keyWithoutText kind => "'" ++ kind ++ "' object has no attribute 'replace'"
  | .undecodable fault => fault.message
  | .nullInPath => "embedded null byte"
  | .pathWithoutText => "expected str, bytes or os.PathLike object, not list"

/-- Why something has no result: a check refuses it, or there is a breakdown. -/
inductive Failure (φ : Type) where
  | refused (fault : φ)
  | broken (breakdown : Breakdown)
  deriving Repr

end TypedRpc
