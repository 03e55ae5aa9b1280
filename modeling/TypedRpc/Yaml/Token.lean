import TypedRpc.Yaml.Failure

/-!
# Tokens of YAML texts

What a YAML text consists of, once columns have been turned into brackets: the begin and end of
collections, the marks of keys, values and items, and scalars with the anchors, aliases and tags
around them.
-/

namespace TypedRpc
namespace Yaml

/-- A tag as it is written: a handle that a directive may declare, and a suffix. -/
structure TagToken where
  handle : Option String
  suffix : String
  deriving DecidableEq, Repr

/-- A directive. -/
inductive Directive where
  | version (major : Nat)
  | tag (handle tagPrefix : String)
  | other
  deriving DecidableEq, Repr

/-- A token of a YAML text. -/
inductive Token where
  | directive (value : Directive)
  | documentStart
  | documentEnd
  | blockSequenceStart
  | blockMappingStart
  | blockEnd
  | flowSequenceStart
  | flowSequenceEnd
  | flowMappingStart
  | flowMappingEnd
  | key
  | value
  | blockEntry
  | flowEntry
  | alias (name : String)
  | anchor (name : String)
  | tag (tag : TagToken)
  | scalar (text : String) (plain : Bool)
  deriving DecidableEq, Repr

end Yaml
end TypedRpc
