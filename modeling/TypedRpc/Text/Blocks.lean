/-!
# Blocks of text

Generated text is put together from lines, and from blocks with an empty line between them.
-/

namespace TypedRpc
namespace Text

/-- Lines joined by line feeds. -/
def joinLines (lines : List String) : String :=
  "\n".intercalate lines

/-- Blocks with an empty line between them. -/
def joinBlocks (blocks : List String) : String :=
  "\n\n".intercalate blocks

/-- The blocks that hold something, with an empty line between them. -/
def joinPresent (blocks : List String) : String :=
  joinBlocks (blocks.filter (!·.isEmpty))

/-- The items of a list with a comma between them. -/
def listing (items : List String) : String :=
  ", ".intercalate items

/-- Whether a list of characters begins with another one. -/
def startsWith : (head cs : List Char) → Bool
  | [], _ => true
  | _ :: _, [] => false
  | h :: head, c :: cs => h == c && startsWith head cs

/-- Whether a list of characters occurs inside another one. -/
def occursIn (part : List Char) : List Char → Bool
  | [] => part.isEmpty
  | c :: cs => startsWith part (c :: cs) || occursIn part cs

end Text
end TypedRpc
