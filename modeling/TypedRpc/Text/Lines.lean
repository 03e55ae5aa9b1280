import TypedRpc.Text.CharClass

/-!
# Lines of a text

A text is cut at every character that ends a line, and a carriage return followed by a line feed
counts as one end.  The line after the last end is kept only when it holds something, so a text
that closes with a line end has no empty last line.

Indenting puts a margin before every line that holds something and joins the lines with line
feeds, whatever ended them before.
-/

namespace TypedRpc
namespace Text

/-- The lines of a text, without the characters that end them. -/
def splitLines : List Char → List (List Char)
  | [] => []
  | '\r' :: '\n' :: rest => [] :: splitLines rest
  | c :: rest =>
    if isLineEnd c then [] :: splitLines rest
    else
      match splitLines rest with
      | [] => [[c]]
      | line :: lines => (c :: line) :: lines

/-- A text with every line end that has a carriage return written as a line feed, which is how the
text of a file is read. -/
def unifyLineEnds : List Char → List Char
  | [] => []
  | '\r' :: '\n' :: rest => '\n' :: unifyLineEnds rest
  | '\r' :: rest => '\n' :: unifyLineEnds rest
  | c :: rest => c :: unifyLineEnds rest

/-- A line behind a margin; an empty line stays empty. -/
def indentLine (margin : List Char) : List Char → List Char
  | [] => []
  | line => margin ++ line

/-- Puts the margin before every line that holds something. -/
def indentChars (margin text : List Char) : List Char :=
  ['\n'].intercalate ((splitLines text).map (indentLine margin))

/-- The margin of one level of nesting. -/
def defaultMargin : String := "    "

/-- Indents a text by a margin. -/
def indentWith (margin text : String) : String :=
  String.ofList (indentChars margin.toList text.toList)

/-- Indents a text by one level of nesting. -/
def indent (text : String) : String :=
  indentWith defaultMargin text

end Text
end TypedRpc
