import StyleRules.Text.Search
import StyleRules.Xml.Node

/-!
# Writing XML

Markup characters are escaped, in attribute values also quotes and the white space that readers would
change.  An element without content is closed in its own tag.
-/

namespace StyleRules.Xml

def escapeTextChar (c : Char) : List Char :=
  if c = '&' then "&amp;".toList
  else if c = '<' then "&lt;".toList
  else if c = '>' then "&gt;".toList
  else [c]

def escapeAttributeChar (c : Char) : List Char :=
  if c = '"' then "&quot;".toList
  else if c = '\r' then "&#13;".toList
  else if c = '\n' then "&#10;".toList
  else if c = '\t' then "&#09;".toList
  else escapeTextChar c

/-- A text in which markup characters are escaped. -/
def escapeText (s : String) : List Char := s.toList.flatMap escapeTextChar

/-- An attribute value in which markup characters, quotes and line ends are escaped. -/
def escapeAttribute (s : String) : List Char := s.toList.flatMap escapeAttributeChar

/-- The attributes of a start tag, each with a space in front. -/
def writeAttributes : List (Name × String) → List Char
  | [] => []
  | (name, value) :: rest =>
    ' ' :: name.label.toList ++ "=\"".toList ++ escapeAttribute value ++ ['"'] ++ writeAttributes rest

mutual

/-- A node as text. -/
def Node.chars : Node → List Char
  | .text s => escapeText s
  | .element name attributes content =>
    let opening := '<' :: name.label.toList ++ writeAttributes attributes
    if content.isEmpty then opening ++ " />".toList
    else opening ++ ['>'] ++ Node.contentChars content ++ "</".toList ++ name.label.toList ++ ['>']

/-- The nodes inside an element as text. -/
def Node.contentChars : List Node → List Char
  | [] => []
  | node :: rest => node.chars ++ Node.contentChars rest

end

def Node.write (node : Node) : String := String.ofList node.chars

end StyleRules.Xml
