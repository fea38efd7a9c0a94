import DesktopCapture.Toml.Reader

/-!
# Blanks, line ends and comments

A blank is a space or a tab.  A line ends in a line feed, in a carriage return with
a line feed, or with the text; a carriage return alone is none of these.  A comment
runs from a number sign to the end of its line and may hold any character but
control characters other than the tab.
-/

namespace DesktopCapture
namespace Toml

/-- Spaces and tabs. -/
def isBlank (c : Char) : Bool := c = ' ' || c = '\t'

/-- Characters that may stand in comments and, but for delimiters, in strings: the
tab and everything that is not a control character of the ASCII range. -/
def isText (c : Char) : Bool := c = '\t' || (' ' ≤ c && c ≤ '~') || 0x80 ≤ c.toNat

/-- The text after its blanks. -/
def skipBlanks (text : List Char) : List Char := text.dropWhile isBlank

/-- Reads a line break. -/
def lineBreak : Reader Unit
  | '\n' :: rest => some ((), rest)
  | '\r' :: '\n' :: rest => some ((), rest)
  | _ => none

/-- Reads the end of a line, which may be the end of the text. -/
def lineEnd : Reader Unit
  | [] => some ((), [])
  | text => lineBreak text

/-- The text after a comment, if one stands in front. -/
def skipComment : List Char → List Char
  | '#' :: rest => rest.dropWhile isText
  | text => text

/-- Reads what may follow a statement on its line: blanks, a comment, the end. -/
def trailing : Reader Unit := fun text => lineEnd (skipComment (skipBlanks text))

/-- Reads blanks and a comment up to a line break. -/
def emptyLine : Reader Unit := fun text => lineBreak (skipComment (skipBlanks text))

/-- The text after blanks, line breaks and comments that end in one. -/
def skipLines (text : List Char) : List Char := skipBlanks (Reader.many emptyLine text).2

end Toml
end DesktopCapture
