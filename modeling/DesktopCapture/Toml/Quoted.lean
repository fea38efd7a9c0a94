import DesktopCapture.Number.Hex
import DesktopCapture.Toml.Lexeme

/-!
# Quoted strings

A string is basic, with double quotes and escapes, or literal, with single quotes
and none.  Either kind may be tripled to run over several lines.  In a tripled
string the line break after the opening is dropped, and one or two quotes may stand
anywhere, also right before the closing three.
-/

namespace DesktopCapture
namespace Toml
namespace Quoted

/-- The character that a one-letter escape stands for. -/
def escaped? : Char → Option Char
  | 'b' => some (Char.ofNat 0x08)
  | 't' => some '\t'
  | 'n' => some '\n'
  | 'f' => some (Char.ofNat 0x0C)
  | 'r' => some '\r'
  | '"' => some '"'
  | '\\' => some '\\'
  | _ => none

/-- The character of a code, which must be a scalar value. -/
def scalar? (code : Nat) : Option Char :=
  if code.isValidChar then some (Char.ofNat code) else none

/-- Reads a code of exactly `width` hexadecimal digits. -/
def code (width : Nat) : Reader Char := fun text =>
  if (text.take width).length = width then
    ((Hex.value? 0 (text.take width)).bind scalar?).map fun c => (c, text.drop width)
  else none

/-- Reads an escape without its backslash. -/
def escape : Reader Char
  | 'u' :: rest => code 4 rest
  | 'U' :: rest => code 8 rest
  | c :: rest => (escaped? c).map fun c => (c, rest)
  | [] => none

/-- Reads one character of a basic string, escaped or not. -/
def basicChar : Reader Char
  | '\\' :: rest => escape rest
  | c :: rest => if isText c && c != '"' then some (c, rest) else none
  | [] => none

/-- Reads one character of a literal string. -/
def literalChar : Reader Char := Reader.charOf fun c => isText c && c != '\''

/-- Reads a string that keeps to one line. -/
def line (quote : Char) (char : Reader Char) : Reader (List Char) := fun text => do
  let ((), text) ← Reader.exactly quote text
  let (content, text) := Reader.many char text
  let ((), text) ← Reader.exactly quote text
  some (content, text)

/-- The text after blanks and line breaks. -/
def skipBreaks (text : List Char) : List Char :=
  let step : Reader Unit := fun text => lineBreak (skipBlanks text)
  skipBlanks (Reader.many step text).2

/-- Reads a backslash at the end of a line with all blanks and breaks after it. -/
def continuation : Reader Unit
  | '\\' :: rest => (lineBreak (skipBlanks rest)).map fun taken => ((), skipBreaks taken.2)
  | _ => none

/-- Reads a piece of a tripled basic string other than quotes. -/
def basicPiece : Reader (List Char) := fun text =>
  match continuation text with
  | some ((), rest) => some ([], rest)
  | none =>
    match basicChar text with
    | some (c, rest) => some ([c], rest)
    | none => (lineBreak text).map fun taken => (['\n'], taken.2)

/-- Reads a piece of a tripled literal string other than quotes. -/
def literalPiece : Reader (List Char) := fun text =>
  match literalChar text with
  | some (c, rest) => some ([c], rest)
  | none => (lineBreak text).map fun taken => (['\n'], taken.2)

/-- Reads one or two quotes with a piece after them: quotes inside a tripled
string. -/
def innerQuotes (quote : Char) (piece : Reader (List Char)) : Reader (List Char) := fun text =>
  let run := text.takeWhile (· == quote)
  if run.length = 1 ∨ run.length = 2 then
    (piece (text.drop run.length)).map fun taken => (run ++ taken.1, taken.2)
  else none

/-- Reads the closing of a tripled string with up to two quotes of its content in
front. -/
def closing (quote : Char) : Reader (List Char) := fun text =>
  let run := (text.takeWhile (· == quote)).length
  if 3 ≤ run then
    let inner := min 2 (run - 3)
    some (text.take inner, text.drop (inner + 3))
  else none

/-- Reads a tripled string. -/
def block (quote : Char) (piece : Reader (List Char)) : Reader (List Char) := fun text => do
  let ((), text) ← Reader.word [quote, quote, quote] text
  let (_, text) := Reader.optional lineBreak text
  let (content, text) := Reader.many (Reader.orElse piece (innerQuotes quote piece)) text
  let (last, text) ← closing quote text
  some (content.flatten ++ last, text)

/-- Reads a string of one line. -/
def short : Reader (List Char) :=
  Reader.orElse (line '"' basicChar) (line '\'' literalChar)

/-- Reads a tripled string. -/
def long : Reader (List Char) :=
  Reader.orElse (block '"' basicPiece) (block '\'' literalPiece)

/-- Reads a string of any kind. -/
def string : Reader (List Char) := Reader.orElse long short

end Quoted
end Toml
end DesktopCapture
