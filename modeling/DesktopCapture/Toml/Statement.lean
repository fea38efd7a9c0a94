import DesktopCapture.Toml.Value

/-!
# Statements

A document is a sequence of statements, each on a line of its own: assignments,
headers of tables and headers of elements of arrays of tables.  Arrays and tables in
braces nest to a fixed depth, and the depth that is left is what the reader of
values recurses on.
-/

namespace DesktopCapture
namespace Toml

/-- A statement of a document. -/
inductive Statement
  | assignment (key : Key) (value : Value)
  | table (key : Key)
  | element (key : Key)

namespace Value

/-- The bound on the nesting of arrays and tables in braces. -/
def maxDepth : Nat := 79

/-- Reads a truth value. -/
def readBoolean : Reader Bool := fun text =>
  match Reader.word ['t', 'r', 'u', 'e'] text with
  | some ((), rest) => some (true, rest)
  | none =>
    (Reader.word ['f', 'a', 'l', 's', 'e'] text).map fun taken => (false, taken.2)

/-- Reads a value that does not nest. -/
def readScalar : Reader Value := fun text =>
  match Quoted.string text with
  | some (content, rest) => some (.string content, rest)
  | none =>
    match readBoolean text with
    | some (b, rest) => some (.boolean b, rest)
    | none =>
      match DateTime.read text with
      | some (time, rest) => some (.dateTime time, rest)
      | none =>
        match Number.float text with
        | some (x, rest) => some (.float x, rest)
        | none => (Number.integer text).map fun taken => (.integer taken.1, taken.2)

/-- Reads an array with a given reader of its items. -/
def readArray (item : Reader Value) : Reader (List Value) := fun text => do
  let ((), text) ← Reader.exactly '[' text
  let spaced : Reader Value := fun text =>
    (item (skipLines text)).map fun taken => (taken.1, skipLines taken.2)
  let (items, text) := Reader.optional (Reader.separated (Reader.exactly ',') spaced) text
  let (_, text) :=
    if items.isSome then Reader.optional (Reader.exactly ',') text else (none, text)
  let ((), text) ← Reader.exactly ']' (skipLines text)
  some (items.getD [], text)

/-- Reads a key, an equals sign and a value, with the blanks around the value. -/
def readAssignment (item : Reader Value) : Reader (Key × Value) := fun text => do
  let (key, text) ← Key.read text
  let ((), text) ← Reader.exactly '=' text
  let (value, text) ← item (skipBlanks text)
  some ((key, value), skipBlanks text)

/-- Reads a table in braces with a given reader of its values. -/
def readBraces (item : Reader Value) : Reader Value := fun text => do
  let ((), text) ← Reader.exactly '{' text
  let (assignments, text) :=
    Reader.optional (Reader.separated (Reader.exactly ',') (readAssignment item)) text
  let ((), text) ← Reader.exactly '}' (skipBlanks text)
  let table ← inBraces? (assignments.getD [])
  some (table, text)

/-- Reads a value in which arrays and tables in braces nest at most `depth` deep. -/
def readWithin : Nat → Reader Value
  | 0, text => readScalar text
  | depth + 1, text =>
    match readArray (readWithin depth) text with
    | some (items, rest) => some (.array items, rest)
    | none =>
      match readBraces (readWithin depth) text with
      | some taken => some taken
      | none => readScalar text

/-- Reads a value. -/
def read : Reader Value := readWithin maxDepth

end Value

namespace Statement

/-- Reads the header of a table. -/
def readTable : Reader Statement := fun text => do
  let ((), text) ← Reader.exactly '[' text
  let (key, text) ← Key.read text
  let ((), text) ← Reader.exactly ']' text
  some (.table key, text)

/-- Reads the header of an element of an array of tables. -/
def readElement : Reader Statement := fun text => do
  let ((), text) ← Reader.word ['[', '['] text
  let (key, text) ← Key.read text
  let ((), text) ← Reader.word [']', ']'] text
  some (.element key, text)

/-- Reads an assignment. -/
def readAssignment : Reader Statement := fun text =>
  (Value.readAssignment Value.read text).map fun taken =>
    (.assignment taken.1.1 taken.1.2, taken.2)

/-- Reads a statement with the rest of its line. -/
def read : Reader Statement := fun text => do
  let (statement, text) ← Reader.orElse readElement (Reader.orElse readTable readAssignment) text
  let ((), text) ← trailing text
  some (statement, text)

/-- Reads a line, which may be without a statement. -/
def readLine : Reader (Option Statement) := fun text =>
  match emptyLine text with
  | some ((), rest) => some (none, rest)
  | none => (read (skipBlanks text)).map fun taken => (some taken.1, taken.2)

/-- The text after a byte order mark. -/
def skipMark : List Char → List Char
  | c :: rest => if c = Char.ofNat 0xFEFF then rest else c :: rest
  | [] => []

/-- The statements of a document, if all of it can be read. -/
def ofText? (text : List Char) : Option (List Statement) :=
  let (lines, rest) := Reader.many readLine (skipMark text)
  (trailing rest).bind fun taken =>
    if taken.2.isEmpty then some (lines.filterMap id) else none

end Statement
end Toml
end DesktopCapture
