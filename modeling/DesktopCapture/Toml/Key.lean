import DesktopCapture.Toml.Quoted

/-!
# Keys

A key is bare, of letters, digits, underscores and hyphens, or a quoted string of
one line.  Keys joined by dots lead through tables; all but the last are the path.
A joined key has fewer than eighty parts.
-/

namespace DesktopCapture
namespace Toml

/-- A key joined by dots: the tables on the way and the name in the last of them. -/
structure Key where
  path : List String
  name : String
deriving DecidableEq

namespace Key

/-- A key of one part. -/
def single (name : String) : Key := ⟨[], name⟩

/-- The bound on the number of parts. -/
def maxParts : Nat := 79

/-- Letters, digits, underscores and hyphens. -/
def isBare (c : Char) : Bool := c.isAlphanum || c = '_' || c = '-'

/-- Reads a bare key. -/
def bare : Reader (List Char) := fun text =>
  let name := text.takeWhile isBare
  if name.isEmpty then none else some (name, text.drop name.length)

/-- Reads one part with the blanks around it. -/
def part : Reader String := fun text =>
  (Reader.orElse Quoted.short bare (skipBlanks text)).map fun taken =>
    (String.ofList taken.1, skipBlanks taken.2)

/-- The key of its parts. -/
def ofParts? : List String → Option Key
  | [] => none
  | [name] => some (single name)
  | head :: more => (ofParts? more).map fun key => { key with path := head :: key.path }

/-- Reads a key with the blanks around it. -/
def read : Reader Key := fun text =>
  (Reader.separated (Reader.exactly '.') part text).bind fun taken =>
    if taken.1.length ≤ maxParts then (ofParts? taken.1).map fun key => (key, taken.2) else none

end Key
end Toml
end DesktopCapture
