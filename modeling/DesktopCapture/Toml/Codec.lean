import DesktopCapture.Config.Codec
import DesktopCapture.Toml.Document

/-!
# The codec of TOML documents

The codec that the tool runs with.  A text is read by the readers of this part of the
library, and a record is written with one line for each field that has a value.
-/

namespace DesktopCapture
namespace Toml

/-- A value as a field sees it. -/
def Value.datum : Value → Datum
  | .integer n => .scalar (.integer n)
  | .boolean b => .scalar (.flag b)
  | _ => .other

/-- The outermost keys of a document with their values. -/
def Entries.data (entries : Entries) : List (String × Datum) :=
  entries.map fun entry => (entry.1, entry.2.datum)

namespace Record

/-- An integer from zero up to but not including `bound`. -/
def natural? (bound : Nat) : Datum → Option Nat
  | .scalar (.integer n) => if 0 ≤ n ∧ n < bound then some n.toNat else none
  | _ => none

/-- A truth value. -/
def flag? : Datum → Option Bool
  | .scalar (.flag b) => some b
  | _ => none

/-- A field with a standard value: what its key says, or else the standard value. -/
def field? (document : List (String × Datum)) (key : String) (read : Datum → Option α)
    (standard : α) : Option α :=
  match document.lookup key with
  | some datum => read datum
  | none => some standard

/-- A value as written. -/
def valueText : Scalar → List Char
  | .integer n => if n < 0 then '-' :: Nat.toDigits 10 n.natAbs else Nat.toDigits 10 n.natAbs
  | .flag b => if b then "true".toList else "false".toList

/-- The line of a field; there is none for a missing value. -/
def line (field : String × Option Scalar) : List Char :=
  match field.2 with
  | some value => field.1.toList ++ [' ', '=', ' '] ++ valueText value ++ ['\n']
  | none => []

/-- The words for an integer that cannot be stored. -/
def outOfRange : String := "out-of-range value for u64 type"

/-- The lines of all fields in order. -/
def text (fields : List (String × Option Scalar)) : Except String (List Char) :=
  if fields.all fun field => field.2.all Scalar.isStorable then .ok (fields.flatMap line)
  else .error outOfRange

end Record

/-- The codec of TOML documents. -/
def codec : Codec where
  document? text := (Document.parse? text).map Entries.data
  text := Record.text
  word32? datum := (Record.natural? UInt32.size datum).map UInt32.ofNat
  word64? datum := (Record.natural? UInt64.size datum).map UInt64.ofNat
  flag? := Record.flag?
  optional? read datum := (read datum).map some
  field? := Record.field?

end Toml
end DesktopCapture
