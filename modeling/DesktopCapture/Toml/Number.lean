import DesktopCapture.Number.Hex
import DesktopCapture.Toml.Lexeme

/-!
# Numbers

Digits may be parted by single underscores.  An integer is decimal, with an
optional sign and without leading zeros, or hexadecimal, octal or binary behind a
lower-case mark and without a sign; it must fit 64 bits with sign.  A decimal
integer becomes a float with a fraction or an exponent.  A float past the largest
finite one is refused when it is positive; a negative one stands for negative
infinity.
-/

namespace DesktopCapture
namespace Toml

/-- A floating-point number as written: a significand of decimal digits times a
power of ten, or one of the special values. -/
inductive FloatLiteral
  | finite (negative : Bool) (significand : Nat) (exponent : Int)
  | infinite (negative : Bool)
  | notANumber (negative : Bool)
deriving DecidableEq

namespace Number

/-- Whether a character is a digit of a base of at most sixteen. -/
def isDigitOf (base : Nat) (c : Char) : Bool := (Hex.digitValue? c).any (· < base)

/-- The number that digits of a base stand for. -/
def valueOf (base : Nat) (digits : List Char) : Nat :=
  digits.foldl (fun value c => base * value + (Hex.digitValue? c).getD 0) 0

/-- The digits in front of a text, each with an underscore before it or not, and
the rest. -/
def furtherDigits (base : Nat) : List Char → List Char × List Char
  | '_' :: c :: rest =>
    if isDigitOf base c then
      let (more, last) := furtherDigits base rest
      (c :: more, last)
    else ([], '_' :: c :: rest)
  | c :: rest =>
    if isDigitOf base c then
      let (more, last) := furtherDigits base rest
      (c :: more, last)
    else ([], c :: rest)
  | [] => ([], [])

/-- Reads one or more digits of a base, parted by single underscores. -/
def digits (base : Nat) : Reader (List Char)
  | c :: rest =>
    if isDigitOf base c then
      let (more, last) := furtherDigits base rest
      some (c :: more, last)
    else none
  | [] => none

/-- Reads decimal digits without a leading zero. -/
def plainDigits : Reader (List Char)
  | '0' :: rest => some (['0'], rest)
  | text => digits 10 text

/-- Reads a sign, if there is one, and tells whether it is a minus. -/
def sign : List Char → Bool × List Char
  | '-' :: rest => (true, rest)
  | '+' :: rest => (false, rest)
  | text => (false, text)

/-- A magnitude with its sign. -/
def signed (negative : Bool) (magnitude : Nat) : Int :=
  if negative then -(magnitude : Int) else magnitude

/-- The integers that fit 64 bits with sign. -/
def inRange (n : Int) : Bool :=
  -0x8000000000000000 ≤ n && n < 0x8000000000000000

/-- Reads the digits behind the mark of a base. -/
def marked (base : Nat) : Reader Int := fun text =>
  (digits base text).map fun taken => (valueOf base taken.1, taken.2)

/-- Reads a decimal integer with its sign. -/
def decimalInteger : Reader Int := fun text =>
  let (negative, text) := sign text
  (plainDigits text).map fun taken => (signed negative (valueOf 10 taken.1), taken.2)

/-- Reads an integer of any size in one of the notations. -/
def unboundedInteger : Reader Int
  | '0' :: 'x' :: rest => marked 16 rest
  | '0' :: 'o' :: rest => marked 8 rest
  | '0' :: 'b' :: rest => marked 2 rest
  | text => decimalInteger text

/-- Reads an integer that fits 64 bits with sign. -/
def integer : Reader Int := fun text =>
  (unboundedInteger text).bind fun taken => if inRange taken.1 then some taken else none

/-- Reads a point and the digits after it. -/
def fraction : Reader (List Char)
  | '.' :: rest => digits 10 rest
  | _ => none

/-- Reads a power of ten. -/
def exponent : Reader Int
  | c :: rest =>
    if c = 'e' ∨ c = 'E' then
      let (negative, rest) := sign rest
      (digits 10 rest).map fun taken => (signed negative (valueOf 10 taken.1), taken.2)
    else none
  | [] => none

/-- Reads a fraction, a power of ten or both, as the digits of the one and the
power. -/
def scale : Reader (List Char × Int) := fun text =>
  match fraction text with
  | some (places, rest) =>
    let (power, rest) := Reader.optional exponent rest
    some ((places, power.getD 0), rest)
  | none => (exponent text).map fun taken => (([], taken.1), taken.2)

/-- The least magnitude that rounds to infinity in 64 bits: halfway from the
largest finite number to the next power of two. -/
def infinityBound : Nat := Nat.pow 2 1024 - Nat.pow 2 970

/-- Whether `significand` times a power of ten rounds to infinity.  Unless the
number of places in front of the point is 309, that number decides. -/
def roundsToInfinity (significand : Nat) (exponent : Int) : Bool :=
  if significand = 0 then false
  else
    let places : Int := (Nat.toDigits 10 significand).length + exponent
    if places < 309 then false
    else if 309 < places then true
    else
      infinityBound * Nat.pow 10 (-exponent).toNat ≤ significand * Nat.pow 10 exponent.toNat

/-- Reads a float with a fraction or a power of ten. -/
def finite : Reader FloatLiteral := fun text => do
  let (negative, text) := sign text
  let (whole, text) ← plainDigits text
  let ((places, power), text) ← scale text
  let significand := valueOf 10 (whole ++ places)
  let exponent := power - places.length
  if !negative && roundsToInfinity significand exponent then none
  else some (.finite negative significand exponent, text)

/-- Reads a special value with an optional sign. -/
def special : Reader FloatLiteral := fun text =>
  let (negative, text) := sign text
  match Reader.word ['i', 'n', 'f'] text with
  | some ((), rest) => some (.infinite negative, rest)
  | none => (Reader.word ['n', 'a', 'n'] text).map fun taken => (.notANumber negative, taken.2)

/-- Reads a float. -/
def float : Reader FloatLiteral := Reader.orElse finite special

end Number
end Toml
end DesktopCapture
