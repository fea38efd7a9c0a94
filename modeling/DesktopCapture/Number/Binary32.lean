import DesktopCapture.Number.Shortest

/-!
# Single precision numbers as words

White levels and clear colours pass through the library without being computed
with, so a single precision number is kept as its word: payloads of NaNs and the
sign of zero survive.  The one thing done with the word is to show it, by the
fewest decimal digits that read back and never with an exponent.
-/

namespace DesktopCapture

/-- The word of an IEEE 754 single precision number. -/
structure Binary32 where
  bits : UInt32
deriving DecidableEq

namespace Binary32

/-- Positive zero. -/
def zero : Binary32 := ⟨0⟩

/-- Eighty, the white level of a monitor without high dynamic range. -/
def eighty : Binary32 := ⟨0x42A00000⟩

/-- Whether the sign bit is set. -/
def isNegative (x : Binary32) : Bool := x.bits.toNat / 0x80000000 = 1

/-- The eight exponent bits. -/
def exponentField (x : Binary32) : Nat := x.bits.toNat / 0x800000 % 0x100

/-- The twenty-three fraction bits. -/
def fraction (x : Binary32) : Nat := x.bits.toNat % 0x800000

/-- The magnitude with the interval that rounds to it, in units of `2 ^ -151`, a
quarter of the least subnormal.  The gap below a power of two is half the gap
above it, and the ends round to the magnitude when its significand is even. -/
def neighbourhood (x : Binary32) : Neighbourhood :=
  let field := x.exponentField
  let significand := if field = 0 then x.fraction else 0x800000 + x.fraction
  let unit := Nat.pow 2 (field - 1)
  let value := 4 * significand * unit
  let below := if x.fraction = 0 ∧ 1 < field then unit else 2 * unit
  { scale := Nat.pow 2 151, low := value - below, value, high := value + 2 * unit
    closed := significand % 2 = 0 }

/-- The decimal grids from the coarsest that can hold a single precision number
to one on which the least of them has nine digits. -/
def grids : List Int := (List.range 93).map fun (n : Nat) => 38 - (n : Int)

/-- The text of the magnitude of a finite number. -/
def magnitudeText (x : Binary32) : List Char :=
  if x.exponentField = 0 ∧ x.fraction = 0 then ['0']
  else
    match x.neighbourhood.shortestOn? grids with
    | some d => d.positional
    | none => ['0']

/-- The text of a number: `NaN` without a sign, otherwise the sign and the
magnitude. -/
def text (x : Binary32) : String :=
  if x.exponentField = 255 ∧ x.fraction ≠ 0 then "NaN"
  else
    let magnitude :=
      if x.exponentField = 255 then ['i', 'n', 'f'] else x.magnitudeText
    String.ofList (if x.isNegative then '-' :: magnitude else magnitude)

end Binary32
end DesktopCapture
