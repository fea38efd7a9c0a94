/-!
# The shortest decimal inside a rounding interval

A binary number is shown by the decimal with the fewest digits that still reads
back as the same number.  The module states this for any fraction together with
the interval of fractions that round to it: the decimal grids are searched from
coarse to fine, and the first grid with a point inside the interval wins.  Of two
points on that grid the nearer one is taken, and of two equally near ones the
upper one.
-/

namespace DesktopCapture

/-- A fraction `value / scale` with the ends `low / scale` and `high / scale` of
the interval that rounds to it; `closed` says whether the ends belong to it. -/
structure Neighbourhood where
  scale : Nat
  low : Nat
  value : Nat
  high : Nat
  closed : Bool

/-- A decimal `digits * 10 ^ exponent`. -/
structure Decimal where
  digits : Nat
  exponent : Int
deriving DecidableEq

namespace Neighbourhood

/-- The numerator and denominator of `10 ^ exponent`. -/
def gridUnit (exponent : Int) : Nat × Nat :=
  (Nat.pow 10 exponent.toNat, Nat.pow 10 (-exponent).toNat)

/-- Whether `digits * 10 ^ exponent` lies in the interval. -/
def covers (n : Neighbourhood) (exponent : Int) (digits : Nat) : Bool :=
  let (up, down) := gridUnit exponent
  let point := digits * up * n.scale
  if n.closed then n.low * down ≤ point && point ≤ n.high * down
  else n.low * down < point && point < n.high * down

/-- The grid point below the value, counted in units of the grid. -/
def floorOn (n : Neighbourhood) (exponent : Int) : Nat :=
  let (up, down) := gridUnit exponent
  n.value * down / (up * n.scale)

/-- Whether the value is strictly closer to `digits` than to `digits + 1`. -/
def nearerBelow (n : Neighbourhood) (exponent : Int) (digits : Nat) : Bool :=
  let (up, down) := gridUnit exponent
  2 * (n.value * down) < (2 * digits + 1) * (up * n.scale)

/-- The grid point that stands for the value, if the interval holds one of its
two neighbours on the grid. -/
def pointOn? (n : Neighbourhood) (exponent : Int) : Option Nat :=
  let below := n.floorOn exponent
  match n.covers exponent below, n.covers exponent (below + 1) with
  | true, true => some (if n.nearerBelow exponent below then below else below + 1)
  | true, false => some below
  | false, true => some (below + 1)
  | false, false => none

/-- The shortest decimal on the given grids, which run from coarse to fine. -/
def shortestOn? (n : Neighbourhood) : List Int → Option Decimal
  | [] => none
  | exponent :: finer =>
    match n.pointOn? exponent with
    | some digits => some ⟨digits, exponent⟩
    | none => n.shortestOn? finer

end Neighbourhood

namespace Decimal

/-- The decimal written without an exponent: zeros are added on either side as
needed, and a fraction has a zero before its point. -/
def positional (d : Decimal) : List Char :=
  let digits := Nat.toDigits 10 d.digits
  let places := (-d.exponent).toNat
  if places = 0 then digits ++ List.replicate d.exponent.toNat '0'
  else
    let padded := List.replicate (places + 1 - digits.length) '0' ++ digits
    let whole := padded.length - places
    padded.take whole ++ '.' :: padded.drop whole

end Decimal
end DesktopCapture
