/-!
# UTF-8

Octets are decoded one by one.  The decoder yields the characters in order and,
in the place of each longest ill-formed part, a gap; a sequence is valid exactly
when there is no gap.  Two readings follow: the strict one (`decode?`), which
refuses a sequence with a gap, and the lenient one (`decodeLossy`), which shows a
replacement character for each gap.
-/

namespace DesktopCapture
namespace Utf8

/-- A character under way: how many octets it still needs, the range of the next
one, and the bits read so far. -/
structure Pending where
  owed : Nat
  low : UInt8
  high : UInt8
  bits : Nat

/-- The effect of an octet between characters: a character of its own, the first
octet of a longer one, or none of these. -/
inductive Lead
  | ascii (c : Char)
  | opens (pending : Pending)
  | illFormed

/-- What an octet between characters begins.  The ranges of the second octet
leave out overlong forms, surrogates and numbers past the last code point. -/
def lead (octet : UInt8) : Lead :=
  let n := octet.toNat
  if n < 0x80 then .ascii (Char.ofNat n)
  else if n < 0xC2 then .illFormed
  else if n < 0xE0 then .opens ⟨1, 0x80, 0xBF, n - 0xC0⟩
  else if n = 0xE0 then .opens ⟨2, 0xA0, 0xBF, 0⟩
  else if n = 0xED then .opens ⟨2, 0x80, 0x9F, 0xD⟩
  else if n < 0xF0 then .opens ⟨2, 0x80, 0xBF, n - 0xE0⟩
  else if n = 0xF0 then .opens ⟨3, 0x90, 0xBF, 0⟩
  else if n < 0xF4 then .opens ⟨3, 0x80, 0xBF, n - 0xF0⟩
  else if n = 0xF4 then .opens ⟨3, 0x80, 0x8F, 4⟩
  else .illFormed

/-- The next octet of a character under way: the character, or what is still
under way, or nothing if the octet does not continue it. -/
def Pending.continue? (pending : Pending) (octet : UInt8) : Option (Char ⊕ Pending) :=
  if pending.low ≤ octet ∧ octet ≤ pending.high then
    let bits := 64 * pending.bits + octet.toNat % 64
    if pending.owed ≤ 1 then some (.inl (Char.ofNat bits))
    else some (.inr ⟨pending.owed - 1, 0x80, 0xBF, bits⟩)
  else none

/-- One octet between characters: what it shows at once and what it opens. -/
def start (octet : UInt8) : List (Option Char) × Option Pending :=
  match lead octet with
  | .ascii c => ([some c], none)
  | .opens pending => ([], some pending)
  | .illFormed => ([none], none)

/-- One octet in any position.  An octet that does not continue the character
under way leaves a gap for it and is read afresh. -/
def advance (under : Option Pending) (octet : UInt8) :
    List (Option Char) × Option Pending :=
  match under with
  | none => start octet
  | some pending =>
    match pending.continue? octet with
    | some (.inl c) => ([some c], none)
    | some (.inr pending) => ([], some pending)
    | none => (none :: (start octet).1, (start octet).2)

/-- The characters and gaps of a sequence; a character left under way at the end
is a gap. -/
def decodeFrom (under : Option Pending) : List UInt8 → List (Option Char)
  | [] => if under.isSome then [none] else []
  | octet :: rest =>
    let (shown, under) := advance under octet
    shown ++ decodeFrom under rest

/-- The characters and gaps of a sequence of octets. -/
def decode (octets : List UInt8) : List (Option Char) := decodeFrom none octets

/-- The text of a sequence without gaps. -/
def decode? (octets : List UInt8) : Option (List Char) :=
  if (decode octets).all Option.isSome then some ((decode octets).filterMap id) else none

/-- The text of a sequence with a replacement character for each gap. -/
def decodeLossy (octets : List UInt8) : List Char :=
  (decode octets).map fun shown => shown.getD (Char.ofNat 0xFFFD)

/-- The octets of a text. -/
def encode (text : List Char) : List UInt8 := text.flatMap String.utf8EncodeChar

end Utf8
end DesktopCapture
