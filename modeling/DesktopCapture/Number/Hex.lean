/-!
# Hexadecimal digits

Status codes of the platform are shown as words of a fixed number of upper-case
hexadecimal digits, most significant first.  Escapes in configuration texts are
read back from digits of either case.

The main statements are that a fixed-width rendering has exactly its width
(`length_fixed`) and that its value is the number modulo the span of that width
(`value_fixed`).
-/

namespace DesktopCapture
namespace Hex

/-- The upper-case hexadecimal digit of a number below sixteen. -/
def digit (n : Nat) : Char :=
  if n < 10 then Char.ofNat (48 + n) else Char.ofNat (55 + n)

/-- The number a hexadecimal digit of either case stands for. -/
def digitValue? (c : Char) : Option Nat :=
  if '0' ≤ c ∧ c ≤ '9' then some (c.toNat - 48)
  else if 'A' ≤ c ∧ c ≤ 'F' then some (c.toNat - 55)
  else if 'a' ≤ c ∧ c ≤ 'f' then some (c.toNat - 87)
  else none

/-- The last `width` hexadecimal digits of a number, most significant first. -/
def fixed : Nat → Nat → List Char
  | 0, _ => []
  | width + 1, n => fixed width (n / 16) ++ [digit (n % 16)]

/-- The number a string of hexadecimal digits stands for, read onto `acc`. -/
def value? (acc : Nat) : List Char → Option Nat
  | [] => some acc
  | c :: rest =>
    match digitValue? c with
    | some d => value? (16 * acc + d) rest
    | none => none

theorem length_fixed (width n : Nat) : (fixed width n).length = width := by
  induction width generalizing n with
  | zero => rfl
  | succ width ih => simp [fixed, ih]

theorem digitValue?_digit {n : Nat} (h : n < 16) : digitValue? (digit n) = some n := by
  have hall : ∀ m : Fin 16, digitValue? (digit m.val) = some m.val := by decide
  exact hall ⟨n, h⟩

/-- The digits of a rendering are decimal ones and upper-case letters. -/
theorem upper_of_mem_fixed {width n : Nat} {c : Char} (h : c ∈ fixed width n) :
    '0' ≤ c ∧ c ≤ '9' ∨ 'A' ≤ c ∧ c ≤ 'F' := by
  induction width generalizing n with
  | zero => simp [fixed] at h
  | succ width ih =>
    rcases List.mem_append.mp h with hfront | hlast
    · exact ih hfront
    · have hall : ∀ m : Fin 16, '0' ≤ digit m.val ∧ digit m.val ≤ '9' ∨
          'A' ≤ digit m.val ∧ digit m.val ≤ 'F' := by decide
      rw [List.mem_singleton.mp hlast]
      exact hall ⟨n % 16, Nat.mod_lt n (by decide)⟩

theorem value?_append (acc : Nat) (left right : List Char) :
    value? acc (left ++ right) = (value? acc left).bind (value? · right) := by
  induction left generalizing acc with
  | nil => rfl
  | cons c rest ih =>
    simp only [List.cons_append, value?]
    cases digitValue? c with
    | none => rfl
    | some d => exact ih _

/-- A fixed-width rendering reads back as the number modulo the span of the
width. -/
theorem value_fixed (acc width n : Nat) :
    value? acc (fixed width n) = some (acc * Nat.pow 16 width + n % Nat.pow 16 width) := by
  induction width generalizing n with
  | zero => simp [fixed, value?, Nat.pow, Nat.mod_one]
  | succ width ih =>
    have hlow : n % 16 < 16 := Nat.mod_lt _ (by decide)
    have hpower : Nat.pow 16 (width + 1) = 16 * Nat.pow 16 width := Nat.mul_comm _ _
    rw [fixed, value?_append, ih, hpower, Nat.mod_mul]
    simp only [Option.bind_some, value?, digitValue?_digit hlow]
    congr 1
    grind

end Hex
end DesktopCapture
