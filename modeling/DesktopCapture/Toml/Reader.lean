/-!
# Readers

A reader takes a thing off the front of a text and leaves the rest, or finds that
no such thing stands there.  Repetition needs no measure of its own: a text is
exhausted after as many characters as it has, so the text itself bounds the number
of rounds.

The main statement is `many_eq`: where every round takes something off the text,
the bound is never felt and repetition satisfies its unfolding equation.
-/

namespace DesktopCapture
namespace Toml

/-- Reads a thing off the front of a text. -/
abbrev Reader (α : Type) := List Char → Option (α × List Char)

namespace Reader

variable {α β : Type}

/-- Reads one given character. -/
def exactly (c : Char) : Reader Unit
  | [] => none
  | head :: rest => if head = c then some ((), rest) else none

/-- Reads a given word. -/
def word : List Char → Reader Unit
  | [], text => some ((), text)
  | c :: more, text => (exactly c text).bind fun taken => word more taken.2

/-- Reads one character of a class. -/
def charOf (isMember : Char → Bool) : Reader Char
  | [] => none
  | head :: rest => if isMember head then some (head, rest) else none

/-- Reads what one reader finds, or else what another does. -/
def orElse (first second : Reader α) : Reader α := fun text =>
  match first text with
  | some taken => some taken
  | none => second text

/-- Reads a thing that may be absent. -/
def optional (read : Reader α) (text : List Char) : Option α × List Char :=
  match read text with
  | some (a, rest) => (some a, rest)
  | none => (none, text)

/-- Reads things one after the other, in at most as many rounds as `bound` has
characters. -/
def manyWithin (read : Reader α) : List Char → List Char → List α × List Char
  | [], text => ([], text)
  | _ :: bound, text =>
    match read text with
    | some (a, rest) =>
      let (more, last) := manyWithin read bound rest
      (a :: more, last)
    | none => ([], text)

/-- Reads things one after the other for as long as there are any. -/
def many (read : Reader α) (text : List Char) : List α × List Char :=
  manyWithin read text text

/-- Reads one or more things with a separator between each two. -/
def separated (separator : Reader Unit) (read : Reader α) : Reader (List α) := fun text =>
  match read text with
  | some (first, rest) =>
    let further : Reader α := fun text => (separator text).bind fun taken => read taken.2
    let (more, last) := many further rest
    some (first :: more, last)
  | none => none

/-- Every success takes something off the text. -/
def Consumes (read : Reader α) : Prop :=
  ∀ text a rest, read text = some (a, rest) → rest.length < text.length

theorem manyWithin_congr {read : Reader α} (hconsumes : Consumes read)
    {left right text : List Char} (hleft : text.length ≤ left.length)
    (hright : text.length ≤ right.length) :
    manyWithin read left text = manyWithin read right text := by
  induction left generalizing right text with
  | nil =>
    have hempty : text = [] := List.eq_nil_of_length_eq_zero (Nat.le_zero.mp hleft)
    subst hempty
    cases right with
    | nil => rfl
    | cons c right =>
      have hstuck : read [] = none := by
        cases hfound : read [] with
        | none => rfl
        | some taken => exact absurd (hconsumes [] taken.1 taken.2 hfound) (Nat.not_lt_zero _)
      simp [manyWithin, hstuck]
  | cons c left ih =>
    cases right with
    | nil =>
      have hempty : text = [] := List.eq_nil_of_length_eq_zero (Nat.le_zero.mp hright)
      subst hempty
      have hstuck : read [] = none := by
        cases hfound : read [] with
        | none => rfl
        | some taken => exact absurd (hconsumes [] taken.1 taken.2 hfound) (Nat.not_lt_zero _)
      simp [manyWithin, hstuck]
    | cons d right =>
      simp only [manyWithin]
      cases hfound : read text with
      | none => rfl
      | some taken =>
        obtain ⟨a, rest⟩ := taken
        have hshorter := hconsumes text a rest hfound
        simp only [List.length_cons] at hleft hright
        simp only [ih (by omega : rest.length ≤ left.length)
          (by omega : rest.length ≤ right.length)]

/-- Repetition reads a thing and goes on with the rest. -/
theorem many_eq {read : Reader α} (hconsumes : Consumes read) (text : List Char) :
    many read text =
      match read text with
      | some (a, rest) => (a :: (many read rest).1, (many read rest).2)
      | none => ([], text) := by
  cases text with
  | nil =>
    cases hfound : read [] with
    | none => rfl
    | some taken => exact absurd (hconsumes [] taken.1 taken.2 hfound) (Nat.not_lt_zero _)
  | cons c text =>
    rw [many, manyWithin]
    cases hfound : read (c :: text) with
    | none => rfl
    | some taken =>
      obtain ⟨a, rest⟩ := taken
      have hshorter := hconsumes _ a rest hfound
      simp only [List.length_cons] at hshorter
      have hsame := manyWithin_congr hconsumes (by omega : rest.length ≤ text.length)
        (Nat.le_refl rest.length)
      simp only [hsame, many]

end Reader
end Toml
end DesktopCapture
