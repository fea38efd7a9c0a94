import DesktopCapture.Toml.Document
import Mathlib.Data.List.Basic

/-!
# Readers make progress

What a reader leaves is never longer than what it was given, and whatever takes a
line, a key with its value or a digit leaves less.  The lemmas follow the readers
from characters to statements; those about one reader are stated of a single success,
so that the ones above them can be found from the equations of a run.

The last of them, `Statement.readLine_consumes`, is what repetition needs: the lines
of a document are read until there are no more, however many there are.
-/

namespace DesktopCapture
namespace Toml

namespace Reader

variable {α : Type} {text rest : List Char}

/-- No success adds to the text. -/
def Shrinks (read : Reader α) : Prop :=
  ∀ text a rest, read text = some (a, rest) → rest.length ≤ text.length

theorem Consumes.shrinks {read : Reader α} (hconsumes : Consumes read) : Shrinks read :=
  fun text a rest hfound => Nat.le_of_lt (hconsumes text a rest hfound)

@[grind →]
theorem exactly_consumes {c : Char} {u : Unit} (hfound : exactly c text = some (u, rest)) :
    rest.length < text.length := by
  cases text <;> grind [exactly]

@[grind →]
theorem charOf_consumes {isMember : Char → Bool} {c : Char}
    (hfound : charOf isMember text = some (c, rest)) : rest.length < text.length := by
  cases text <;> grind [charOf]

@[grind →]
theorem word_shrinks {letters : List Char} {u : Unit}
    (hfound : word letters text = some (u, rest)) :
    rest.length ≤ text.length := by
  induction letters generalizing text with
  | nil => grind [word]
  | cons c letters ih =>
    simp only [word, Option.bind_eq_some_iff] at hfound
    grind

theorem exactly_shrinks (c : Char) : Shrinks (exactly c) :=
  Consumes.shrinks fun _ _ _ hfound => exactly_consumes hfound

theorem Shrinks.orElse {first second : Reader α} (hshrinks : Shrinks first)
    (hshrinks' : Shrinks second) : Shrinks (orElse first second) := by
  grind [Reader.orElse, Shrinks]

/-- One reader and then another on what it leaves. -/
theorem Shrinks.followed {β : Type} {first : Reader α} {second : Reader β}
    (hshrinks : Shrinks first) (hshrinks' : Shrinks second) :
    Shrinks fun text => (first text).bind fun taken => second taken.2 := by
  intro text b rest hfound
  obtain ⟨taken, hfound, hlater⟩ := Option.bind_eq_some_iff.mp hfound
  exact Nat.le_trans (hshrinks' taken.2 b rest hlater) (hshrinks text taken.1 taken.2 hfound)

theorem optional_length {read : Reader α} (hshrinks : Shrinks read) (text : List Char) :
    (optional read text).2.length ≤ text.length := by
  grind [optional, Shrinks]

theorem manyWithin_length {read : Reader α} (hshrinks : Shrinks read) (bound text : List Char) :
    (manyWithin read bound text).2.length ≤ text.length := by
  induction bound generalizing text with
  | nil => exact Nat.le_refl _
  | cons c bound ih => grind [manyWithin, Shrinks]

theorem many_length {read : Reader α} (hshrinks : Shrinks read) (text : List Char) :
    (many read text).2.length ≤ text.length :=
  manyWithin_length hshrinks text text

theorem Shrinks.separated {separator : Reader Unit} {read : Reader α}
    (hshrinks : Shrinks separator) (hshrinks' : Shrinks read) :
    Shrinks (separated separator read) := by
  have hfurther := many_length (hshrinks.followed hshrinks')
  intro text as rest hfound
  grind [Reader.separated, Shrinks]

end Reader

open Reader (Shrinks)

section Lexemes

variable {text rest : List Char} {u : Unit}

theorem skipBlanks_length (text : List Char) : (skipBlanks text).length ≤ text.length :=
  (List.dropWhile_suffix isBlank).length_le

grind_pattern skipBlanks_length => skipBlanks text

theorem skipComment_length (text : List Char) : (skipComment text).length ≤ text.length := by
  fun_cases skipComment text with
  | case1 rest => exact Nat.le_succ_of_le (List.dropWhile_suffix isText).length_le
  | case2 => exact Nat.le_refl _

grind_pattern skipComment_length => skipComment text

@[grind →]
theorem lineBreak_consumes (hfound : lineBreak text = some (u, rest)) :
    rest.length < text.length := by
  fun_cases lineBreak text <;> grind [lineBreak]

@[grind →]
theorem trailing_shrinks (hfound : trailing text = some (u, rest)) :
    rest.length ≤ text.length := by
  unfold trailing at hfound
  fun_cases lineEnd (skipComment (skipBlanks text)) <;> grind [lineEnd]

@[grind →]
theorem emptyLine_consumes (hfound : emptyLine text = some (u, rest)) :
    rest.length < text.length := by
  grind [emptyLine]

theorem skipLines_length (text : List Char) : (skipLines text).length ≤ text.length := by
  have hshrinks : Shrinks emptyLine := by grind [Shrinks]
  have hlines := Reader.many_length hshrinks text
  grind [skipLines]

end Lexemes

namespace Number

variable {text rest : List Char}

theorem furtherDigits_length (base : Nat) (text : List Char) :
    (furtherDigits base text).2.length ≤ text.length := by
  fun_induction furtherDigits base text <;> grind

@[grind →]
theorem digits_consumes {base : Nat} {ds : List Char}
    (hfound : digits base text = some (ds, rest)) :
    rest.length < text.length := by
  cases text <;> grind [digits, furtherDigits_length]

@[grind →]
theorem plainDigits_consumes {ds : List Char} (hfound : plainDigits text = some (ds, rest)) :
    rest.length < text.length := by
  fun_cases plainDigits text <;> grind [plainDigits]

theorem sign_length (text : List Char) : (sign text).2.length ≤ text.length := by
  fun_cases sign text <;> grind

grind_pattern sign_length => sign text

@[grind →]
theorem unboundedInteger_consumes {n : Int} (hfound : unboundedInteger text = some (n, rest)) :
    rest.length < text.length := by
  fun_cases unboundedInteger text <;>
    grind [unboundedInteger, marked, decimalInteger, Option.map_eq_some_iff]

@[grind →]
theorem integer_consumes {n : Int} (hfound : integer text = some (n, rest)) :
    rest.length < text.length := by
  simp only [integer, Option.bind_eq_some_iff] at hfound
  grind

@[grind →]
theorem exponent_consumes {n : Int} (hfound : exponent text = some (n, rest)) :
    rest.length < text.length := by
  cases text <;> grind [exponent, Option.map_eq_some_iff]

@[grind →]
theorem scale_shrinks {parts : List Char × Int} (hfound : scale text = some (parts, rest)) :
    rest.length ≤ text.length := by
  have hshrinks : Shrinks exponent := by grind [Shrinks]
  have hpower := Reader.optional_length hshrinks
  fun_cases fraction text <;> grind [scale, fraction, Option.map_eq_some_iff]

theorem float_shrinks : Shrinks float := by
  apply Shrinks.orElse
  · intro text literal rest hfound
    simp only [finite, Option.bind_eq_bind, Option.bind_eq_some_iff] at hfound
    grind
  · intro text literal rest hfound
    grind [special, Option.map_eq_some_iff]

end Number

namespace DateTime

variable {text rest : List Char}

@[grind →]
theorem number_shrinks {width n : Nat} (hfound : number width text = some (n, rest)) :
    rest.length ≤ text.length := by
  grind [number]

@[grind →]
theorem upTo_shrinks {limit n : Nat} (hfound : upTo limit text = some (n, rest)) :
    rest.length ≤ text.length := by
  simp only [upTo, Option.bind_eq_some_iff] at hfound
  grind

@[grind →]
theorem readDate_shrinks {calendar : Date} (hfound : readDate text = some (calendar, rest)) :
    rest.length ≤ text.length := by
  simp only [readDate, Option.bind_eq_bind, Option.bind_eq_some_iff] at hfound
  grind

theorem readFraction_shrinks : Shrinks readFraction := by
  intro text places rest hfound
  fun_cases readFraction text <;> grind [readFraction]

@[grind →]
theorem readTime_shrinks {clock : Time} (hfound : readTime text = some (clock, rest)) :
    rest.length ≤ text.length := by
  have hplaces := Reader.optional_length readFraction_shrinks
  simp only [readTime, Option.bind_eq_bind, Option.bind_eq_some_iff] at hfound
  grind

theorem readOffset_shrinks : Shrinks readOffset := by
  intro text offset rest hfound
  cases text with
  | nil => cases hfound
  | cons c text =>
    simp only [readOffset, Option.bind_eq_bind] at hfound
    grind [Option.bind_eq_some_iff]

@[grind →]
theorem readTimeOfDate_shrinks {parts : Time × Option Int}
    (hfound : readTimeOfDate text = some (parts, rest)) : rest.length ≤ text.length := by
  have hoffset := Reader.optional_length readOffset_shrinks
  simp only [readTimeOfDate, Option.bind_eq_bind, Option.bind_eq_some_iff] at hfound
  grind

theorem read_shrinks : Shrinks read := by
  grind [read, Shrinks, Option.map_eq_some_iff]

end DateTime

namespace Quoted

variable {text rest : List Char} {c : Char}

@[grind →]
theorem code_shrinks {width : Nat} (hfound : code width text = some (c, rest)) :
    rest.length ≤ text.length := by
  grind [code, Option.map_eq_some_iff]

@[grind →]
theorem escape_shrinks (hfound : escape text = some (c, rest)) : rest.length ≤ text.length := by
  fun_cases escape text <;> grind [escape, Option.map_eq_some_iff]

@[grind →]
theorem basicChar_shrinks (hfound : basicChar text = some (c, rest)) :
    rest.length ≤ text.length := by
  fun_cases basicChar text <;> grind [basicChar]

@[grind →]
theorem literalChar_shrinks (hfound : literalChar text = some (c, rest)) :
    rest.length ≤ text.length :=
  Nat.le_of_lt (Reader.charOf_consumes hfound)

theorem line_shrinks (quote : Char) {char : Reader Char} (hshrinks : Shrinks char) :
    Shrinks (line quote char) := by
  have hcontent := Reader.many_length hshrinks
  intro text chars rest hfound
  simp only [line, Option.bind_eq_bind, Option.bind_eq_some_iff] at hfound
  grind

theorem skipBreaks_length (text : List Char) : (skipBreaks text).length ≤ text.length := by
  have hshrinks : Shrinks fun text => lineBreak (skipBlanks text) := by grind [Shrinks]
  have hbreaks := Reader.many_length hshrinks text
  grind [skipBreaks]

@[grind →]
theorem continuation_shrinks {u : Unit} (hfound : continuation text = some (u, rest)) :
    rest.length ≤ text.length := by
  fun_cases continuation text <;> grind [continuation, skipBreaks_length, Option.map_eq_some_iff]

theorem basicPiece_shrinks : Shrinks basicPiece := by
  grind [Shrinks, basicPiece, Option.map_eq_some_iff]

theorem literalPiece_shrinks : Shrinks literalPiece := by
  grind [Shrinks, literalPiece, Option.map_eq_some_iff]

theorem innerQuotes_shrinks (quote : Char) {piece : Reader (List Char)} (hshrinks : Shrinks piece) :
    Shrinks (innerQuotes quote piece) := by
  grind [innerQuotes, Shrinks, Option.map_eq_some_iff]

theorem closing_shrinks (quote : Char) : Shrinks (closing quote) := by
  grind [closing, Shrinks]

theorem block_shrinks (quote : Char) {piece : Reader (List Char)} (hshrinks : Shrinks piece) :
    Shrinks (block quote piece) := by
  intro text chars rest hfound
  simp only [block, Option.bind_eq_bind, Option.bind_eq_some_iff] at hfound
  obtain ⟨opened, hopening, closed, hending, htaken⟩ := hfound
  calc rest.length
      = closed.2.length := by grind
    _ ≤ _ := closing_shrinks quote _ _ _ hending
    _ ≤ _ := Reader.many_length (hshrinks.orElse (innerQuotes_shrinks quote hshrinks)) _
    _ ≤ _ := Reader.optional_length (by grind [Shrinks]) opened.2
    _ ≤ text.length := Reader.word_shrinks hopening

theorem short_shrinks : Shrinks short :=
  (line_shrinks _ fun _ _ _ hfound => basicChar_shrinks hfound).orElse
    (line_shrinks _ fun _ _ _ hfound => literalChar_shrinks hfound)

theorem string_shrinks : Shrinks string :=
  ((block_shrinks _ basicPiece_shrinks).orElse (block_shrinks _ literalPiece_shrinks)).orElse
    short_shrinks

end Quoted

namespace Key

theorem bare_shrinks : Shrinks bare := by
  grind [Shrinks, bare]

theorem part_shrinks : Shrinks part := by
  have hnamed := Quoted.short_shrinks.orElse bare_shrinks
  grind [part, Shrinks, Option.map_eq_some_iff]

@[grind →]
theorem read_shrinks {text rest : List Char} {key : Key} (hfound : read text = some (key, rest)) :
    rest.length ≤ text.length := by
  have hparts := (Reader.exactly_shrinks '.').separated part_shrinks
  simp only [read, Option.bind_eq_some_iff] at hfound
  grind [Shrinks, Option.map_eq_some_iff]

end Key

namespace Value

theorem readScalar_shrinks : Shrinks readScalar := by
  have hstrings := Quoted.string_shrinks
  have htimes := DateTime.read_shrinks
  have hfloats := Number.float_shrinks
  grind [readScalar, Shrinks, readBoolean, Option.map_eq_some_iff]

section Nested

variable {item : Reader Value}

theorem readArray_shrinks (hshrinks : Shrinks item) : Shrinks (readArray item) := by
  have hspaced : Shrinks fun text =>
      (item (skipLines text)).map fun taken => (taken.1, skipLines taken.2) := by
    grind [Shrinks, skipLines_length, Option.map_eq_some_iff]
  have hitems := Reader.optional_length ((Reader.exactly_shrinks ',').separated hspaced)
  have hlast := Reader.optional_length (Reader.exactly_shrinks ',')
  intro text value rest hfound
  simp only [readArray, Option.bind_eq_bind, Option.bind_eq_some_iff] at hfound
  grind [skipLines_length]

theorem readAssignment_consumes (hshrinks : Shrinks item) :
    Reader.Consumes (readAssignment item) := by
  intro text assignment rest hfound
  simp only [readAssignment, Option.bind_eq_bind, Option.bind_eq_some_iff] at hfound
  grind [Shrinks]

theorem readBraces_shrinks (hshrinks : Shrinks item) : Shrinks (readBraces item) := by
  have hassignments := Reader.optional_length
    ((Reader.exactly_shrinks ',').separated (readAssignment_consumes hshrinks).shrinks)
  intro text value rest hfound
  simp only [readBraces, Option.bind_eq_bind, Option.bind_eq_some_iff] at hfound
  grind

end Nested

theorem readWithin_shrinks (depth : Nat) : Shrinks (readWithin depth) := by
  induction depth with
  | zero => exact readScalar_shrinks
  | succ depth ih =>
    have harrays := readArray_shrinks ih
    have htables := readBraces_shrinks ih
    have hscalars := readScalar_shrinks
    grind [Shrinks, readWithin]

theorem read_shrinks : Shrinks read := readWithin_shrinks maxDepth

end Value

namespace Statement

variable {text rest : List Char} {statement : Statement}

@[grind →]
theorem readTable_consumes (hfound : readTable text = some (statement, rest)) :
    rest.length < text.length := by
  simp only [readTable, Option.bind_eq_bind, Option.bind_eq_some_iff] at hfound
  grind

@[grind →]
theorem readElement_consumes (hfound : readElement text = some (statement, rest)) :
    rest.length < text.length := by
  simp only [readElement, Reader.word, Option.bind_eq_bind, Option.bind_eq_some_iff] at hfound
  grind

@[grind →]
theorem readAssignment_consumes (hfound : readAssignment text = some (statement, rest)) :
    rest.length < text.length := by
  have hassignments := Value.readAssignment_consumes Value.read_shrinks
  grind [readAssignment, Reader.Consumes, Option.map_eq_some_iff]

@[grind →]
theorem read_consumes (hfound : read text = some (statement, rest)) :
    rest.length < text.length := by
  simp only [read, Option.bind_eq_bind, Option.bind_eq_some_iff] at hfound
  grind [Reader.orElse]

/-- Every line that is read takes something off the text. -/
theorem readLine_consumes : Reader.Consumes readLine := by
  grind [Reader.Consumes, readLine, Option.map_eq_some_iff]

end Statement

end Toml
end DesktopCapture
