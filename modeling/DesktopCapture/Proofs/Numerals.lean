import DesktopCapture.Proofs.Progress

/-!
# Integers as values

A value is tried as a string, a truth value, a time and a float before it is tried as
an integer.  None of these stands where an integer fills the place of a value, so
such an integer is read as that integer, and one that does not fit 64 bits is not
read at all (`Value.read_integer`).  The digits of a number are such an integer, also
behind a minus (`Number.unboundedInteger_toDigits`, `Number.unboundedInteger_minus`).
-/

namespace DesktopCapture
namespace Toml

namespace Reader

theorem exactly_eq_some_iff {c : Char} {text rest : List Char} {u : Unit} :
    exactly c text = some (u, rest) ↔ text = c :: rest := by
  cases text <;> grind [exactly]

end Reader

section Lines

theorem lineBreak_eq_some_iff {text rest : List Char} {u : Unit} :
    lineBreak text = some (u, rest) ↔ text = '\n' :: rest ∨ text = '\r' :: '\n' :: rest := by
  fun_cases lineBreak text <;> grind [lineBreak]

theorem skipComment_eq_self {text : List Char} (hunmarked : text.head? ≠ some '#') :
    skipComment text = text := by
  fun_cases skipComment text <;> grind

/-- Whether a text can stand right behind a value at the end of a line. -/
def EndsValue (text : List Char) : Prop :=
  ∀ c more, text = c :: more → c = ' ' ∨ c = '\t' ∨ c = '\n' ∨ c = '\r' ∨ c = '#'

theorem endsValue_of_trailing {text rest : List Char} {u : Unit}
    (hfound : trailing text = some (u, rest)) : EndsValue text := by
  rintro c more rfl
  by_cases hblank : isBlank c
  · grind [isBlank]
  · by_cases hmark : c = '#'
    · simp [hmark]
    · have hkept : skipBlanks (c :: more) = c :: more := List.dropWhile_cons_of_neg hblank
      rw [trailing, hkept, skipComment_eq_self (by simpa using hmark)] at hfound
      have hbroken : lineBreak (c :: more) = some (u, rest) := hfound
      grind [lineBreak_eq_some_iff]

end Lines

namespace Number

theorem isDigitOf_ten {c : Char} : isDigitOf 10 c = true ↔ '0' ≤ c ∧ c ≤ '9' := by
  unfold isDigitOf Hex.digitValue?
  constructor <;> grind [Char.le_def, UInt32.le_iff_toNat_le, Char.toNat]

theorem ne_of_digit {c d : Char} (hdigit : isDigitOf 10 c = true)
    (hother : isDigitOf 10 d = false) : c ≠ d := by
  rintro rfl
  simp [hdigit] at hother

/-- Neither a digit nor an underscore in front. -/
def StopsDigits (base : Nat) (text : List Char) : Prop :=
  ∀ c more, text = c :: more → isDigitOf base c = false ∧ c ≠ '_'

theorem furtherDigits_cons {base : Nat} {c : Char} (hdigit : isDigitOf base c = true)
    (rest : List Char) :
    furtherDigits base (c :: rest) =
      (c :: (furtherDigits base rest).1, (furtherDigits base rest).2) := by
  have hplain : c ≠ '_' := by
    rintro rfl
    simp [isDigitOf, Hex.digitValue?] at hdigit
  simp [furtherDigits, hdigit, hplain]

theorem furtherDigits_append {base : Nat} {ds rest : List Char}
    (hall : ∀ c ∈ ds, isDigitOf base c = true) (hstops : StopsDigits base rest) :
    furtherDigits base (ds ++ rest) = (ds, rest) := by
  induction ds with
  | nil =>
    rw [List.nil_append]
    fun_cases furtherDigits base rest <;> grind [StopsDigits, furtherDigits]
  | cons c ds ih =>
    rw [List.cons_append, furtherDigits_cons (hall c List.mem_cons_self),
      ih fun d hinside => hall d (List.mem_cons_of_mem c hinside)]

theorem digits_append {base : Nat} {c : Char} {ds rest : List Char}
    (hall : ∀ d ∈ c :: ds, isDigitOf base d = true) (hstops : StopsDigits base rest) :
    digits base (c :: ds ++ rest) = some (c :: ds, rest) := by
  obtain ⟨hfirst, hmore⟩ := List.forall_mem_cons.mp hall
  simp [digits, hfirst, furtherDigits_append hmore hstops]

theorem sign_of_digit {c : Char} (hdigit : isDigitOf 10 c = true) (rest : List Char) :
    sign (c :: rest) = (false, c :: rest) := by
  have hminus : c ≠ '-' := ne_of_digit hdigit rfl
  have hplus : c ≠ '+' := ne_of_digit hdigit rfl
  simp [sign, hminus, hplus]

theorem plainDigits_starts {text rest ds : List Char}
    (hfound : plainDigits text = some (ds, rest)) :
    ∃ c more, text = c :: more ∧ isDigitOf 10 c = true := by
  fun_cases plainDigits text with
  | case1 more => exact ⟨'0', more, rfl, rfl⟩
  | case2 => cases text <;> grind [plainDigits, digits]

/-- Decimal digits are taken up to where they stop, or none but a leading zero. -/
theorem plainDigits_append {c : Char} {ds rest : List Char}
    (hall : ∀ d ∈ c :: ds, isDigitOf 10 d = true) (hstops : StopsDigits 10 rest) :
    plainDigits (c :: ds ++ rest) =
      some (if c = '0' then (['0'], ds ++ rest) else (c :: ds, rest)) := by
  by_cases hzero : c = '0'
  · subst hzero
    rfl
  · rw [if_neg hzero, ← digits_append hall hstops]
    simp [plainDigits, hzero]

/-- An integer is a number behind the mark of its base, or plain digits behind a sign
that may be absent. -/
theorem unboundedInteger_cases {text rest : List Char} {n : Int}
    (hfound : unboundedInteger text = some (n, rest)) :
    (∃ mark more, text = '0' :: mark :: more ∧ (mark = 'x' ∨ mark = 'o' ∨ mark = 'b')) ∨
      ∃ ds, plainDigits (sign text).2 = some (ds, rest) := by
  fun_cases unboundedInteger text with
  | case1 more => exact .inl ⟨'x', more, rfl, .inl rfl⟩
  | case2 more => exact .inl ⟨'o', more, rfl, .inr (.inl rfl)⟩
  | case3 more => exact .inl ⟨'b', more, rfl, .inr (.inr rfl)⟩
  | case4 =>
    right
    grind [unboundedInteger, decimalInteger, Option.map_eq_some_iff]

/-- No number of a fixed width with a stop behind it is the beginning of an integer
that fills the place of a value. -/
theorem unboundedInteger_stopped {c stop : Char} {ds more rest : List Char} {n : Int}
    (hall : ∀ d ∈ c :: ds, isDigitOf 10 d = true) (hstops : StopsDigits 10 (stop :: more))
    (hunmarked : stop ≠ 'x' ∧ stop ≠ 'o' ∧ stop ≠ 'b')
    (hfound : unboundedInteger (c :: ds ++ stop :: more) = some (n, rest)) :
    ∃ d tail, rest = d :: tail ∧ (isDigitOf 10 d = true ∨ d = stop) := by
  obtain ⟨mark, tail, hshape, hmarks⟩ | ⟨taken, hplain⟩ := unboundedInteger_cases hfound
  · exfalso
    cases ds with
    | nil => grind
    | cons d ds =>
      have hdigit : isDigitOf 10 mark = true := by grind
      obtain rfl | rfl | rfl := hmarks <;> cases hdigit
  · rw [List.cons_append, sign_of_digit (hall c List.mem_cons_self), ← List.cons_append,
      plainDigits_append hall hstops] at hplain
    cases ds <;> grind

theorem scale_eq_none {text : List Char}
    (hunscaled : ∀ c more, text = c :: more → c ≠ '.' ∧ c ≠ 'e' ∧ c ≠ 'E') :
    scale text = none := by
  cases text with
  | nil => rfl
  | cons c more =>
    obtain ⟨hpoint, hsmall, hlarge⟩ := hunscaled c more rfl
    simp [scale, fraction, exponent, hpoint, hsmall, hlarge]

theorem special_eq_none {c : Char} {text more : List Char} (hdigit : isDigitOf 10 c = true)
    (hunsigned : (sign text).2 = c :: more) : special text = none := by
  have hinfinite : c ≠ 'i' := ne_of_digit hdigit rfl
  have hundefined : c ≠ 'n' := ne_of_digit hdigit rfl
  simp [special, hunsigned, Reader.word, Reader.exactly, hinfinite, hundefined]

/-- Where an integer fills the place of a value there is no float. -/
theorem float_eq_none {text rest : List Char} {n : Int}
    (hfound : unboundedInteger text = some (n, rest)) (hends : EndsValue rest) :
    float text = none := by
  have hfinite : finite text = none := by
    obtain ⟨mark, more, rfl, hmarks⟩ | ⟨ds, hplain⟩ := unboundedInteger_cases hfound
    · have hunscaled : scale (mark :: more) = none := scale_eq_none (by grind)
      simp [finite, sign, plainDigits, hunscaled]
    · have hunscaled : scale rest = none := scale_eq_none (by grind [EndsValue])
      simp [finite, hplain, hunscaled]
  have hspecial : special text = none := by
    obtain ⟨mark, more, rfl, hmarks⟩ | ⟨ds, hplain⟩ := unboundedInteger_cases hfound
    · have hdigit : isDigitOf 10 '0' = true := rfl
      exact special_eq_none hdigit rfl
    · obtain ⟨c, more, hshape, hdigit⟩ := plainDigits_starts hplain
      exact special_eq_none hdigit hshape
  simp [float, Reader.orElse, hfinite, hspecial]

end Number

namespace DateTime

open Number

theorem number_splits {width n : Nat} {text rest : List Char}
    (hfound : number width text = some (n, rest)) :
    ∃ front, text = front ++ rest ∧ front.length = width ∧
      ∀ c ∈ front, isDigitOf 10 c = true := by
  refine ⟨text.take width, ?_⟩
  grind [number, List.take_append_drop]

/-- Where an integer fills the place of a value, no number of a fixed width stands with
a stop behind it. -/
theorem number_unstopped {width m : Nat} {n : Int} {stop : Char} {text rest more : List Char}
    (hfound : unboundedInteger text = some (n, rest)) (hends : EndsValue rest)
    (hwide : 0 < width) (hstops : stop = '-' ∨ stop = ':') :
    number width text ≠ some (m, stop :: more) := by
  intro hfixed
  obtain ⟨front, rfl, hlength, hall⟩ := number_splits hfixed
  obtain ⟨c, ds, rfl⟩ := List.exists_cons_of_length_pos (hlength ▸ hwide)
  have hstopped : StopsDigits 10 (stop :: more) := by
    rintro d tail hshape
    cases hshape
    obtain rfl | rfl := hstops <;> decide
  obtain ⟨d, tail, rfl, hfirst⟩ := unboundedInteger_stopped hall hstopped (by grind) hfound
  obtain rfl | rfl | rfl | rfl | rfl := hends d tail rfl <;> grind [isDigitOf_ten]

theorem read_eq_none {text rest : List Char} {n : Int}
    (hfound : unboundedInteger text = some (n, rest)) (hends : EndsValue rest) :
    read text = none := by
  -- A date has a stop behind its year and a time one behind its hour.
  have hdate : readDate text = none := by
    rw [Option.eq_none_iff_forall_ne_some]
    rintro ⟨calendar, last⟩ hdated
    simp only [readDate, Option.bind_eq_bind, Option.bind_eq_some_iff] at hdated
    obtain ⟨⟨year, text'⟩, hfixed, ⟨_, later⟩, hstop, _⟩ := hdated
    obtain rfl := Reader.exactly_eq_some_iff.mp hstop
    exact number_unstopped hfound hends (by decide) (.inl rfl) hfixed
  have htime : readTime text = none := by
    rw [Option.eq_none_iff_forall_ne_some]
    rintro ⟨clock, last⟩ htimed
    simp only [readTime, upTo, Option.bind_eq_bind, Option.bind_eq_some_iff] at htimed
    obtain ⟨⟨hour, text'⟩, ⟨⟨hour', text''⟩, hfixed, hsame⟩, ⟨_, later⟩, hstop, _⟩ := htimed
    obtain rfl := Reader.exactly_eq_some_iff.mp hstop
    have hsame : text'' = ':' :: later := by grind
    exact number_unstopped hfound hends (by decide) (.inr rfl) (hsame ▸ hfixed)
  simp [read, hdate, htime]

end DateTime
namespace Number

theorem unboundedInteger_starts {text rest : List Char} {n : Int}
    (hfound : unboundedInteger text = some (n, rest)) :
    ∃ c more, text = c :: more ∧ (c = '+' ∨ c = '-' ∨ isDigitOf 10 c = true) := by
  obtain ⟨mark, more, rfl, -⟩ | ⟨ds, hplain⟩ := unboundedInteger_cases hfound
  · exact ⟨'0', mark :: more, rfl, .inr (.inr rfl)⟩
  · obtain ⟨c, more, hshape, hdigit⟩ := plainDigits_starts hplain
    fun_cases sign text <;> grind [sign]

/-- No blanks stand in front of an integer. -/
theorem skipBlanks_of_unboundedInteger {text rest : List Char} {n : Int}
    (hfound : unboundedInteger text = some (n, rest)) : skipBlanks text = text := by
  obtain ⟨c, more, rfl, hstart⟩ := unboundedInteger_starts hfound
  have hvisible : isBlank c = false := by
    obtain rfl | rfl | hdigit := hstart
    · rfl
    · rfl
    · have hspace : c ≠ ' ' := ne_of_digit hdigit rfl
      have htab : c ≠ '\t' := ne_of_digit hdigit rfl
      simp [isBlank, hspace, htab]
  exact List.dropWhile_cons_of_neg (by simp [hvisible])

theorem valueOf_ten {ds : List Char} (hall : ∀ c ∈ ds, isDigitOf 10 c = true) :
    valueOf 10 ds = Nat.ofDigitChars 10 ds 0 := by
  rw [valueOf, Nat.ofDigitChars_eq_foldl]
  apply List.foldl_ext
  intro value c hinside
  have hrange := isDigitOf_ten.mp (hall c hinside)
  simp [Hex.digitValue?, hrange]

theorem isDigitOf_of_mem_toDigits {n : Nat} {c : Char} (hinside : c ∈ Nat.toDigits 10 n) :
    isDigitOf 10 c = true := by
  have hdigit := Nat.isDigit_of_mem_toDigits (by decide) (by decide) hinside
  rw [isDigitOf_ten]
  simpa [Char.isDigit, Char.le_def] using hdigit

/-- The digits of a positive number do not begin with a zero. -/
theorem toDigits_head {n : Nat} (hpositive : 0 < n) :
    ∃ c ds, Nat.toDigits 10 n = c :: ds ∧ c ≠ '0' := by
  induction n using Nat.base_induction 10 (by decide) with
  | single m hsmall =>
    refine ⟨m.digitChar, [], Nat.toDigits_of_lt_base hsmall, ?_⟩
    simpa using Nat.pos_iff_ne_zero.mp hpositive
  | digit m k hsmall hpositive' ih =>
    obtain ⟨c, ds, hshape, hnonzero⟩ := ih hpositive'
    refine ⟨c, ds ++ Nat.toDigits 10 k, ?_, hnonzero⟩
    rw [← Nat.toDigits_append_toDigits (by decide) hpositive' hsmall, hshape, List.cons_append]

theorem valueOf_toDigits (n : Nat) : valueOf 10 (Nat.toDigits 10 n) = n := by
  rw [valueOf_ten fun _ => isDigitOf_of_mem_toDigits, Nat.ofDigitChars_ten_toDigits]

/-- The digits of a number are all taken. -/
theorem plainDigits_toDigits (n : Nat) {rest : List Char} (hends : EndsValue rest) :
    plainDigits (Nat.toDigits 10 n ++ rest) = some (Nat.toDigits 10 n, rest) := by
  obtain rfl | hpositive := Nat.eq_zero_or_pos n
  · rfl
  · have hstops : StopsDigits 10 rest := by
      rintro c more rfl
      obtain rfl | rfl | rfl | rfl | rfl := hends c more rfl <;> decide
    obtain ⟨c, ds, hshape, hnonzero⟩ := toDigits_head hpositive
    have hall : ∀ d ∈ c :: ds, isDigitOf 10 d = true :=
      fun d hinside => isDigitOf_of_mem_toDigits (hshape ▸ hinside)
    rw [hshape, plainDigits_append hall hstops, if_neg hnonzero]

/-- A number as written is read as an integer. -/
theorem unboundedInteger_toDigits (n : Nat) {rest : List Char} (hends : EndsValue rest) :
    unboundedInteger (Nat.toDigits 10 n ++ rest) = some ((n : Int), rest) := by
  obtain rfl | hpositive := Nat.eq_zero_or_pos n
  · cases rest with
    | nil => rfl
    | cons c more => obtain rfl | rfl | rfl | rfl | rfl := hends c more rfl <;> rfl
  · have hplain := plainDigits_toDigits n hends
    have hvalue := valueOf_toDigits n
    obtain ⟨c, ds, hshape, hnonzero⟩ := toDigits_head hpositive
    have hdigit : isDigitOf 10 c = true :=
      isDigitOf_of_mem_toDigits (hshape ▸ List.mem_cons_self)
    have hunsigned := sign_of_digit hdigit (ds ++ rest)
    rw [hshape] at hplain hvalue ⊢
    simp_all [unboundedInteger, decimalInteger, signed]

/-- So is one behind a minus. -/
theorem unboundedInteger_minus (n : Nat) {rest : List Char} (hends : EndsValue rest) :
    unboundedInteger ('-' :: (Nat.toDigits 10 n ++ rest)) = some (-(n : Int), rest) := by
  have hsign : sign ('-' :: (Nat.toDigits 10 n ++ rest)) = (true, Nat.toDigits 10 n ++ rest) := rfl
  simp [unboundedInteger, decimalInteger, hsign, plainDigits_toDigits n hends, valueOf_toDigits,
    signed]

end Number

namespace Value

open Number

theorem string_eq_none {c : Char} (hplain : c ≠ '"' ∧ c ≠ '\'') (more : List Char) :
    Quoted.string (c :: more) = none := by
  simp [Quoted.string, Quoted.long, Quoted.short, Quoted.block, Quoted.line, Reader.orElse,
    Reader.word, Reader.exactly, hplain]

theorem readWithin_unnested {c : Char} (hplain : c ≠ '[' ∧ c ≠ '{') (depth : Nat)
    (more : List Char) : readWithin depth (c :: more) = readScalar (c :: more) := by
  cases depth with
  | zero => rfl
  | succ depth => simp [readWithin, readArray, readBraces, Reader.exactly, hplain]

/-- Where an integer fills the place of a value, that integer is read if it fits 64
bits, and nothing otherwise. -/
theorem read_integer {text rest : List Char} {n : Int}
    (hfound : unboundedInteger text = some (n, rest)) (hends : EndsValue rest) :
    read text = if inRange n then some (.integer n, rest) else none := by
  obtain ⟨c, more, hshape, hstart⟩ := unboundedInteger_starts hfound
  have hplain : c ≠ '[' ∧ c ≠ '{' ∧ c ≠ '"' ∧ c ≠ '\'' ∧ c ≠ 't' ∧ c ≠ 'f' := by
    obtain rfl | rfl | hdigit := hstart
    · decide
    · decide
    · exact ⟨ne_of_digit hdigit rfl, ne_of_digit hdigit rfl, ne_of_digit hdigit rfl,
        ne_of_digit hdigit rfl, ne_of_digit hdigit rfl, ne_of_digit hdigit rfl⟩
  obtain ⟨hbracket, hbrace, hdouble, hsingle, hyes, hno⟩ := hplain
  subst hshape
  have hstring := string_eq_none ⟨hdouble, hsingle⟩ more
  have hboolean : readBoolean (c :: more) = none := by
    simp [readBoolean, Reader.word, Reader.exactly, hyes, hno]
  rw [read, readWithin_unnested ⟨hbracket, hbrace⟩]
  simp only [readScalar, hstring, hboolean, DateTime.read_eq_none hfound hends,
    float_eq_none hfound hends, Number.integer, hfound, Option.bind_some]
  split <;> rfl

end Value

end Toml
end DesktopCapture
