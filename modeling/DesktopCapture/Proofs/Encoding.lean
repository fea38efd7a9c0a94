import DesktopCapture.Text.Utf8
import Mathlib.Data.List.Basic

/-!
# Texts and their octets

The octets of a text read back as that text, and octets that read as a text are those of it.
So the strict reading succeeds exactly on the sequences that some text has, and no text has
two of them.

Both directions go character by character.  The numbers of the octets of a character are
quotients and remainders of its code point by powers of sixty-four, and the ranges that the
first octet sets for the second one are what keeps each code point to one form.
-/

namespace DesktopCapture
namespace Utf8

/-! ## One octet -/

/-- A character of two octets, under way after the first. -/
def Pending.two (bits : Nat) : Pending := ⟨1, 0x80, 0xBF, bits⟩

/-- A character of three octets, under way after the first. -/
def Pending.three (bits : Nat) : Pending :=
  ⟨2, if bits = 0 then 0xA0 else 0x80, if bits = 0xD then 0x9F else 0xBF, bits⟩

/-- A character of four octets, under way after the first. -/
def Pending.four (bits : Nat) : Pending :=
  ⟨3, if bits = 0 then 0x90 else 0x80, if bits = 4 then 0x8F else 0xBF, bits⟩

/-- What the number of an octet between characters says. -/
theorem lead_eq {octet : UInt8} {n : Nat} (hnumber : octet.toNat = n) :
    lead octet =
      if n < 0x80 then .ascii (Char.ofNat n)
      else if n < 0xC2 then .illFormed
      else if n < 0xE0 then .opens (.two (n - 0xC0))
      else if n < 0xF0 then .opens (.three (n - 0xE0))
      else if n < 0xF5 then .opens (.four (n - 0xF0))
      else .illFormed := by
  subst hnumber
  unfold lead Pending.two Pending.three Pending.four
  by_cases hthree : octet.toNat < 0xE0
  · grind
  by_cases hfour : octet.toNat < 0xF0
  · grind
  · grind

theorem decodeFrom_ascii {octet : UInt8} {c : Char} (hlead : lead octet = .ascii c)
    (rest : List UInt8) : decodeFrom none (octet :: rest) = some c :: decodeFrom none rest := by
  simp [decodeFrom, advance, start, hlead]

theorem decodeFrom_illFormed {octet : UInt8} (hlead : lead octet = .illFormed)
    (rest : List UInt8) : none ∈ decodeFrom none (octet :: rest) := by
  simp [decodeFrom, advance, start, hlead]

theorem decodeFrom_opens {octet : UInt8} {pending : Pending}
    (hlead : lead octet = .opens pending) (rest : List UInt8) :
    decodeFrom none (octet :: rest) = decodeFrom (some pending) rest := by
  simp [decodeFrom, advance, start, hlead]

/-- Whether an octet may come next in a character under way. -/
def Pending.Admits (pending : Pending) (octet : UInt8) : Prop :=
  pending.low ≤ octet ∧ octet ≤ pending.high

theorem admits_iff {owed bits : Nat} {low high octet : UInt8} :
    Pending.Admits ⟨owed, low, high, bits⟩ octet ↔
      low.toNat ≤ octet.toNat ∧ octet.toNat ≤ high.toNat := by
  rw [Pending.Admits, UInt8.le_iff_toNat_le, UInt8.le_iff_toNat_le]

theorem admits_three_iff {bits : Nat} {octet : UInt8} :
    (Pending.three bits).Admits octet ↔ 0x80 ≤ octet.toNat ∧ octet.toNat ≤ 0xBF ∧
      (bits = 0 → 0xA0 ≤ octet.toNat) ∧ (bits = 0xD → octet.toNat ≤ 0x9F) := by
  rw [Pending.three, admits_iff, apply_ite UInt8.toNat, apply_ite UInt8.toNat]
  simp only [UInt8.reduceToNat]
  grind

theorem admits_four_iff {bits : Nat} {octet : UInt8} :
    (Pending.four bits).Admits octet ↔ 0x80 ≤ octet.toNat ∧ octet.toNat ≤ 0xBF ∧
      (bits = 0 → 0x90 ≤ octet.toNat) ∧ (bits = 4 → octet.toNat ≤ 0x8F) := by
  rw [Pending.four, admits_iff, apply_ite UInt8.toNat, apply_ite UInt8.toNat]
  simp only [UInt8.reduceToNat]
  grind

/-- The last octet of a character completes it. -/
theorem decodeFrom_last {low high octet : UInt8} {bits : Nat}
    (hadmits : Pending.Admits ⟨1, low, high, bits⟩ octet) (rest : List UInt8) :
    decodeFrom (some ⟨1, low, high, bits⟩) (octet :: rest) =
      some (Char.ofNat (64 * bits + octet.toNat % 64)) :: decodeFrom none rest := by
  have hcontinue : Pending.continue? ⟨1, low, high, bits⟩ octet =
      some (.inl (Char.ofNat (64 * bits + octet.toNat % 64))) := by
    obtain ⟨hlow, hhigh⟩ := hadmits
    dsimp only at hlow hhigh
    simp [Pending.continue?, hlow, hhigh]
  simp [decodeFrom, advance, hcontinue]

/-- An octet before the last one leaves the character under way. -/
theorem decodeFrom_further {low high octet : UInt8} {bits owed : Nat}
    (hadmits : Pending.Admits ⟨owed + 2, low, high, bits⟩ octet) (rest : List UInt8) :
    decodeFrom (some ⟨owed + 2, low, high, bits⟩) (octet :: rest) =
      decodeFrom (some ⟨owed + 1, 0x80, 0xBF, 64 * bits + octet.toNat % 64⟩) rest := by
  have hcontinue : Pending.continue? ⟨owed + 2, low, high, bits⟩ octet =
      some (.inr ⟨owed + 1, 0x80, 0xBF, 64 * bits + octet.toNat % 64⟩) := by
    obtain ⟨hlow, hhigh⟩ := hadmits
    dsimp only at hlow hhigh
    simp [Pending.continue?, hlow, hhigh]
  simp [decodeFrom, advance, hcontinue]

/-- If a character under way is read without a gap, the next octet is one that it admits. -/
theorem exists_admitted {pending : Pending} {octets : List UInt8}
    (hgapless : none ∉ decodeFrom (some pending) octets) :
    ∃ octet rest, octets = octet :: rest ∧ pending.Admits octet := by
  cases octets with
  | nil => simp [decodeFrom] at hgapless
  | cons octet rest =>
      refine ⟨octet, rest, rfl, ?_⟩
      by_contra hrefused
      have hcontinue : pending.continue? octet = none := if_neg hrefused
      simp [decodeFrom, advance, hcontinue] at hgapless

/-! ## The octets of a code point -/

theorem toNat_octet {n : Nat} (hbound : n < 0x100) : (UInt8.ofNat n).toNat = n :=
  UInt8.toNat_ofNat_of_lt' hbound

theorem eq_octet {octet : UInt8} {n : Nat} (hnumber : octet.toNat = n) :
    octet = UInt8.ofNat n := by
  rw [← hnumber, UInt8.ofNat_toNat]

/-- The octet that carries the last six bits of a number. -/
def tail (n : Nat) : UInt8 := UInt8.ofNat (n % 64 + 0x80)

theorem toNat_tail (n : Nat) : (tail n).toNat = n % 64 + 0x80 :=
  toNat_octet (by omega)

theorem eq_tail {octet : UInt8} {n : Nat} (hlow : 0x80 ≤ octet.toNat)
    (hhigh : octet.toNat ≤ 0xBF) (hbits : octet.toNat % 64 = n % 64) : octet = tail n :=
  eq_octet (by omega)

/-- The octets of a code point, by its size. -/
def pointOctets (n : Nat) : List UInt8 :=
  if n ≤ 0x7F then [UInt8.ofNat n]
  else if n ≤ 0x7FF then [UInt8.ofNat (n / 64 % 32 + 0xC0), tail n]
  else if n ≤ 0xFFFF then [UInt8.ofNat (n / 4096 % 16 + 0xE0), tail (n / 64), tail n]
  else [UInt8.ofNat (n / 262144 % 8 + 0xF0), tail (n / 4096), tail (n / 64), tail n]

theorem encode_cons (c : Char) (text : List Char) :
    encode (c :: text) = pointOctets c.toNat ++ encode text := rfl

theorem toNat_ofNat {n : Nat} (hvalid : n < 0xD800 ∨ 0xDFFF < n ∧ n < 0x110000) :
    (Char.ofNat n).toNat = n := by
  have hscalar : n.isValidChar := hvalid
  rw [Char.ofNat, dif_pos hscalar]
  rfl

/-! ## Reading the octets of a code point -/

theorem admits_tail (owed bits n : Nat) : Pending.Admits ⟨owed, 0x80, 0xBF, bits⟩ (tail n) := by
  rw [admits_iff, toNat_tail]
  constructor
  · exact Nat.le_add_left _ _
  · change n % 64 + 0x80 ≤ 0xBF
    omega

/-- A last octet with six more bits completes a character. -/
theorem decodeFrom_tail (bits n : Nat) (rest : List UInt8) :
    decodeFrom (some ⟨1, 0x80, 0xBF, bits⟩) (tail n :: rest) =
      some (Char.ofNat (64 * bits + n % 64)) :: decodeFrom none rest := by
  have hbits : (tail n).toNat % 64 = n % 64 := by
    rw [toNat_tail]
    omega
  rw [decodeFrom_last (admits_tail 1 bits n), hbits]

/-- An octet with six more bits that is not the last one. -/
theorem decodeFrom_tails {owed : Nat} {low high : UInt8} {bits n : Nat}
    (hadmits : Pending.Admits ⟨owed + 2, low, high, bits⟩ (tail n)) (rest : List UInt8) :
    decodeFrom (some ⟨owed + 2, low, high, bits⟩) (tail n :: rest) =
      decodeFrom (some ⟨owed + 1, 0x80, 0xBF, 64 * bits + n % 64⟩) rest := by
  have hbits : (tail n).toNat % 64 = n % 64 := by
    rw [toNat_tail]
    omega
  rw [decodeFrom_further hadmits, hbits]

/-- The octets of a code point read back as its character. -/
theorem decodeFrom_pointOctets {n : Nat} (hvalid : n < 0xD800 ∨ 0xDFFF < n ∧ n < 0x110000)
    (rest : List UInt8) :
    decodeFrom none (pointOctets n ++ rest) = some (Char.ofNat n) :: decodeFrom none rest := by
  unfold pointOctets
  split_ifs with hone htwo hthree
  · have hlead : lead (UInt8.ofNat n) = .ascii (Char.ofNat n) := by
      rw [lead_eq (toNat_octet (by omega)), if_pos (by omega)]
    exact decodeFrom_ascii hlead rest
  · have hbits : n / 64 % 32 + 0xC0 - 0xC0 = n / 64 := by omega
    have hlead : lead (UInt8.ofNat (n / 64 % 32 + 0xC0)) = .opens (.two (n / 64)) := by
      rw [lead_eq (toNat_octet (by omega)), if_neg (by omega), if_neg (by omega),
        if_pos (by omega), hbits]
    simp only [List.cons_append, List.nil_append]
    rw [decodeFrom_opens hlead, Pending.two, decodeFrom_tail, Nat.div_add_mod]
  · have hbits : n / 4096 % 16 + 0xE0 - 0xE0 = n / 4096 := by omega
    have hlead : lead (UInt8.ofNat (n / 4096 % 16 + 0xE0)) = .opens (.three (n / 4096)) := by
      rw [lead_eq (toNat_octet (by omega)), if_neg (by omega), if_neg (by omega),
        if_neg (by omega), if_pos (by omega), hbits]
    have hadmits : (Pending.three (n / 4096)).Admits (tail (n / 64)) := by
      rw [admits_three_iff, toNat_tail]
      omega
    have hnumber : 64 * (64 * (n / 4096) + n / 64 % 64) + n % 64 = n := by omega
    simp only [List.cons_append, List.nil_append]
    rw [decodeFrom_opens hlead, Pending.three, decodeFrom_tails hadmits, decodeFrom_tail,
      hnumber]
  · have hbits : n / 262144 % 8 + 0xF0 - 0xF0 = n / 262144 := by omega
    have hlead : lead (UInt8.ofNat (n / 262144 % 8 + 0xF0)) = .opens (.four (n / 262144)) := by
      rw [lead_eq (toNat_octet (by omega)), if_neg (by omega), if_neg (by omega),
        if_neg (by omega), if_neg (by omega), if_pos (by omega), hbits]
    have hadmits : (Pending.four (n / 262144)).Admits (tail (n / 4096)) := by
      rw [admits_four_iff, toNat_tail]
      omega
    have hnumber :
        64 * (64 * (64 * (n / 262144) + n / 4096 % 64) + n / 64 % 64) + n % 64 = n := by
      omega
    simp only [List.cons_append, List.nil_append]
    rw [decodeFrom_opens hlead, Pending.four, decodeFrom_tails hadmits,
      decodeFrom_tails (admits_tail _ _ _), decodeFrom_tail, hnumber]

/-- The last octet of a character under way is one that carries six bits. -/
theorem exists_last {bits : Nat} {octets : List UInt8}
    (hgapless : none ∉ decodeFrom (some ⟨1, 0x80, 0xBF, bits⟩) octets) :
    ∃ octet rest, octets = octet :: rest ∧ 0x80 ≤ octet.toNat ∧ octet.toNat ≤ 0xBF := by
  obtain ⟨octet, rest, rfl, hadmits⟩ := exists_admitted hgapless
  exact ⟨octet, rest, rfl, admits_iff.mp hadmits⟩

/-- What is read without a gap begins with the octets of a code point. -/
theorem exists_pointOctets {octet : UInt8} {rest : List UInt8}
    (hgapless : none ∉ decodeFrom none (octet :: rest)) :
    ∃ n more, (n < 0xD800 ∨ 0xDFFF < n ∧ n < 0x110000) ∧
      octet :: rest = pointOctets n ++ more := by
  have hbound := octet.toNat_lt
  have hlead : lead octet = _ := lead_eq rfl
  have hsame : octet = UInt8.ofNat octet.toNat := eq_octet rfl
  generalize octet.toNat = n at hbound hlead hsame
  by_cases hone : n < 0x80
  · refine ⟨n, rest, by omega, ?_⟩
    rw [pointOctets, if_pos (by omega), hsame]
    rfl
  rw [if_neg hone] at hlead
  by_cases hstray : n < 0xC2
  · rw [if_pos hstray] at hlead
    exact absurd (decodeFrom_illFormed hlead rest) hgapless
  rw [if_neg hstray] at hlead
  by_cases htwo : n < 0xE0
  · rw [if_pos htwo] at hlead
    rw [decodeFrom_opens hlead, Pending.two] at hgapless
    obtain ⟨second, more, rfl, hsecond⟩ := exists_last hgapless
    obtain ⟨point, hpoint⟩ : ∃ point, point = 64 * (n - 0xC0) + second.toNat % 64 := ⟨_, rfl⟩
    have hfirst : n = point / 64 % 32 + 0xC0 := by omega
    have htail : second = tail point := eq_tail hsecond.1 hsecond.2 (by omega)
    refine ⟨point, more, by omega, ?_⟩
    rw [pointOctets, if_neg (by omega), if_pos (by omega), hsame, ← hfirst, ← htail]
    rfl
  rw [if_neg htwo] at hlead
  by_cases hthree : n < 0xF0
  · rw [if_pos hthree] at hlead
    rw [decodeFrom_opens hlead] at hgapless
    obtain ⟨second, others, rfl, hadmits⟩ := exists_admitted hgapless
    rw [Pending.three, decodeFrom_further hadmits] at hgapless
    obtain ⟨third, more, rfl, hthird⟩ := exists_last hgapless
    rw [admits_three_iff] at hadmits
    obtain ⟨point, hpoint⟩ : ∃ point, point =
      64 * (64 * (n - 0xE0) + second.toNat % 64) + third.toNat % 64 := ⟨_, rfl⟩
    have hfirst : n = point / 4096 % 16 + 0xE0 := by omega
    have htail : second = tail (point / 64) := eq_tail hadmits.1 hadmits.2.1 (by omega)
    have htail' : third = tail point := eq_tail hthird.1 hthird.2 (by omega)
    refine ⟨point, more, by omega, ?_⟩
    rw [pointOctets, if_neg (by omega), if_neg (by omega), if_pos (by omega), hsame, ← hfirst,
      ← htail, ← htail']
    rfl
  rw [if_neg hthree] at hlead
  by_cases hfour : n < 0xF5
  · rw [if_pos hfour] at hlead
    rw [decodeFrom_opens hlead] at hgapless
    obtain ⟨second, others, rfl, hadmits⟩ := exists_admitted hgapless
    rw [Pending.four, decodeFrom_further hadmits] at hgapless
    obtain ⟨third, others, rfl, hthird⟩ := exists_admitted hgapless
    rw [decodeFrom_further hthird] at hgapless
    obtain ⟨fourth, more, rfl, hfourth⟩ := exists_last hgapless
    rw [admits_four_iff] at hadmits
    rw [admits_iff] at hthird
    simp only [UInt8.reduceToNat] at hthird
    obtain ⟨point, hpoint⟩ : ∃ point, point = 64 * (64 * (64 * (n - 0xF0) +
      second.toNat % 64) + third.toNat % 64) + fourth.toNat % 64 := ⟨_, rfl⟩
    have hfirst : n = point / 262144 % 8 + 0xF0 := by omega
    have htail : second = tail (point / 4096) := eq_tail hadmits.1 hadmits.2.1 (by omega)
    have htail' : third = tail (point / 64) := eq_tail hthird.1 hthird.2 (by omega)
    have htail'' : fourth = tail point := eq_tail hfourth.1 hfourth.2 (by omega)
    refine ⟨point, more, by omega, ?_⟩
    rw [pointOctets, if_neg (by omega), if_neg (by omega), if_neg (by omega), hsame, ← hfirst,
      ← htail, ← htail', ← htail'']
    rfl
  · rw [if_neg hfour] at hlead
    exact absurd (decodeFrom_illFormed hlead rest) hgapless

/-! ## Whole texts -/

/-- The octets of a text read back as its characters. -/
theorem decode_encode (text : List Char) : decode (encode text) = text.map some := by
  induction text with
  | nil => rfl
  | cons c text ih =>
      have hvalid : c.toNat < 0xD800 ∨ 0xDFFF < c.toNat ∧ c.toNat < 0x110000 := c.valid
      calc decode (encode (c :: text))
          = decodeFrom none (pointOctets c.toNat ++ encode text) := by rw [encode_cons, decode]
        _ = some (Char.ofNat c.toNat) :: decode (encode text) :=
          decodeFrom_pointOctets hvalid (encode text)
        _ = (c :: text).map some := by rw [Char.ofNat_toNat, ih, List.map_cons]

theorem pointOctets_ne_nil (n : Nat) : pointOctets n ≠ [] := by
  unfold pointOctets
  split_ifs <;> exact List.cons_ne_nil _ _

/-- What is read without a gap are the octets of a text. -/
theorem exists_encode {octets : List UInt8} (hgapless : none ∉ decode octets) :
    ∃ text, octets = encode text := by
  -- A character takes one octet or more, so the induction is on the number of octets.
  induction hlength : octets.length using Nat.strongRecOn generalizing octets with
  | ind length ih =>
      cases octets with
      | nil => exact ⟨[], rfl⟩
      | cons octet rest =>
          obtain ⟨n, more, hvalid, hoctets⟩ := exists_pointOctets hgapless
          have hsplit : decode (octet :: rest) = some (Char.ofNat n) :: decode more := by
            rw [hoctets]
            exact decodeFrom_pointOctets hvalid more
          have hmore : none ∉ decode more := by
            rw [hsplit] at hgapless
            exact fun hgap => hgapless (List.mem_cons_of_mem _ hgap)
          have hshorter : more.length < length := by
            rw [← hlength, hoctets, List.length_append]
            exact Nat.lt_add_of_pos_left (List.length_pos_iff.mpr (pointOctets_ne_nil n))
          obtain ⟨text, htext⟩ := ih more.length hshorter hmore rfl
          refine ⟨Char.ofNat n :: text, ?_⟩
          calc octet :: rest = pointOctets n ++ encode text := by rw [hoctets, htext]
            _ = pointOctets (Char.ofNat n).toNat ++ encode text := by rw [toNat_ofNat hvalid]
            _ = encode (Char.ofNat n :: text) := (encode_cons _ _).symm

theorem decode?_encode (text : List Char) : decode? (encode text) = some text := by
  rw [decode?, decode_encode, if_pos (by simp), List.filterMap_map]
  simp

/-- A sequence of octets reads as a text exactly if it is what the text is written with. -/
theorem decode?_eq_some_iff {octets : List UInt8} {text : List Char} :
    decode? octets = some text ↔ octets = encode text := by
  constructor
  · intro hdecoded
    have hgapless : none ∉ decode octets := by
      intro hgap
      have hall : ¬(decode octets).all Option.isSome = true :=
        fun hall => absurd (List.all_eq_true.mp hall none hgap) (by simp)
      rw [decode?, if_neg hall] at hdecoded
      cases hdecoded
    obtain ⟨other, rfl⟩ := exists_encode hgapless
    rw [decode?_encode] at hdecoded
    rw [Option.some.inj hdecoded]
  · rintro rfl
    exact decode?_encode text

theorem decode?_eq_none_iff {octets : List UInt8} :
    decode? octets = none ↔ ∀ text, octets ≠ encode text := by
  simp [Option.eq_none_iff_forall_ne_some, decode?_eq_some_iff]

end Utf8
end DesktopCapture
