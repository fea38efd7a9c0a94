import DesktopCapture.Proofs.Documents
import DesktopCapture.Toml.Codec
import Mathlib.Data.List.Nodup

/-!
# The laws of the codec of TOML documents

The codec keeps all that is relied on in one: it decodes by type (`codec_decodesByType`),
it reads texts of assignments (`codec_readsAssignments`), and it reads back the records
that it writes (`codec_writesReadably`).  The lines of a record are assignments to the keys
of its fields, so the third law follows from what is known of documents of assignments.
-/

namespace DesktopCapture
namespace Toml

/-! ## Decoding by type -/

namespace Record

theorem natural?_eq_some_iff {bound n : Nat} {datum : Datum} :
    natural? bound datum = some n ↔ datum = .scalar (.integer n) ∧ n < bound := by
  cases datum with
  | scalar value =>
    cases value with
    | integer m => grind [natural?]
    | flag b => simp [natural?]
  | other => simp [natural?]

/-- An integer of so many bits is decoded exactly if it is the value. -/
theorem natural?_map_eq_some_iff {α : Type} {bound : Nat} {ofNat : Nat → α} {toNat : α → Nat}
    (hsmall : ∀ n, toNat n < bound) (hread : ∀ m, m < bound → toNat (ofNat m) = m)
    (hwritten : ∀ n, ofNat (toNat n) = n) {datum : Datum} {n : α} :
    (natural? bound datum).map ofNat = some n ↔ datum = .scalar (.integer (toNat n)) := by
  simp only [Option.map_eq_some_iff, natural?_eq_some_iff]
  constructor
  · rintro ⟨m, ⟨rfl, hm⟩, rfl⟩
    rw [hread m hm]
  · rintro rfl
    exact ⟨toNat n, ⟨rfl, hsmall n⟩, hwritten n⟩

theorem flag?_eq_some_iff {datum : Datum} {b : Bool} :
    flag? datum = some b ↔ datum = .scalar (.flag b) := by
  cases datum with
  | scalar value => cases value <;> simp [flag?]
  | other => simp [flag?]

end Record

theorem codec_decodesByType : codec.DecodesByType where
  word32 _ _ := Record.natural?_map_eq_some_iff UInt32.toNat_lt
    (fun _ => UInt32.toNat_ofNat_of_lt') fun _ => UInt32.ofNat_toNat
  word64 _ _ := Record.natural?_map_eq_some_iff UInt64.toNat_lt
    (fun _ => UInt64.toNat_ofNat_of_lt') fun _ => UInt64.ofNat_toNat
  flag _ _ := Record.flag?_eq_some_iff
  optional _ _ := rfl
  present read standard hfound := by simp [codec, Record.field?, hfound]
  missing read standard habsent := by simp [codec, Record.field?, habsent]

/-! ## Reading assignments -/

theorem Value.isStorable_datum (value : Value) : value.datum.isStorable = value.isStorable := by
  cases value <;> rfl

theorem Entries.lookup_data (entries : Entries) (key : String) :
    entries.data.lookup key = (entries.lookup key).map Value.datum := by
  induction entries with
  | nil => rfl
  | cons entry rest ih =>
    obtain ⟨other, value⟩ := entry
    by_cases hsame : key = other
    · simp [data, hsame]
    · simpa [data, List.lookup_cons, beq_eq_false_iff_ne.mpr hsame] using ih

/-- The texts of assignments, in the terms of the readers of keys and values. -/
def Document.Lists (text : List Char) (assignments : List (Codec.Path × Datum)) : Prop :=
  ∃ detailed : List (Key × Value), Assigns (Statement.skipMark text) detailed ∧
    assignments = detailed.map fun a => (a.1.parts, a.2.datum)

theorem Key.head?_parts (key : Key) : key.parts.head? = some key.head := by
  obtain ⟨path, name⟩ := key
  cases path <;> rfl

theorem Entries.Shows.data {entries : Entries} {assignment : Key × Value}
    (hshows : entries.Shows assignment) :
    Codec.Shows entries.data (assignment.1.parts, assignment.2.datum) := by
  obtain ⟨⟨path, name⟩, value⟩ := assignment
  cases path with
  | nil =>
    have hlooks : entries.lookup name = some value := hshows
    simp [Key.parts, Codec.Shows, lookup_data, hlooks]
  | cons head path =>
    obtain ⟨inner, hlooks⟩ := hshows
    have htable : entries.lookup head = some (.table .dottedKey inner) := hlooks
    have hother : entries.data.lookup head = some .other := by
      simp [lookup_data, htable, Value.datum]
    -- Behind the head stands the rest of the path or, if that is empty, the name.
    cases path <;> exact hother

theorem codec_readsAssignments : codec.ReadsAssignments Document.Lists where
  reads := by
    rintro text _ ⟨detailed, hassigns, rfl⟩ hapart hstorable
    simp only [List.forall_mem_map, List.pairwise_map, Value.isStorable_datum,
      Key.head?_parts] at *
    obtain ⟨entries, hparsed, hshows, hbare⟩ :=
      Document.parse_of_assigns hassigns hapart hstorable
    refine ⟨entries.data, by simp [codec, hparsed], fun a hinside => (hshows a hinside).data,
      fun key hdifferent => ?_⟩
    have hmissing := hbare key fun a hinside => by simpa using hdifferent a hinside
    simp [Entries.lookup_data, hmissing]
  refuses := by
    rintro text _ ⟨detailed, hassigns, rfl⟩ ⟨_, hmapped, hvast⟩
    obtain ⟨a, hinside, rfl⟩ := List.mem_map.mp hmapped
    rw [Value.isStorable_datum] at hvast
    simp [codec, Document.parse_eq_none hassigns ⟨a, hinside, hvast⟩]

/-! ## Writing records -/

namespace Key

/-- A bare key has a first character, and all that it has are bare. -/
theorem exists_cons_of_isBareKey {key : String} (hbare : Codec.isBareKey key) :
    ∃ c cs, key.toList = c :: cs ∧ ∀ d ∈ c :: cs, isBare d := by
  simp only [Codec.isBareKey, Bool.and_eq_true, List.all_eq_true] at hbare
  obtain ⟨hfilled, hall⟩ := hbare
  cases hshape : key.toList with
  | nil => simp [hshape] at hfilled
  | cons c cs => exact ⟨c, cs, rfl, hshape ▸ hall⟩

theorem ne_of_isBare {c d : Char} (hbare : isBare c) (hother : isBare d = false) : c ≠ d := by
  rintro rfl
  simp [hbare] at hother

theorem skipBlanks_of_isBare {c : Char} (hbare : isBare c) (more : List Char) :
    skipBlanks (c :: more) = c :: more := by
  have hspace : c ≠ ' ' := ne_of_isBare hbare rfl
  have htab : c ≠ '\t' := ne_of_isBare hbare rfl
  exact List.dropWhile_cons_of_neg (by simp [isBlank, hspace, htab])

theorem part_of_isBare {c : Char} {cs : List Char} (hall : ∀ d ∈ c :: cs, isBare d)
    (rest : List Char) :
    part (c :: cs ++ ' ' :: '=' :: rest) = some (String.ofList (c :: cs), '=' :: rest) := by
  have hfirst : isBare c := hall c List.mem_cons_self
  have hdouble : c ≠ '"' := ne_of_isBare hfirst rfl
  have hsingle : c ≠ '\'' := ne_of_isBare hfirst rfl
  have hunquoted : Quoted.short (c :: cs ++ ' ' :: '=' :: rest) = none := by
    simp [Quoted.short, Quoted.line, Reader.orElse, Reader.exactly, hdouble, hsingle]
  have htaken : (c :: cs ++ ' ' :: '=' :: rest).takeWhile isBare = c :: cs := by
    rw [List.takeWhile_append_of_pos hall, List.takeWhile_cons_of_neg (by decide), List.append_nil]
  have hname : bare (c :: cs ++ ' ' :: '=' :: rest) = some (c :: cs, ' ' :: '=' :: rest) := by
    simp only [bare, htaken, List.drop_left]
    rfl
  have hvisible : skipBlanks (c :: cs ++ ' ' :: '=' :: rest) = c :: cs ++ ' ' :: '=' :: rest :=
    skipBlanks_of_isBare hfirst _
  simp only [part, Reader.orElse, hvisible, hunquoted, hname]
  rfl

/-- A bare key is read in front of an equals sign. -/
theorem read_of_isBareKey {key : String} (hbare : Codec.isBareKey key) (rest : List Char) :
    read (key.toList ++ ' ' :: '=' :: rest) = some (single key, '=' :: rest) := by
  obtain ⟨c, cs, hshape, hall⟩ := exists_cons_of_isBareKey hbare
  have hpart := part_of_isBare hall rest
  rw [← hshape, String.ofList_toList] at hpart
  have hread : Reader.separated (Reader.exactly '.') part (key.toList ++ ' ' :: '=' :: rest) =
      some ([key], '=' :: rest) := by
    simp [Reader.separated, hpart, Reader.many, Reader.manyWithin, Reader.exactly]
  simp [read, hread, maxParts, ofParts?]

end Key

/-- The value of a field. -/
def Value.ofScalar : Scalar → Value
  | .integer n => .integer n
  | .flag b => .boolean b

@[simp]
theorem Value.datum_ofScalar (value : Scalar) : (ofScalar value).datum = .scalar value := by
  cases value <;> rfl

namespace Record

/-- The assignments of a record. -/
def assignments (fields : List (String × Option Scalar)) : List (Key × Value) :=
  fields.filterMap fun field => field.2.map fun value => (Key.single field.1, .ofScalar value)

/-- A value as written is read as that value. -/
theorem spells_valueText (value : Scalar) (rest : List Char) :
    skipBlanks (valueText value ++ '\n' :: rest) = valueText value ++ '\n' :: rest ∧
      Spells (valueText value ++ '\n' :: rest) (.ofScalar value) ('\n' :: rest) := by
  cases value with
  | flag b =>
    cases b
    · exact ⟨rfl, .read rfl⟩
    · exact ⟨rfl, .read rfl⟩
  | integer n =>
    have hends : EndsValue ('\n' :: rest) := by
      rintro c more hshape
      cases hshape
      simp
    have hfound : Number.unboundedInteger (valueText (.integer n) ++ '\n' :: rest) =
        some (n, '\n' :: rest) := by
      rw [valueText]
      split
      · next hnegative =>
        rw [List.cons_append, Number.unboundedInteger_minus _ hends,
          Int.ofNat_natAbs_of_nonpos (Int.le_of_lt hnegative), Int.neg_neg]
      · next hnatural =>
        rw [Number.unboundedInteger_toDigits _ hends, Int.natAbs_of_nonneg (Int.not_lt.mp hnatural)]
    exact ⟨Number.skipBlanks_of_unboundedInteger hfound, .integer hfound⟩

/-- The line of a field with a value assigns it to the key. -/
theorem assigns_line {key : String} (hbare : Codec.isBareKey key) (value : Scalar)
    {rest : List Char} {later : List (Key × Value)} (hlater : Assigns rest later) :
    Assigns (line (key, some value) ++ rest) ((Key.single key, .ofScalar value) :: later) := by
  obtain ⟨hvisible, hspelled⟩ := spells_valueText value rest
  have hshape : line (key, some value) ++ rest =
      key.toList ++ ' ' :: '=' :: (' ' :: (valueText value ++ '\n' :: rest)) := by
    simp [line]
  have hnamed := Key.read_of_isBareKey hbare (' ' :: (valueText value ++ '\n' :: rest))
  obtain ⟨c, cs, hkey, hall⟩ := Key.exists_cons_of_isBareKey hbare
  have hunblank : skipBlanks (line (key, some value) ++ rest) = line (key, some value) ++ rest := by
    rw [hshape, hkey]
    exact Key.skipBlanks_of_isBare (hall c List.mem_cons_self) _
  rw [← hshape, ← hunblank] at hnamed
  have hspelled : Spells (skipBlanks (' ' :: (valueText value ++ '\n' :: rest)))
      (.ofScalar value) ('\n' :: rest) := hvisible.symm ▸ hspelled
  exact .cons hnamed hspelled rfl hlater

variable {fields : List (String × Option Scalar)}

theorem assigns_lines (hbare : ∀ field ∈ fields, Codec.isBareKey field.1) :
    Assigns (fields.flatMap line) (assignments fields) := by
  induction fields with
  | nil => exact .nil rfl
  | cons field fields ih =>
    obtain ⟨hfirst, hrest⟩ := List.forall_mem_cons.mp hbare
    obtain ⟨key, value⟩ := field
    cases value with
    | none => exact ih hrest
    | some value => exact assigns_line hfirst value (ih hrest)

/-- No mark stands in front of the lines. -/
theorem skipMark_lines (hbare : ∀ field ∈ fields, Codec.isBareKey field.1) :
    Statement.skipMark (fields.flatMap line) = fields.flatMap line := by
  induction fields with
  | nil => rfl
  | cons field fields ih =>
    obtain ⟨hfirst, hrest⟩ := List.forall_mem_cons.mp hbare
    obtain ⟨key, value⟩ := field
    cases value with
    | none => exact ih hrest
    | some value =>
      obtain ⟨c, cs, hkey, hall⟩ := Key.exists_cons_of_isBareKey hfirst
      have hplain : c ≠ Char.ofNat 0xFEFF :=
        Key.ne_of_isBare (hall c List.mem_cons_self) (by decide)
      simp [line, hkey, Statement.skipMark, hplain]

theorem mem_assignments {a : Key × Value} :
    a ∈ assignments fields ↔
      ∃ key value, (key, some value) ∈ fields ∧ a = (Key.single key, .ofScalar value) := by
  simp only [assignments, List.mem_filterMap, Option.map_eq_some_iff, Prod.exists]
  constructor
  · rintro ⟨key, _, hinside, value, rfl, rfl⟩
    exact ⟨key, value, hinside, rfl⟩
  · rintro ⟨key, value, hinside, rfl⟩
    exact ⟨key, some value, hinside, value, rfl, rfl⟩

theorem apart_assignments (hdistinct : (fields.map Prod.fst).Nodup) :
    (assignments fields).Pairwise fun a b => a.1.Apart b.1 := by
  rw [assignments, List.pairwise_filterMap]
  rw [List.nodup_iff_pairwise_ne, List.pairwise_map] at hdistinct
  refine hdistinct.imp ?_
  rintro ⟨key, value⟩ ⟨other, value'⟩ hdifferent a ha b hb
  obtain ⟨v, rfl, rfl⟩ := Option.map_eq_some_iff.mp ha
  obtain ⟨v', rfl, rfl⟩ := Option.map_eq_some_iff.mp hb
  simpa [Key.Apart, Key.parts, Key.single, eq_comm] using hdifferent

end Record

theorem codec_writesReadably : codec.WritesReadably where
  refuses := by
    rintro fields ⟨field, hinside, value, hvalue, hvast⟩
    refine ⟨Record.outOfRange, if_neg fun hall => ?_⟩
    simpa [hvalue, hvast] using List.all_eq_true.mp hall field hinside
  writes := by
    intro fields hdistinct hbare hstorable
    have hwritten : codec.text fields = .ok (fields.flatMap Record.line) :=
      if_pos (List.all_eq_true.mpr fun field hinside =>
        (Option.all_eq_true ..).mpr (hstorable field hinside))
    have hassigns := Record.assigns_lines hbare
    rw [← Record.skipMark_lines hbare] at hassigns
    have hstorable' : ∀ a ∈ Record.assignments fields, a.2.isStorable := by
      intro a hinside
      obtain ⟨key, value, hfield, rfl⟩ := Record.mem_assignments.mp hinside
      have hvalue := hstorable _ hfield value rfl
      rwa [← Value.isStorable_datum, Value.datum_ofScalar]
    obtain ⟨entries, hparsed, hshows, hmissing⟩ :=
      Document.parse_of_assigns hassigns (Record.apart_assignments hdistinct) hstorable'
    refine ⟨_, entries.data, hwritten, by simp [codec, hparsed], ?_⟩
    rintro ⟨key, value⟩ hfield
    rw [Entries.lookup_data]
    cases value with
    | some value =>
      have hshown : entries.lookup key = some (.ofScalar value) :=
        hshows _ (Record.mem_assignments.mpr ⟨key, value, hfield, rfl⟩)
      simp [hshown]
    | none =>
      -- Another field of that key would be the same field.
      have hunset : entries.lookup key = none := by
        apply hmissing
        rintro a hinside rfl
        obtain ⟨key', value', hfield', rfl⟩ := Record.mem_assignments.mp hinside
        cases List.inj_on_of_nodup_map hdistinct hfield hfield' rfl
      simp [hunset]

end Toml
end DesktopCapture
