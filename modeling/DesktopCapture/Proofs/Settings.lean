import DesktopCapture.Config.File
import DesktopCapture.Proofs.Coding
import DesktopCapture.Proofs.Encoding

/-!
# Settings

A text sets the fields of a configuration by assignments to their keys.  What is read
from it holds for each field the value assigned to its key, or else the standard one,
wherever the assignments stand and whatever other keys are assigned besides.  A value
that does not fit its field spoils the whole text, also when it is an integer too large
to be stored or a table that a dotted key brought along.

This is so with every codec that decodes by type and reads texts of assignments.  A field
is known here by its `Setting`, so that all five are spoken of at once: a configuration
is decoded from a document exactly when every field holds what the document says of it
(`decode?_eq_some_iff`), and such a configuration exists exactly when every value fits
(`exists_config`, `Setting.admits_of_datum`).
-/

namespace DesktopCapture
namespace Config

open Codec (Path DecodesByType ReadsAssignments)

/-- The fields of a configuration. -/
inductive Setting
  | monitor
  | showPreview
  | frameInterval
  | maxFrames
  | debug
deriving DecidableEq

namespace Setting

/-- The key of a field. -/
def key : Setting → String
  | .monitor => "monitor"
  | .showPreview => "show_preview"
  | .frameInterval => "frame_interval_ms"
  | .maxFrames => "max_frames"
  | .debug => "debug"

/-- The value of a field; a missing number of frames has none. -/
def value (config : Config) : Setting → Option Scalar
  | .monitor => some (.integer config.monitor.toNat)
  | .showPreview => some (.flag config.showPreview)
  | .frameInterval => some (.integer config.frameInterval.toNat)
  | .maxFrames => config.maxFrames.map fun n => .integer n.toNat
  | .debug => some (.flag config.debug)

/-- The value of a field in a document. -/
def datum (config : Config) (setting : Setting) : Option Datum :=
  (setting.value config).map .scalar

/-- Whether a value fits a field: an integer of 32 or of 63 bits without sign, or a truth
value. -/
def admits : Setting → Datum → Bool
  | .monitor, .scalar (.integer n) => 0 ≤ n && n ≤ 0xFFFFFFFF
  | .frameInterval, .scalar (.integer n) => 0 ≤ n && n ≤ 0x7FFFFFFFFFFFFFFF
  | .maxFrames, .scalar (.integer n) => 0 ≤ n && n ≤ 0x7FFFFFFFFFFFFFFF
  | .showPreview, .scalar (.flag _) => true
  | .debug, .scalar (.flag _) => true
  | _, _ => false

theorem isStorable_of_admits {setting : Setting} {v : Datum} (hfits : setting.admits v) :
    v.isStorable := by
  cases v with
  | scalar value =>
    cases value with
    | integer n => cases setting <;> grind [admits, Datum.isStorable, Scalar.isStorable]
    | flag b => rfl
  | other => rfl

end Setting

section Fields

variable {codec : Codec} {document : List (String × Datum)} {key : String} {α : Type}
  {read : Datum → Option α}

/-- A field has the value of its key, or the standard one without it. -/
theorem field?_eq_some_iff (hdecodes : codec.DecodesByType) {standard x : α}
    (write : α → Option Datum) (hinverse : ∀ v x, read v = some x ↔ some v = write x)
    (hinjective : Function.Injective write) :
    codec.field? document key read standard = some x ↔
      write x = (document.lookup key).or (write standard) := by
  cases hfound : document.lookup key with
  | none =>
    rw [hdecodes.missing read standard hfound]
    simp [hinjective.eq_iff, eq_comm]
  | some v =>
    rw [hdecodes.present read standard hfound]
    simp [hinverse, eq_comm]

/-- What is decoded from nothing but its own value is told by that value. -/
theorem write_injective {write : α → Scalar}
    (hread : ∀ v x, read v = some x ↔ v = .scalar (write x)) : Function.Injective write := by
  intro x y hsame
  have hx : read (.scalar (write x)) = some x := (hread _ x).mpr rfl
  rw [hsame, (hread _ y).mpr rfl] at hx
  exact (Option.some.inj hx).symm

theorem scalar_field (hdecodes : codec.DecodesByType) {write : α → Scalar}
    (hread : ∀ v x, read v = some x ↔ v = .scalar (write x)) {standard x : α} :
    codec.field? document key read standard = some x ↔
      some (.scalar (write x)) =
        (document.lookup key).or (some (.scalar (write standard))) := by
  apply field?_eq_some_iff hdecodes fun x => some (.scalar (write x))
  · simp [hread]
  · intro _ _ hsame
    exact write_injective hread (by simpa using hsame)

theorem optional_field (hdecodes : codec.DecodesByType) {write : α → Scalar}
    (hread : ∀ v x, read v = some x ↔ v = .scalar (write x)) {standard x : Option α} :
    codec.field? document key (codec.optional? read) standard = some x ↔
      (x.map write).map .scalar =
        (document.lookup key).or ((standard.map write).map .scalar) := by
  apply field?_eq_some_iff hdecodes fun x : Option α => (x.map write).map Datum.scalar
  · intro v x
    rw [hdecodes.optional]
    cases x <;> simp [hread]
  · simp only [Option.map_map]
    apply Option.map_injective
    intro _ _ hsame
    exact write_injective hread (Datum.scalar.inj hsame)

/-- The configuration of a document has for each field the value of its key, or the
standard one without it. -/
theorem decode?_eq_some_iff (hdecodes : codec.DecodesByType) {config : Config} :
    codec.decode? document = some config ↔
      ∀ setting : Setting,
        setting.datum config = (document.lookup setting.key).or (setting.datum standard) := by
  simp only [Codec.decode?, Option.bind_eq_bind, Option.bind_eq_some_iff,
    scalar_field hdecodes hdecodes.word32, scalar_field hdecodes hdecodes.word64,
    scalar_field hdecodes hdecodes.flag, optional_field hdecodes hdecodes.word64]
  constructor
  · rintro ⟨m, hm, p, hp, i, hi, f, hf, d, hd, hsame⟩ setting
    cases hsame
    cases setting <;> assumption
  · intro hall
    exact ⟨_, hall .monitor, _, hall .showPreview, _, hall .frameInterval, _, hall .maxFrames,
      _, hall .debug, rfl⟩

end Fields

/-- The fields are all there is to a configuration. -/
theorem eq_of_values {config other : Config}
    (hsame : ∀ setting : Setting, setting.value config = setting.value other) :
    config = other := by
  obtain ⟨monitor, showPreview, frameInterval, maxFrames, debug⟩ := config
  obtain ⟨monitor', showPreview', frameInterval', maxFrames', debug'⟩ := other
  have hmonitor := hsame .monitor
  have hpreview := hsame .showPreview
  have hinterval := hsame .frameInterval
  have hframes := hsame .maxFrames
  have hdebug := hsame .debug
  simp only [Setting.value, Option.some.injEq, Scalar.integer.injEq, Scalar.flag.injEq,
    Int.ofNat_inj, UInt32.toNat_inj, UInt64.toNat_inj] at hmonitor hpreview hinterval hdebug
  have hframes : maxFrames = maxFrames' := by
    apply Option.map_injective _ hframes
    intro _ _ hsame
    simpa [Int.ofNat_inj, UInt64.toNat_inj] using hsame
  subst_vars
  rfl

namespace Setting

theorem datum_inj {setting : Setting} {config other : Config} :
    setting.datum config = setting.datum other ↔ setting.value config = setting.value other := by
  have hinjective : Function.Injective Datum.scalar := fun _ _ => Datum.scalar.inj
  exact (Option.map_injective hinjective).eq_iff

/-- What a field holds fits it, if it can be stored. -/
theorem admits_of_datum {setting : Setting} {config : Config} {v : Datum}
    (hholds : setting.datum config = some v) (hstorable : v.isStorable) : setting.admits v := by
  have hsmall := config.monitor.toNat_lt
  cases setting <;>
    grind [datum, value, admits, Datum.isStorable, Scalar.isStorable, Option.map_eq_some_iff]

theorem exists_word32 {n : Int} (hrange : 0 ≤ n ∧ n ≤ 0xFFFFFFFF) :
    ∃ m : UInt32, (m.toNat : Int) = n := by
  have hsmall : n.toNat < UInt32.size := by simp only [UInt32.size]; omega
  exact ⟨UInt32.ofNat n.toNat,
    by rw [UInt32.toNat_ofNat_of_lt' hsmall, Int.toNat_of_nonneg hrange.1]⟩

theorem exists_word64 {n : Int} (hrange : 0 ≤ n ∧ n ≤ 0x7FFFFFFFFFFFFFFF) :
    ∃ m : UInt64, (m.toNat : Int) = n := by
  have hsmall : n.toNat < UInt64.size := by simp only [UInt64.size]; omega
  exact ⟨UInt64.ofNat n.toNat,
    by rw [UInt64.toNat_ofNat_of_lt' hsmall, Int.toNat_of_nonneg hrange.1]⟩

/-- A value that fits a field is held by it in some configuration. -/
theorem exists_of_admits {setting : Setting} {v : Datum} (hfits : setting.admits v) :
    ∃ config, setting.datum config = some v := by
  cases v with
  | scalar value =>
    cases value with
    | integer n =>
      cases setting with
      | monitor =>
        obtain ⟨m, rfl⟩ := exists_word32 (by simpa [admits] using hfits)
        exact ⟨{ standard with monitor := m }, rfl⟩
      | frameInterval =>
        obtain ⟨m, rfl⟩ := exists_word64 (by simpa [admits] using hfits)
        exact ⟨{ standard with frameInterval := m }, rfl⟩
      | maxFrames =>
        obtain ⟨m, rfl⟩ := exists_word64 (by simpa [admits] using hfits)
        exact ⟨{ standard with maxFrames := some m }, rfl⟩
      | _ => cases hfits
    | flag b =>
      cases setting with
      | showPreview => exact ⟨{ standard with showPreview := b }, rfl⟩
      | debug => exact ⟨{ standard with debug := b }, rfl⟩
      | _ => cases hfits
  | other => cases setting <;> cases hfits

end Setting

/-- A document whose values fit their fields has a configuration. -/
theorem exists_config {codec : Codec} (hdecodes : codec.DecodesByType)
    {document : List (String × Datum)}
    (hfits : ∀ (setting : Setting) v, document.lookup setting.key = some v → setting.admits v) :
    ∃ config, codec.decode? document = some config := by
  have heach : ∀ setting : Setting, ∃ config,
      setting.datum config = (document.lookup setting.key).or (setting.datum standard) := by
    intro setting
    cases hfound : document.lookup setting.key with
    | none => exact ⟨standard, rfl⟩
    | some v => exact Setting.exists_of_admits (hfits setting v hfound)
  -- Each field is taken from a configuration that suits it alone.
  obtain ⟨source, hholds⟩ := Classical.skolem.mp heach
  refine ⟨⟨(source .monitor).monitor, (source .showPreview).showPreview,
    (source .frameInterval).frameInterval, (source .maxFrames).maxFrames,
    (source .debug).debug⟩, (decode?_eq_some_iff hdecodes).mpr fun setting => ?_⟩
  cases setting with
  | monitor => exact hholds .monitor
  | showPreview => exact hholds .showPreview
  | frameInterval => exact hholds .frameInterval
  | maxFrames => exact hholds .maxFrames
  | debug => exact hholds .debug

/-- A text of assignments to keys that are apart.  The values under keys of other
programs are those of documents, whereas a field may also be assigned an integer that is
too large for any document. -/
structure IsListOf (Assigns : List Char → List (Path × Datum) → Prop) (text : List Char)
    (assignments : List (Path × Datum)) : Prop where
  assigns : Assigns text assignments
  apart : assignments.Pairwise fun a b => a.1.Apart b.1
  storable : ∀ a ∈ assignments,
    (∀ setting : Setting, a.1.head? ≠ some setting.key) → a.2.isStorable

/-- An assignment gives a field a value that fits it. -/
def Setting.Takes (setting : Setting) (assignment : Path × Datum) : Prop :=
  assignment.1 = [setting.key] ∧ setting.admits assignment.2

/-- Fields that are assigned have the values assigned to them, and the others the
standard ones. -/
def Follows (config : Config) (assignments : List (Path × Datum)) : Prop :=
  ∀ setting : Setting,
    (∀ v, ([setting.key], v) ∈ assignments → setting.datum config = some v) ∧
      ((∀ v, ([setting.key], v) ∉ assignments) → setting.value config = setting.value standard)

/-- No two configurations follow the same assignments. -/
theorem Follows.eq {config other : Config} {assignments others : List (Path × Datum)}
    (hfollows : config.Follows assignments) (hfollows' : other.Follows others)
    (hsame : ∀ (setting : Setting) v,
      ([setting.key], v) ∈ assignments ↔ ([setting.key], v) ∈ others) :
    config = other := by
  refine eq_of_values fun setting => ?_
  obtain ⟨hassigned, habsent⟩ := hfollows setting
  obtain ⟨hassigned', habsent'⟩ := hfollows' setting
  by_cases hpresent : ∃ v, ([setting.key], v) ∈ assignments
  · obtain ⟨v, hinside⟩ := hpresent
    rw [← Setting.datum_inj, hassigned v hinside, hassigned' v ((hsame setting v).mp hinside)]
  · have hmissing : ∀ v, ([setting.key], v) ∉ assignments := by simpa using hpresent
    rw [habsent hmissing, habsent' fun v => mt (hsame setting v).mpr (hmissing v)]

section Parsed

variable {codec : Codec} {Assigns : List Char → List (Path × Datum) → Prop} {text : List Char}
  {assignments : List (Path × Datum)}

theorem parse?_of_takes (hdecodes : codec.DecodesByType) (hreads : codec.ReadsAssignments Assigns)
    (hlist : IsListOf Assigns text assignments)
    (htakes : ∀ (setting : Setting), ∀ a ∈ assignments,
      a.1.head? = some setting.key → setting.Takes a) :
    ∃ config, codec.parse? text = some config ∧ config.Follows assignments := by
  have hstorable : ∀ a ∈ assignments, a.2.isStorable := by
    intro a hinside
    by_cases hknown : ∃ setting : Setting, a.1.head? = some setting.key
    · obtain ⟨setting, hconcerns⟩ := hknown
      exact Setting.isStorable_of_admits (htakes setting a hinside hconcerns).2
    · exact hlist.storable a hinside (by simpa using hknown)
  obtain ⟨document, hread, hshows, hbare⟩ :=
    hreads.reads hlist.assigns hlist.apart hstorable
  have hfound : ∀ (setting : Setting) v, ([setting.key], v) ∈ assignments →
      document.lookup setting.key = some v := fun setting v hinside => hshows _ hinside
  have hmissing : ∀ setting : Setting, (∀ v, ([setting.key], v) ∉ assignments) →
      document.lookup setting.key = none := by
    intro setting habsent
    apply hbare
    rintro ⟨path, v⟩ hinside hconcerns
    exact habsent v ((htakes setting _ hinside hconcerns).1 ▸ hinside)
  have hfits : ∀ (setting : Setting) v,
      document.lookup setting.key = some v → setting.admits v := by
    intro setting v hheld
    by_cases hassigned : ∃ v', ([setting.key], v') ∈ assignments
    · obtain ⟨v', hinside⟩ := hassigned
      obtain rfl : v' = v := Option.some.inj ((hfound setting v' hinside).symm.trans hheld)
      exact (htakes setting _ hinside rfl).2
    · simp [hmissing setting (by simpa using hassigned)] at hheld
  obtain ⟨config, hmade⟩ := exists_config hdecodes hfits
  have hvalues := (decode?_eq_some_iff hdecodes).mp hmade
  refine ⟨config, by simp [Codec.parse?, hread, hmade], fun setting => ?_⟩
  constructor
  · intro v hinside
    rw [hvalues, hfound setting v hinside, Option.some_or]
  · intro habsent
    rw [← Setting.datum_inj, hvalues, hmissing setting habsent, Option.none_or]

theorem parse?_eq_none (hdecodes : codec.DecodesByType) (hreads : codec.ReadsAssignments Assigns)
    (hlist : IsListOf Assigns text assignments) {setting : Setting} {a : Path × Datum}
    (hinside : a ∈ assignments) (hconcerns : a.1.head? = some setting.key)
    (hmisfit : ¬setting.Takes a) : codec.parse? text = none := by
  by_cases hstorable : ∀ a ∈ assignments, a.2.isStorable
  · obtain ⟨document, hread, hshows, -⟩ :=
      hreads.reads hlist.assigns hlist.apart hstorable
    rw [Codec.parse?, hread, Option.bind_some, Option.eq_none_iff_forall_ne_some]
    intro config hmade
    have hholds := (decode?_eq_some_iff hdecodes).mp hmade setting
    have hshown := hshows a hinside
    obtain ⟨path, v⟩ := a
    match path, hconcerns with
    | [_], rfl =>
      have hlooks : document.lookup setting.key = some v := hshown
      rw [hlooks, Option.some_or] at hholds
      exact hmisfit ⟨rfl, Setting.admits_of_datum hholds (hstorable _ hinside)⟩
    | _ :: _ :: _, rfl =>
      have hlooks : document.lookup setting.key = some .other := hshown
      rw [hlooks, Option.some_or] at hholds
      have htable := Setting.admits_of_datum hholds rfl
      cases setting <;> cases htable
  · rw [Codec.parse?, hreads.refuses hlist.assigns (by simpa using hstorable), Option.bind_none]

/-- Neither the order of the assignments nor those to other keys matter. -/
theorem parse?_congr (hdecodes : codec.DecodesByType) (hreads : codec.ReadsAssignments Assigns)
    {other : List Char} {others : List (Path × Datum)}
    (hlist : IsListOf Assigns text assignments) (hlist' : IsListOf Assigns other others)
    (hsame : ∀ (setting : Setting) a,
      a.1.head? = some setting.key → (a ∈ assignments ↔ a ∈ others)) :
    codec.parse? other = codec.parse? text := by
  by_cases htakes : ∀ (setting : Setting), ∀ a ∈ assignments,
      a.1.head? = some setting.key → setting.Takes a
  · have htakes' : ∀ (setting : Setting), ∀ a ∈ others,
        a.1.head? = some setting.key → setting.Takes a := fun setting a hinside hconcerns =>
      htakes setting a ((hsame setting a hconcerns).mpr hinside) hconcerns
    obtain ⟨config, hparsed, hfollows⟩ := parse?_of_takes hdecodes hreads hlist htakes
    obtain ⟨config', hparsed', hfollows'⟩ := parse?_of_takes hdecodes hreads hlist' htakes'
    rw [hparsed, hparsed', hfollows.eq hfollows' fun setting v => hsame setting _ rfl]
  · simp only [not_forall] at htakes
    obtain ⟨setting, a, hinside, hconcerns, hmisfit⟩ := htakes
    rw [parse?_eq_none hdecodes hreads hlist hinside hconcerns hmisfit,
      parse?_eq_none hdecodes hreads hlist' ((hsame setting a hconcerns).mp hinside) hconcerns
        hmisfit]

end Parsed

/-- What octets hold that encode a text. -/
theorem ofOctets_encode (codec : Codec) (text : List Char) :
    ofOctets codec (Utf8.encode text) =
      match codec.parse? text with
      | none => .error .invalid
      | some config => .ok config := by
  cases hparsed : codec.parse? text <;> simp [ofOctets, Utf8.decode?_encode, hparsed]

/-- A text of assignments is read as the standard configuration with exactly the assigned
values if all of these fit their fields, and is refused as soon as one does not.  Another
text with the same settings is read alike, in whatever order they come and whatever else it
assigns.  This holds whatever texts of assignments look like, if only the codec reads them
as such. -/
theorem settings_override_the_standard {codec : Codec} (hdecodes : codec.DecodesByType)
    {Assigns : List Char → List (Path × Datum) → Prop} (hreads : codec.ReadsAssignments Assigns)
    {text : List Char} {assignments : List (Path × Datum)}
    (hlist : IsListOf Assigns text assignments) :
    ((∀ (setting : Setting), ∀ a ∈ assignments,
        a.1.head? = some setting.key → setting.Takes a) →
      ∃ config, ofOctets codec (Utf8.encode text) = .ok config ∧ config.Follows assignments) ∧
    (∀ (setting : Setting), ∀ a ∈ assignments,
      a.1.head? = some setting.key → ¬setting.Takes a →
      ofOctets codec (Utf8.encode text) = .error .invalid) ∧
    ∀ (other : List Char) (others : List (Path × Datum)), IsListOf Assigns other others →
      (∀ (setting : Setting) a,
        a.1.head? = some setting.key → (a ∈ assignments ↔ a ∈ others)) →
      ofOctets codec (Utf8.encode other) = ofOctets codec (Utf8.encode text) := by
  refine ⟨fun htakes => ?_, fun setting a hinside hconcerns hmisfit => ?_,
    fun other others hlist' hsame => ?_⟩
  · obtain ⟨config, hparsed, hfollows⟩ := parse?_of_takes hdecodes hreads hlist htakes
    exact ⟨config, by rw [ofOctets_encode, hparsed], hfollows⟩
  · rw [ofOctets_encode, parse?_eq_none hdecodes hreads hlist hinside hconcerns hmisfit]
  · rw [ofOctets_encode, ofOctets_encode, parse?_congr hdecodes hreads hlist hlist' hsame]

section Mixed

open Toml

/-- A text with a comment, a blank line, a key of another program and three settings, of
which one is quoted and two are written in their own ways. -/
def mixedText : List Char :=
  "# log\ndebug = true # all\n'window #1'.size = [ 640, 480 ]\n\n".toList ++
    "max_frames = 1_20\n\"monitor\" = 0x2".toList

/-- The assignments of that text. -/
def mixedAssignments : List (Path × Datum) :=
  [(["debug"], .scalar (.flag true)), (["window #1", "size"], .other),
    (["max_frames"], .scalar (.integer 120)), (["monitor"], .scalar (.integer 2))]

theorem isListOf_mixedText : IsListOf Document.Lists mixedText mixedAssignments where
  assigns :=
    ⟨[(Key.single "debug", .boolean true),
      (⟨["window #1"], "size"⟩, .array [.integer 640, .integer 480]),
      (Key.single "max_frames", .integer 120), (Key.single "monitor", .integer 2)],
    .blank rfl (.cons rfl (.read rfl) rfl (.cons rfl (.read rfl) rfl
      (.blank rfl (.cons rfl (.read rfl) rfl (.cons rfl (.read rfl) rfl (.nil rfl)))))), rfl⟩
  apart := by decide
  storable := by
    have hall : ∀ a ∈ mixedAssignments, a.2.isStorable := by decide
    exact fun a hinside _ => hall a hinside

/-- The assignments of a text with one integer past the largest one. -/
def vastAssignments : List (Path × Datum) :=
  [(["max_frames"], .scalar (.integer 9223372036854775808))]

theorem isListOf_vastText :
    IsListOf Document.Lists "max_frames = 9223372036854775808".toList vastAssignments where
  assigns := ⟨[(Key.single "max_frames", .integer 9223372036854775808)],
    .cons rfl (.integer rfl) rfl (.nil rfl), rfl⟩
  apart := by decide
  storable := by
    intro a hinside hunknown
    obtain rfl := List.mem_singleton.mp hinside
    exact absurd rfl (hunknown .maxFrames)

/-- The codec of TOML documents reads a text in mixed order with its settings, and it does
not wrap an integer past the largest one but refuses it. -/
theorem settings_override_the_standard_mixed :
    codec.DecodesByType ∧ codec.ReadsAssignments Document.Lists ∧
    (IsListOf Document.Lists mixedText mixedAssignments ∧
      ∃ config, ofOctets codec (Utf8.encode mixedText) = .ok config ∧
        config.Follows mixedAssignments) ∧
    ofOctets codec (Utf8.encode "max_frames = 9223372036854775808".toList) =
      .error .invalid := by
  have htakes : ∀ (setting : Setting), ∀ a ∈ mixedAssignments,
      a.1.head? = some setting.key → setting.Takes a := by
    intro setting
    cases setting <;> unfold Setting.Takes <;> decide
  have hmisfit :
      ¬Setting.maxFrames.Takes (["max_frames"], .scalar (.integer 9223372036854775808)) := by
    unfold Setting.Takes
    decide
  refine ⟨codec_decodesByType, codec_readsAssignments, ⟨isListOf_mixedText, ?_⟩, ?_⟩
  · exact (settings_override_the_standard codec_decodesByType codec_readsAssignments
      isListOf_mixedText).1 htakes
  · exact (settings_override_the_standard codec_decodesByType codec_readsAssignments
      isListOf_vastText).2.1 .maxFrames _ List.mem_cons_self rfl hmisfit

end Mixed

end Config
end DesktopCapture
