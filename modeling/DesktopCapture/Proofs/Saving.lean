import DesktopCapture.Proofs.Settings

/-!
# Saving and loading

A savable configuration is written as a record of its fields, and each field is found
again in the document of the text.  So it is read back from there
(`IsSavable.render_and_parse`), whatever its values are, if only its numbers of 64 bits
are integers of documents.  What the text looks like does not matter, nor how it is read:
any codec will do that decodes by type and writes readably.

At one place, a save that is refused leaves everything as it was and any other replaces
all there was, so the last configuration that could be saved is the one that is loaded
(`last_saved_is_loaded`).  Loading touches nothing but a vacant place, and what it puts
there is what it takes from there when it is called again (`loading_keeps_files`).
-/

namespace DesktopCapture
namespace Config

section Written

variable {config : Config}

theorem mem_fields {field : String × Option Scalar} :
    field ∈ Codec.fields config ↔
      ∃ setting : Setting, field = (setting.key, setting.value config) := by
  constructor
  · intro hfield
    simp only [Codec.fields, List.mem_cons, List.not_mem_nil, or_false] at hfield
    obtain rfl | rfl | rfl | rfl | rfl := hfield
    exacts [⟨.monitor, rfl⟩, ⟨.showPreview, rfl⟩, ⟨.frameInterval, rfl⟩, ⟨.maxFrames, rfl⟩,
      ⟨.debug, rfl⟩]
  · rintro ⟨setting, rfl⟩
    cases setting <;> simp [Codec.fields, Setting.key, Setting.value]

theorem nodup_keys (config : Config) : ((Codec.fields config).map Prod.fst).Nodup := by
  simp [Codec.fields]

theorem Setting.isBareKey_key (setting : Setting) : Codec.isBareKey setting.key := by
  cases setting <;> decide

theorem isBareKey_of_mem_fields {field : String × Option Scalar}
    (hfield : field ∈ Codec.fields config) : Codec.isBareKey field.1 := by
  obtain ⟨setting, rfl⟩ := mem_fields.mp hfield
  exact setting.isBareKey_key

/-- Both numbers of 64 bits are integers of documents, which go up to 2⁶³ - 1. -/
def IsSavable (config : Config) : Prop :=
  config.frameInterval.toNat ≤ 0x7FFFFFFFFFFFFFFF ∧
    ∀ n, config.maxFrames = some n → n.toNat ≤ 0x7FFFFFFFFFFFFFFF

instance (config : Config) : Decidable config.IsSavable :=
  decidable_of_iff
    (config.frameInterval.toNat ≤ 0x7FFFFFFFFFFFFFFF ∧
      config.maxFrames.all fun n => n.toNat ≤ 0x7FFFFFFFFFFFFFFF)
    (by simp [IsSavable, Option.all_eq_true])

/-- The savable configurations are those with all values storable. -/
theorem isSavable_iff :
    config.IsSavable ↔
      ∀ (setting : Setting) v, setting.value config = some v → v.isStorable := by
  have hsmall := config.monitor.toNat_lt
  constructor
  · rintro ⟨hinterval, hframes⟩ setting v hheld
    cases setting <;> grind [Setting.value, Scalar.isStorable, Option.map_eq_some_iff]
  · intro hall
    refine ⟨?_, fun n hframes => ?_⟩
    · have hstorable := hall .frameInterval _ rfl
      grind [Scalar.isStorable]
    · have hstorable := hall .maxFrames (.integer n.toNat) (by simp [Setting.value, hframes])
      grind [Scalar.isStorable]

variable {codec : Codec}

/-- A savable configuration has a text and is read back from it. -/
theorem IsSavable.render_and_parse (hsavable : config.IsSavable)
    (hdecodes : codec.DecodesByType) (hwrites : codec.WritesReadably) :
    ∃ text, codec.render config = .ok text ∧ codec.parse? text = some config := by
  have hstorable : ∀ field ∈ Codec.fields config, ∀ v, field.2 = some v → v.isStorable := by
    intro field hfield v hheld
    obtain ⟨setting, rfl⟩ := mem_fields.mp hfield
    exact isSavable_iff.mp hsavable setting v hheld
  obtain ⟨text, document, hwritten, hread, hlooks⟩ :=
    hwrites.writes (nodup_keys config) (fun _ => isBareKey_of_mem_fields) hstorable
  have hmade : codec.decode? document = some config := by
    rw [decode?_eq_some_iff hdecodes]
    intro setting
    have hfound : document.lookup setting.key = setting.datum config :=
      hlooks _ (mem_fields.mpr ⟨setting, rfl⟩)
    rw [hfound]
    -- The one value that may be left out is missing in the standard configuration too.
    cases setting with
    | maxFrames =>
      cases hframes : config.maxFrames <;>
        simp [Setting.datum, Setting.value, hframes, standard]
    | _ => rfl
  exact ⟨text, hwritten, by rw [Codec.parse?, hread, Option.bind_some, hmade]⟩

/-- Any other configuration has none. -/
theorem render_of_not_savable (hvast : ¬config.IsSavable) (hwrites : codec.WritesReadably) :
    ∃ cause, codec.render config = .error cause := by
  simp only [isSavable_iff, not_forall, Bool.not_eq_true] at hvast
  obtain ⟨setting, v, hheld, hunstorable⟩ := hvast
  exact hwrites.refuses ⟨_, mem_fields.mpr ⟨setting, rfl⟩, v, hheld, hunstorable⟩

end Written

/-- The place after attempts to save configurations one after the other. -/
def placeAfterSaves (codec : Codec) (configs : List Config) (place : Place) : Place :=
  configs.foldl (fun place config => config.placeAfterSave codec place) place

section Saved

variable {codec : Codec} {config : Config} {place : Place} {text : List Char}

theorem save_of_render (hplace : place.obstacle? = none)
    (hrender : codec.render config = .ok text) :
    config.save codec place = .ok (.file (Utf8.encode text)) := by
  simp [save, hrender, Place.write, hplace, Except.mapError]

theorem save_of_not_savable (hwrites : codec.WritesReadably) (hvast : ¬config.IsSavable)
    (place : Place) : ∃ cause, config.save codec place = .error (.serialize cause) := by
  obtain ⟨cause, hrender⟩ := render_of_not_savable hvast hwrites
  exact ⟨cause, by simp [save, hrender]⟩

theorem placeAfterSaves_cons (config : Config) (configs : List Config) (place : Place) :
    placeAfterSaves codec (config :: configs) place =
      placeAfterSaves codec configs (config.placeAfterSave codec place) := rfl

theorem placeAfterSaves_append (earlier later : List Config) (place : Place) :
    placeAfterSaves codec (earlier ++ later) place =
      placeAfterSaves codec later (placeAfterSaves codec earlier place) :=
  List.foldl_append ..

theorem placeAfterSave_of_not_savable (hwrites : codec.WritesReadably)
    (hvast : ¬config.IsSavable) (place : Place) : config.placeAfterSave codec place = place := by
  obtain ⟨cause, hrefused⟩ := save_of_not_savable hwrites hvast place
  rw [placeAfterSave, hrefused]

/-- What is saved somewhere can be replaced there. -/
theorem obstacle?_placeAfterSave (hplace : place.obstacle? = none) (config : Config) :
    (config.placeAfterSave codec place).obstacle? = none := by
  cases hrender : codec.render config with
  | error cause => simpa [placeAfterSave, save, hrender] using hplace
  | ok text =>
    rw [placeAfterSave, save_of_render hplace hrender]
    rfl

theorem obstacle?_placeAfterSaves (hplace : place.obstacle? = none) (configs : List Config) :
    (placeAfterSaves codec configs place).obstacle? = none := by
  induction configs generalizing place with
  | nil => exact hplace
  | cons config configs ih => exact ih (obstacle?_placeAfterSave hplace config)

theorem placeAfterSaves_of_not_savable (hwrites : codec.WritesReadably) {configs : List Config}
    (hvast : ∀ config ∈ configs, ¬config.IsSavable) (place : Place) :
    placeAfterSaves codec configs place = place := by
  induction configs with
  | nil => rfl
  | cons config configs ih =>
    obtain ⟨hfirst, hrest⟩ := List.forall_mem_cons.mp hvast
    rw [placeAfterSaves_cons, placeAfterSave_of_not_savable hwrites hfirst]
    exact ih hrest

theorem ofOctets_of_parse? (hparse : codec.parse? text = some config) :
    ofOctets codec (Utf8.encode text) = .ok config := by
  rw [ofOctets_encode, hparse]

end Saved

/-- Whatever was saved before at a place that can be written to, a configuration is saved
there exactly if it is savable; if it is not, that is the error, and the place stays as it
is.  Loading then takes the last of all configurations that was saved. -/
theorem last_saved_is_loaded {codec : Codec} (hdecodes : codec.DecodesByType)
    (hwrites : codec.WritesReadably) {place : Place} (hplace : place.obstacle? = none)
    (configs : List Config) :
    (∀ config : Config,
      (config.IsSavable → ∃ text, codec.render config = .ok text ∧
        config.save codec (placeAfterSaves codec configs place) =
          .ok (.file (Utf8.encode text))) ∧
      (¬config.IsSavable →
        (∃ cause, config.save codec (placeAfterSaves codec configs place) =
          .error (.serialize cause)) ∧
        placeAfterSaves codec (configs ++ [config]) place =
          placeAfterSaves codec configs place)) ∧
    (∀ earlier config later, configs = earlier ++ config :: later → config.IsSavable →
      (∀ other ∈ later, ¬other.IsSavable) →
      loadOrCreate codec (placeAfterSaves codec configs place) =
        (.ok config, placeAfterSaves codec configs place)) ∧
    ((∀ config ∈ configs, ¬config.IsSavable) →
      placeAfterSaves codec configs place = place) := by
  have hplace' : (placeAfterSaves codec configs place).obstacle? = none :=
    obstacle?_placeAfterSaves hplace configs
  refine ⟨fun config => ⟨fun hsavable => ?_, fun hvast => ⟨?_, ?_⟩⟩, ?_, fun hvast => ?_⟩
  · obtain ⟨text, hrender, -⟩ := hsavable.render_and_parse hdecodes hwrites
    exact ⟨text, hrender, save_of_render hplace' hrender⟩
  · exact save_of_not_savable hwrites hvast _
  · rw [placeAfterSaves_append,
      placeAfterSaves_of_not_savable hwrites (by simpa using hvast)]
  · rintro earlier config later rfl hsavable hvast
    obtain ⟨text, hrender, hparse⟩ := hsavable.render_and_parse hdecodes hwrites
    -- What was saved later was refused, and what was saved before is gone.
    have hkept : placeAfterSaves codec (earlier ++ config :: later) place =
        .file (Utf8.encode text) := by
      rw [placeAfterSaves_append, placeAfterSaves_cons,
        placeAfterSaves_of_not_savable hwrites hvast, placeAfterSave,
        save_of_render (obstacle?_placeAfterSaves hplace earlier) hrender]
    rw [hkept]
    simp only [loadOrCreate, Place.opened, ofOpened, Opened.read, ofOctets_of_parse? hparse]
  · exact placeAfterSaves_of_not_savable hwrites hvast place

/-- A first configuration is loaded from where none was before, also after a second one
was refused. -/
theorem last_saved_is_loaded_after_refusal :
    Toml.codec.DecodesByType ∧ Toml.codec.WritesReadably ∧ Place.vacant.obstacle? = none ∧
      loadOrCreate Toml.codec (placeAfterSaves Toml.codec
        [⟨3, false, 40, some 9, true⟩, ⟨0, true, 0x8000000000000000, none, false⟩] .vacant) =
        (.ok ⟨3, false, 40, some 9, true⟩, placeAfterSaves Toml.codec
          [⟨3, false, 40, some 9, true⟩, ⟨0, true, 0x8000000000000000, none, false⟩]
          .vacant) := by
  have hplace : Place.vacant.obstacle? = none := rfl
  refine ⟨Toml.codec_decodesByType, Toml.codec_writesReadably, hplace,
    (last_saved_is_loaded Toml.codec_decodesByType Toml.codec_writesReadably hplace _).2.1
      [] _ [_] rfl (by decide) ?_⟩
  intro other hinside
  obtain rfl := List.mem_singleton.mp hinside
  decide

/-- The results of loading a number of times in a row, and the place afterwards. -/
def loads (codec : Codec) : Nat → Place → List (Except LoadError Config) × Place
  | 0, place => ([], place)
  | n + 1, place =>
    let (result, after) := loadOrCreate codec place
    let (results, last) := loads codec n after
    (result :: results, last)

section Loaded

variable {codec : Codec} {place : Place} {octets : List UInt8} {config : Config}

theorem ofOctets_eq_notUtf8_iff :
    ofOctets codec octets = .error (.cannotRead .notUtf8) ↔
      ∀ text, octets ≠ Utf8.encode text := by
  rw [← Utf8.decode?_eq_none_iff, ofOctets]
  cases Utf8.decode? octets with
  | none => simp
  | some text => cases hfound : codec.parse? text <;> simp [hfound]

theorem ofOctets_eq_invalid_iff :
    ofOctets codec octets = .error .invalid ↔
      ∃ text, octets = Utf8.encode text ∧ codec.parse? text = none := by
  simp only [← Utf8.decode?_eq_some_iff, ofOctets]
  cases Utf8.decode? octets with
  | none => simp
  | some text => cases hfound : codec.parse? text <;> simp [hfound]

theorem ofOctets_eq_ok_iff :
    ofOctets codec octets = .ok config ↔
      ∃ text, octets = Utf8.encode text ∧ codec.parse? text = some config := by
  simp only [← Utf8.decode?_eq_some_iff, ofOctets]
  cases Utf8.decode? octets with
  | none => simp
  | some text => cases hfound : codec.parse? text <;> simp [hfound]

theorem loadOrCreate_keeps (htaken : place ≠ .vacant) : (loadOrCreate codec place).2 = place := by
  cases place with
  | vacant => exact absurd rfl htaken
  | parentMissing =>
    -- There is nothing there, but nothing can be put there either.
    cases hrender : codec.render standard <;>
      simp [loadOrCreate, Place.opened, save, hrender, Place.write, Place.obstacle?,
        Except.mapError]
  | _ => rfl

variable (hdecodes : codec.DecodesByType) (hwrites : codec.WritesReadably)
include hdecodes hwrites

/-- A vacant place takes the standard configuration. -/
theorem loadOrCreate_vacant :
    ∃ text, loadOrCreate codec .vacant = (.ok standard, .file (Utf8.encode text)) ∧
      codec.parse? text = some standard := by
  have hsavable : standard.IsSavable := by decide
  obtain ⟨text, hrender, hparse⟩ := hsavable.render_and_parse hdecodes hwrites
  have hsaved : standard.save codec .vacant = .ok (.file (Utf8.encode text)) :=
    save_of_render rfl hrender
  exact ⟨text, by simp only [loadOrCreate, Place.opened, hsaved], hparse⟩

theorem loadOrCreate_again (place : Place) :
    loadOrCreate codec (loadOrCreate codec place).2 = loadOrCreate codec place := by
  by_cases hvacant : place = .vacant
  · subst hvacant
    obtain ⟨text, hloaded, hparse⟩ := loadOrCreate_vacant hdecodes hwrites
    rw [hloaded]
    simp only [loadOrCreate, Place.opened, ofOpened, Opened.read, ofOctets_of_parse? hparse]
  · rw [loadOrCreate_keeps hvacant]

theorem loadOrCreate_fills (place : Place) : (loadOrCreate codec place).2 ≠ .vacant := by
  by_cases hvacant : place = .vacant
  · obtain ⟨text, hloaded, -⟩ := loadOrCreate_vacant hdecodes hwrites
    simp [hvacant, hloaded]
  · rwa [loadOrCreate_keeps hvacant]

/-- However often loading is repeated, it does what the first time does. -/
theorem loads_succ (n : Nat) (place : Place) :
    loads codec (n + 1) place =
      (List.replicate (n + 1) (loadOrCreate codec place).1, (loadOrCreate codec place).2) := by
  induction n generalizing place with
  | zero => rfl
  | succ n ih =>
    rw [loads]
    simp only [ih, loadOrCreate_again hdecodes hwrites]
    rfl

end Loaded

/-- A file stays octet for octet as it is, whether it holds no text, a text that is refused
or a configuration.  A vacant place takes a file that holds the standard configuration, and
no other place changes.  Loading any number of times in a row gives the first result each
time, and after the first time nothing is left to write. -/
theorem loading_keeps_files {codec : Codec} (hdecodes : codec.DecodesByType)
    (hwrites : codec.WritesReadably) :
    (∀ octets,
      loadOrCreate codec (.file octets) = (ofOctets codec octets, .file octets) ∧
      (ofOctets codec octets = .error (.cannotRead .notUtf8) ↔
        ∀ text, octets ≠ Utf8.encode text) ∧
      (ofOctets codec octets = .error .invalid ↔
        ∃ text, octets = Utf8.encode text ∧ codec.parse? text = none) ∧
      ∀ config, ofOctets codec octets = .ok config ↔
        ∃ text, octets = Utf8.encode text ∧ codec.parse? text = some config) ∧
    (∃ text, loadOrCreate codec .vacant = (.ok standard, .file (Utf8.encode text)) ∧
      codec.parse? text = some standard) ∧
    (∀ place, place ≠ .vacant → (loadOrCreate codec place).2 = place) ∧
    ∀ n place,
      loads codec (n + 1) place =
        (List.replicate (n + 1) (loadOrCreate codec place).1, (loadOrCreate codec place).2) ∧
      (loads codec (n + 1) place).2 ≠ .vacant := by
  refine ⟨fun octets => ⟨rfl, ofOctets_eq_notUtf8_iff, ofOctets_eq_invalid_iff,
    fun config => ofOctets_eq_ok_iff⟩, loadOrCreate_vacant hdecodes hwrites,
    fun place => loadOrCreate_keeps, fun n place => ?_⟩
  have hall := loads_succ hdecodes hwrites n place
  exact ⟨hall, by rw [hall]; exact loadOrCreate_fills hdecodes hwrites place⟩

/-- Of three loads of a vacant place the first one writes, and all of them give the standard
configuration; a file that is no text is refused twice and stays. -/
theorem loading_keeps_files_thrice :
    Toml.codec.DecodesByType ∧ Toml.codec.WritesReadably ∧
    (∃ text, loads Toml.codec 3 .vacant =
        ([.ok standard, .ok standard, .ok standard], .file (Utf8.encode text)) ∧
      Toml.codec.parse? text = some standard) ∧
    loads Toml.codec 2 (.file [0xFF]) =
      ([.error (.cannotRead .notUtf8), .error (.cannotRead .notUtf8)], .file [0xFF]) := by
  obtain ⟨-, ⟨text, hloaded, hparse⟩, -, hrepeated⟩ :=
    loading_keeps_files Toml.codec_decodesByType Toml.codec_writesReadably
  refine ⟨Toml.codec_decodesByType, Toml.codec_writesReadably, ⟨text, ?_, hparse⟩, ?_⟩
  · rw [(hrepeated 2 .vacant).1, hloaded]
    rfl
  · exact (hrepeated 1 (.file [0xFF])).1

end Config
end DesktopCapture
