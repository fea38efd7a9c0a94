import DesktopCapture.Proofs.ColorTags

/-!
# Copies between compatible textures

A native format belongs to a family, whose typeless member can be copied to and from any
other.  A frame of a known format is cached in a texture of the typeless member of its
family, so whatever the formats of the frames before were, the copy is between two formats of
one family, and between equal sizes.  A frame of a format that the library does not know is
cached without a format, and it shares its texture with any other such frame of its size.
-/

namespace DesktopCapture

open Capture

/-! ## Families of native formats -/

namespace NativeFormat

/-- The typeless member of the family of a format.  A format that is alone in its family
stands for itself. -/
def typeless (native : NativeFormat) : NativeFormat :=
  if native = ⟨28⟩ ∨ native = ⟨29⟩ then ⟨27⟩
  else if native = ⟨87⟩ ∨ native = ⟨91⟩ then ⟨90⟩
  else if native = ⟨88⟩ ∨ native = ⟨93⟩ then ⟨92⟩
  else native

/-- A texture of this format can hold a frame of the other one. -/
def Holds (destination source : NativeFormat) : Prop :=
  destination = source ∨ destination = source.typeless

instance (destination source : NativeFormat) : Decidable (destination.Holds source) :=
  inferInstanceAs (Decidable (_ ∨ _))

/-- The library has a format for it. -/
def IsKnown (native : NativeFormat) : Prop := ColorFormat.ofNative native ≠ .unknown

end NativeFormat

namespace ColorFormat

variable {native native' : NativeFormat}

theorem native_injective : Function.Injective ColorFormat.native :=
  Function.LeftInverse.injective ofNative_native

/-- What is forgotten of a format is which member of its family it is. -/
theorem native_generalize (format : ColorFormat) :
    format.generalize.native = format.native.typeless := by
  cases format <;> decide

theorem native_cached (hknown : native.IsKnown) : (cached native).native = native.typeless := by
  rw [cached, native_generalize, native_ofNative hknown]

theorem cached_eq_unknown_iff : cached native = .unknown ↔ ¬ native.IsKnown := by
  unfold NativeFormat.IsKnown cached
  cases ofNative native <;> simp [generalize]

/-- A frame of an unknown format is cached without a format. -/
theorem native_cached_unknown (hunknown : ¬ native.IsKnown) :
    (cached native).native = .unknown := by
  rw [cached_eq_unknown_iff.mpr hunknown]
  rfl

/-- Known formats that are cached alike are of one family, and a known format is never
cached like an unknown one. -/
theorem typeless_eq_of_cached_eq (hcached : cached native = cached native')
    (hknown : native.IsKnown ∨ native'.IsKnown) : native.typeless = native'.typeless := by
  have hboth : native.IsKnown ↔ native'.IsKnown := by
    rw [← not_iff_not, ← cached_eq_unknown_iff, hcached, cached_eq_unknown_iff]
  have hnative : native.IsKnown := hknown.elim id hboth.mpr
  rw [← native_cached hnative, hcached, native_cached (hboth.mp hnative)]

end ColorFormat

/-! ## The texture that a frame is copied into -/

namespace FrameCache

/-- The cached texture was allocated, with the size and the format remembered of it. -/
def IsBacked (journal : List Entry) (cache : FrameCache) : Prop :=
  ∀ texture, cache.texture = some texture →
    .call (.createTexture cache.size cache.format) (.texture texture) ∈ journal ∧
      texture.size = cache.size ∧ texture.format = cache.format.native

namespace Ingested

variable {cache cache' : FrameCache} {source : Texture} {hdr : Bool} {journal : List Entry}

theorem isBacked {past : List Entry} (hingested : cache.Ingested source hdr journal cache')
    (hbacked : cache.IsBacked past) : cache'.IsBacked (past ++ journal) := by
  cases hingested with
  | reused =>
      intro texture htexture
      obtain ⟨hallocated, hsize, hformat⟩ := hbacked texture htexture
      exact ⟨List.mem_append_left _ hallocated, hsize, hformat⟩
  | allocated hfits hsize hformat =>
      rintro texture ⟨⟩
      exact ⟨by simp, hsize, hformat⟩
  | unallocated => exact nofun

/-- A copy is one of the frame, into the texture that is cached from then on. -/
theorem eq_of_copy_mem (hingested : cache.Ingested source hdr journal cache')
    {destination origin : Nat} {answer : Answer}
    (hcopy : .call (.copyTexture destination origin) answer ∈ journal) :
    origin = source.id ∧ ∃ texture, cache'.texture = some texture ∧ texture.id = destination := by
  cases hingested with
  | @reused texture htexture =>
      obtain ⟨⟨rfl, rfl⟩, -⟩ : (destination = texture.id ∧ origin = source.id) ∧ _ := by
        simpa using hcopy
      exact ⟨rfl, texture, htexture, rfl⟩
  | @allocated texture =>
      obtain ⟨⟨rfl, rfl⟩, -⟩ : (destination = texture.id ∧ origin = source.id) ∧ _ := by
        simpa using hcopy
      exact ⟨rfl, texture, rfl, rfl⟩
  | unallocated => simp at hcopy

end Ingested

theorem takeInAll_isBacked (before : List Intake) (device : Device) :
    let past := empty.takeInAll before device
    past.value.IsBacked past.journal := by
  induction before using List.reverseRecOn with
  | nil => exact nofun
  | append_singleton earlier last ih =>
      rw [takeInAll_concat]
      exact (takeIn_ingested _ last _).isBacked ih

/-- The texture that is cached after a frame is of the size and the general format of the
frame, whichever frame it was allocated for. -/
theorem lastIntake_texture {before : List Intake} {intake : Intake} {device : Device}
    {texture : Texture}
    (htexture : (lastIntake before intake device).value.texture = some texture) :
    .call (.createTexture intake.source.size (.cached intake.source.format)) (.texture texture) ∈
        (empty.takeInAll before device).journal ++ (lastIntake before intake device).journal ∧
      texture.size = intake.source.size ∧
      texture.format = (ColorFormat.cached intake.source.format).native := by
  have hingested := takeIn_ingested (empty.takeInAll before device).value intake
    (empty.takeInAll before device).device
  obtain ⟨hsize, hformat⟩ := hingested.remembers (Option.ne_none_iff_exists'.mpr ⟨_, htexture⟩)
  have hbacked := hingested.isBacked (takeInAll_isBacked before device) texture htexture
  rwa [hsize, hformat] at hbacked

/-- However frames are taken in one after the other, whatever is copied is the frame, into
an allocated texture of the frame's size.  The texture's format is the one that frames of
this format are cached in: that of the frame or the typeless member of its family, if the
frame's is known, and no format if it is not.  Frames that are copied into one texture are
of one family, unless neither format is known. -/
theorem copies_are_compatible (before : List Intake) (intake : Intake) (device : Device) :
    let past := empty.takeInAll before device
    let last := lastIntake before intake device
    (∀ destination origin answer,
      .call (.copyTexture destination origin) answer ∈ last.journal →
        origin = intake.source.id ∧ ∃ texture : Texture,
          last.value.texture = some texture ∧ texture.id = destination ∧
          .call (.createTexture intake.source.size (.cached intake.source.format))
            (.texture texture) ∈ past.journal ++ last.journal ∧
          texture.size = intake.source.size ∧
          texture.format = (ColorFormat.cached intake.source.format).native ∧
          (intake.source.format.IsKnown → texture.format.Holds intake.source.format) ∧
          (¬ intake.source.format.IsKnown → texture.format = .unknown)) ∧
    ∀ earlier previous later texture, before = earlier ++ previous :: later →
      (lastIntake earlier previous device).value.texture = some texture →
      last.value.texture = some texture →
      previous.source.format.IsKnown ∨ intake.source.format.IsKnown →
        previous.source.format.typeless = intake.source.format.typeless := by
  intro past last
  constructor
  · intro destination origin answer hcopy
    have hingested := takeIn_ingested past.value intake past.device
    obtain ⟨horigin, texture, htexture, hid⟩ := hingested.eq_of_copy_mem hcopy
    obtain ⟨hallocated, hsize, hformat⟩ := lastIntake_texture htexture
    refine ⟨horigin, texture, htexture, hid, hallocated, hsize, hformat, ?_, ?_⟩
    · intro hknown
      exact .inr (hformat.trans (ColorFormat.native_cached hknown))
    · intro hunknown
      exact hformat.trans (ColorFormat.native_cached_unknown hunknown)
  · intro earlier previous later texture _ hprevious hlast hknown
    obtain ⟨-, -, hbefore⟩ := lastIntake_texture hprevious
    obtain ⟨-, -, hafter⟩ := lastIntake_texture hlast
    refine ColorFormat.typeless_eq_of_cached_eq (ColorFormat.native_injective ?_) hknown
    exact hbefore.symm.trans hafter

/-- An sRGB frame is copied into a texture without a format, and so is one of another family
after it, into the same texture. -/
theorem unknown_copies_are_incompatible :
    let device := Device.ofOutputs []
    let named : Nat → Device → Device := fun id device => { device with lastId := id }
    let bgra : Intake := ⟨⟨2, ⟨8, 8⟩, ⟨91⟩⟩, false, named 2⟩
    let rgba : Intake := ⟨⟨4, ⟨8, 8⟩, ⟨29⟩⟩, false, named 4⟩
    let first := lastIntake [] bgra device
    let second := lastIntake [bgra] rgba device
    ∃ texture : Texture,
      .call (.copyTexture texture.id bgra.source.id) .done ∈ first.journal ∧
      first.value.texture = some texture ∧ ¬ texture.format.Holds bgra.source.format ∧
      .call (.copyTexture texture.id rgba.source.id) .done ∈ second.journal ∧
      second.value.texture = some texture ∧ ¬ texture.format.Holds rgba.source.format ∧
      bgra.source.format.typeless ≠ rgba.source.format.typeless := by
  intro device named bgra rgba first second
  refine ⟨⟨3, ⟨8, 8⟩, .unknown⟩, ?_⟩
  decide +kernel

end FrameCache
end DesktopCapture
