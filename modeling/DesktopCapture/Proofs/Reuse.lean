import DesktopCapture.Proofs.Compatibility

/-!
# Taking in what is cached

A cached texture tells its own size and native format.  The native format is the one that the
cached format is allocated with, and reading it and forgetting the unorm mark leads back to
the cached format, also where that is unknown.  So a frame described like the cached texture
always fits it, whatever frames came before.
-/

namespace DesktopCapture

open Capture

/-! ## Reading what was allocated -/

namespace ColorFormat

/-- The native formats that are known, each with the format that it is read as. -/
def readings : List (NativeFormat × ColorFormat) :=
  [(⟨49⟩, .r8g8), (⟨65⟩, .a8), (⟨61⟩, .r8), (⟨27⟩, .rgba), (⟨92⟩, .bgrx), (⟨90⟩, .bgra),
    (⟨24⟩, .r10g10b10a2), (⟨11⟩, .rgba16), (⟨56⟩, .r16), (⟨10⟩, .rgba16F), (⟨2⟩, .rgba32F),
    (⟨34⟩, .rg16F), (⟨16⟩, .rg32F), (⟨54⟩, .r16F), (⟨41⟩, .r32F), (⟨71⟩, .dxt1),
    (⟨74⟩, .dxt3), (⟨77⟩, .dxt5), (⟨28⟩, .rgbaUnorm), (⟨88⟩, .bgrxUnorm),
    (⟨87⟩, .bgraUnorm), (⟨35⟩, .rg16)]

/-- Native formats are read row by row, and those without a row are unknown. -/
theorem ofNative_eq_lookup (native : NativeFormat) :
    ofNative native = (readings.lookup native).getD .unknown := by
  have hrows : ∀ row ∈ readings, ofNative row.1 = row.2 := by decide
  have hlisted : ∀ format : ColorFormat, format ≠ .unknown →
      (format.native, format) ∈ readings := by
    intro format hformat
    cases format with
    | unknown => exact absurd rfl hformat
    | _ => decide
  cases hlookup : readings.lookup native with
  | some format =>
      obtain ⟨front, back, hsplit, -⟩ := List.lookup_eq_some_iff.mp hlookup
      exact hrows (native, format) (hsplit ▸ List.mem_append_right front List.mem_cons_self)
  | none =>
      by_contra hknown
      have hrow := hlisted (ofNative native) hknown
      rw [native_ofNative hknown] at hrow
      simpa using List.lookup_eq_none_iff.mp hlookup _ hrow

/-- The native format that a cached format is allocated with is cached in that format, for
known and unknown formats alike. -/
theorem cached_native_cached (native : NativeFormat) :
    cached (cached native).native = cached native := by
  rw [cached, ofNative_native]
  exact generalize_generalize (ofNative native)

end ColorFormat

namespace FrameCache

/-! ## Frames described like the cached texture -/

/-- A frame that fits is copied, and nothing else is done. -/
theorem Ingested.of_fits {cache cache' : FrameCache} {source texture : Texture} {hdr : Bool}
    {journal : List Entry} (hingested : cache.Ingested source hdr journal cache')
    (htexture : cache.texture = some texture)
    (hfits : cache.fits source.size (.cached source.format) = true) :
    cache' = cache ∧ journal = [.call (.copyTexture texture.id source.id) .done] := by
  cases hingested with
  | reused hcached =>
      obtain rfl := Option.some.inj (hcached.symm.trans htexture)
      exact ⟨rfl, rfl⟩
  | allocated hmissed => exact absurd hmissed (by simp [hfits])
  | unallocated hmissed => exact absurd hmissed (by simp [hfits])

/-- With a texture a cache remembers the general format of a frame that it took in. -/
theorem takeInAll_format {before : List Intake} {device : Device}
    (htexture : (empty.takeInAll before device).value.texture ≠ none) :
    ∃ intake ∈ before,
      (empty.takeInAll before device).value.format = .cached intake.source.format := by
  rcases List.eq_nil_or_concat' before with rfl | ⟨earlier, last, rfl⟩
  · exact absurd rfl htexture
  · rw [takeInAll_concat] at htexture ⊢
    have hingested := takeIn_ingested (empty.takeInAll earlier device).value last
      (empty.takeInAll earlier device).device
    exact ⟨last, by simp, (hingested.remembers htexture).2⟩

/-- However frames were taken in one after the other, the cached texture was allocated with
the native format of the general format that is remembered, which is that of a frame taken
in, and reading it leads back to the general format, whatever native format it comes from,
known or not.  So a frame with the size and the native format of the cached texture is copied
into it, no texture is asked for, and the cache stays as it is. -/
theorem own_description_fits (before : List Intake) (device : Device) {texture : Texture}
    (htexture : (empty.takeInAll before device).value.texture = some texture) :
    let past := empty.takeInAll before device
    (.call (.createTexture past.value.size past.value.format) (.texture texture) ∈
        past.journal ∧
      texture.size = past.value.size ∧ texture.format = past.value.format.native) ∧
    (∃ intake ∈ before,
      past.value.format = (ColorFormat.ofNative intake.source.format).generalize) ∧
    (ColorFormat.ofNative texture.format).generalize = past.value.format ∧
    (∀ native : NativeFormat,
      let general := (ColorFormat.ofNative native).generalize
      (ColorFormat.ofNative general.native).generalize = general) ∧
    ∀ intake : Intake,
      intake.source.size = texture.size → intake.source.format = texture.format →
        let again := lastIntake before intake device
        again.value = past.value ∧
        again.journal = [.call (.copyTexture texture.id intake.source.id) .done] := by
  intro past
  have hsome : past.value.texture ≠ none := Option.ne_none_iff_exists'.mpr ⟨texture, htexture⟩
  obtain ⟨hallocated, hsize, hnative⟩ := takeInAll_isBacked before device texture htexture
  obtain ⟨taken, htaken, hgeneral⟩ := takeInAll_format hsome
  have hread : ColorFormat.cached texture.format = past.value.format := by
    rw [hnative, hgeneral]
    exact ColorFormat.cached_native_cached taken.source.format
  refine ⟨⟨hallocated, hsize, hnative⟩, ⟨taken, htaken, hgeneral⟩, hread,
    ColorFormat.cached_native_cached, ?_⟩
  intro intake hsame hformat again
  have hingested := takeIn_ingested past.value intake past.device
  apply hingested.of_fits htexture
  rw [fits_iff, hsame, hformat]
  exact ⟨hsome, hsize.symm, hread.symm⟩

/-- After a frame in a known format and one in an unknown format, a texture without a format
is cached, and a frame without a format is copied into it. -/
theorem own_description_fits_unknown :
    let named : Nat → Device → Device := fun id device => { device with lastId := id }
    let known : Intake := ⟨⟨2, ⟨8, 8⟩, .bgra8⟩, false, named 2⟩
    let unknown : Intake := ⟨⟨4, ⟨8, 8⟩, ⟨91⟩⟩, false, named 4⟩
    let formatless : Intake := ⟨⟨6, ⟨8, 8⟩, .unknown⟩, true, named 6⟩
    let past := empty.takeInAll [known, unknown] (.ofOutputs [])
    let again := lastIntake [known, unknown] formatless (.ofOutputs [])
    past.value.texture = some ⟨5, ⟨8, 8⟩, .unknown⟩ ∧ again.value = past.value ∧
      again.journal = [.call (.copyTexture 5 6) .done] := by
  intro named known unknown formatless past again
  have htexture : past.value.texture = some ⟨5, ⟨8, 8⟩, .unknown⟩ := by decide +kernel
  obtain ⟨-, -, -, -, hagain⟩ :=
    own_description_fits [known, unknown] (.ofOutputs []) htexture
  exact ⟨htexture, hagain formatless rfl rfl⟩

end FrameCache
end DesktopCapture
