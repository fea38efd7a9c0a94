import DesktopCapture.Proofs.LatestFrame

/-!
# The colour space of the latest frame

A cache is tagged with a colour space when its texture is allocated, and the tag is
left alone while frames are copied into the texture.  It still is the colour space of
the latest frame: which frames fit is a matter of the general format, the colour space
is a matter of the native one, and among the native formats only that of half floats
has theirs as its general format.
-/

namespace DesktopCapture

open Capture Scenario

/-! ## General formats tell colour spaces apart -/

namespace ColorFormat

theorem generalize_eq_rgba16F {format : ColorFormat} (hgeneral : format.generalize = .rgba16F) :
    format = .rgba16F := by
  cases format <;> first | rfl | cases hgeneral

/-- The format that holds a native format has it, unless it holds none. -/
theorem native_ofNative {native : NativeFormat} (hknown : ofNative native ≠ .unknown) :
    (ofNative native).native = native := by
  unfold ofNative at hknown ⊢
  cases hfound : all.find? fun format => format.native = native with
  | none =>
      rw [hfound] at hknown
      exact absurd rfl hknown
  | some format =>
      have hnative := List.find?_some hfound
      exact of_decide_eq_true hnative

/-- Half floats are cached as such, and nothing else is. -/
theorem cached_eq_rgba16F_iff (native : NativeFormat) :
    cached native = .rgba16F ↔ native = .rgba16Float := by
  constructor
  · intro hcached
    have hformat : ofNative native = .rgba16F := generalize_eq_rgba16F hcached
    have hnative : (ofNative native).native = native := by
      apply native_ofNative
      rw [hformat]
      exact nofun
    rw [← hnative, hformat]
    rfl
  · rintro rfl
    decide

end ColorFormat

/-- Frames that are cached in the same format have the same colour space. -/
theorem ColorSpace.ofFrame_eq_of_cached_eq {hdr : Bool} {native native' : NativeFormat}
    (hcached : ColorFormat.cached native = .cached native') :
    ofFrame hdr native = ofFrame hdr native' := by
  have hfloat : native = .rgba16Float ↔ native' = .rgba16Float := by
    rw [← ColorFormat.cached_eq_rgba16F_iff, hcached, ColorFormat.cached_eq_rgba16F_iff]
  simp only [ofFrame, hfloat]

/-! ## Tags are never stale -/

/-- A cache with a texture has the colour space of a frame of the format it remembers. -/
def FrameCache.IsTagged (hdr : Bool) (cache : FrameCache) : Prop :=
  cache.texture ≠ none → ∃ native, cache.format = .cached native ∧
    cache.colorSpace = .ofFrame hdr native

theorem FrameCache.Ingested.isTagged {cache cache' : FrameCache} {source : Texture}
    {hdr : Bool} {journal : List Entry}
    (hingested : cache.Ingested source hdr journal cache') (htagged : cache.IsTagged hdr) :
    cache'.IsTagged hdr := by
  cases hingested with
  | reused => exact htagged
  | allocated => exact fun _ => ⟨source.format, rfl, rfl⟩
  | unallocated => exact fun hnone => absurd rfl hnone

/-- Every live session's cache is tagged for its monitor. -/
def Tagged (sessions : MonitorTable Session) : Assertion := fun _ _ =>
  sessions.All fun _ session => session.cache.IsTagged session.color.hdr

theorem tagged : Invariant Tagged := by
  refine .of_keeps ?_ fun _ =>
    { beside := fun _ _ _ htagged => htagged
      lost := fun htagged => htagged
      ingested := fun hingested htagged => hingested.isTagged htagged }
  rintro index session ⟨preview, color, rfl⟩
  exact fun hnone => absurd rfl hnone

/-- After every run the colour space of a session that shows a texture is that of the
last frame it took, whether the texture was allocated for this frame or was there. -/
theorem color_space_is_latest (outputs : List OutputConfig) (config : SessionConfig)
    (steps : List DuplicatorStep) {index : UInt32} {session : Session} {texture : Texture}
    (hlive : (DuplicatorState.after outputs config steps).sessions.get? index =
      some session)
    (htexture : session.texture = some texture) :
    ∃ taken, (FrameHistory.ofJournal
        (DuplicatorState.history outputs config steps)).latest index = some taken ∧
      session.cache.colorSpace = .ofFrame session.color.hdr taken.texture.format := by
  have hinvariant := Kept.and (Kept.and (Kept.and placed owned.given) showLatest) tagged.given
  obtain ⟨⟨-, hshown⟩, htagged⟩ := hinvariant.after_steps outputs config
    ⟨⟨⟨.empty, Ledger.initial outputs⟩, .empty⟩, .empty⟩ steps
  obtain ⟨taken, htaken, -, -, hformat, -⟩ := (hshown index session hlive).present texture htexture
  have hsome : session.cache.texture ≠ none := Option.ne_none_iff_exists'.mpr ⟨texture, htexture⟩
  -- The frame of the tag and the latest frame are both cached in the remembered format.
  obtain ⟨native, hnative, hspace⟩ := htagged index session hlive hsome
  refine ⟨taken, htaken, hspace.trans ?_⟩
  exact ColorSpace.ofFrame_eq_of_cached_eq (hnative.symm.trans hformat)

/-- The second frame is copied into the texture of the first, and the colour space is its
own. -/
theorem color_space_is_latest_reused :
    let size : Size := ⟨640, 480⟩
    let second : NativeFormat := ⟨90⟩
    let steps : List DuplicatorStep := [.create 0,
      .world (.pushFrames 0 [.frame size .bgra8, .frame size second]),
      .use 0 .update, .use 0 .update]
    let state := DuplicatorState.after singleOutputDevice.outputs .standard steps
    ∃ session, state.sessions.get? 0 = some session ∧ session.texture.isSome = true ∧
      state.device.texturesCreated = 1 ∧
      session.cache.colorSpace = .ofFrame session.color.hdr second := by
  intro size second steps state
  have hlatest : ((FrameHistory.ofJournal (DuplicatorState.history
      singleOutputDevice.outputs .standard steps)).latest 0).map
        (fun taken => taken.texture.format) = some second := by decide +kernel
  have hcached : (state.sessions.get? 0).map (fun session => session.texture.isSome) =
      some true := by decide +kernel
  obtain ⟨session, hlive, hsome⟩ := Option.map_eq_some_iff.mp hcached
  obtain ⟨texture, htexture⟩ := Option.isSome_iff_exists.mp hsome
  obtain ⟨taken, htaken, hspace⟩ := color_space_is_latest singleOutputDevice.outputs .standard
    steps hlive htexture
  rw [htaken] at hlatest
  rw [show taken.texture.format = second from Option.some.inj hlatest] at hspace
  exact ⟨session, hlive, hsome, by decide +kernel, hspace⟩

end DesktopCapture
