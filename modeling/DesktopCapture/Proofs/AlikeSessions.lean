import DesktopCapture.Proofs.Alike

/-!
# Sessions alike

Sessions of two runs are alike if they differ in their previews and in the numbers
of their textures only.  Each operation of sessions takes sessions alike to sessions
alike, and its answers are the same.
-/

namespace DesktopCapture

open Capture

/-- Caches of frames that differ in the numbers of their textures only. -/
structure FrameCache.Alike (names : Renaming) (cache cache' : FrameCache) : Prop where
  texture : Option.Rel (Texture.Renamed names) cache.texture cache'.texture
  size : cache'.size = cache.size
  format : cache'.format = cache.format
  colorSpace : cache'.colorSpace = cache.colorSpace

/-- Sessions that differ in their previews and in the numbers of textures only. -/
structure Session.Alike (names : Renaming) (session session' : Session) : Prop where
  duplication : session'.duplication = session.duplication
  cache : session.cache.Alike names session'.cache
  monitor : session'.monitor = session.monitor
  color : session'.color = session.color
  frameAvailable : session'.frameAvailable = session.frameAvailable
  refs : session'.refs = session.refs

section

variable {names names' : Renaming}

theorem FrameCache.Alike.mono {cache cache' : FrameCache} (halike : cache.Alike names cache')
    (hgrows : names ⊆ names') : cache.Alike names' cache' := by
  refine ⟨?_, halike.size, halike.format, halike.colorSpace⟩
  have htexture := halike.texture
  revert htexture
  generalize cache.texture = texture, cache'.texture = texture'
  intro htexture
  cases htexture with
  | none => exact .none
  | some hrenamed => exact .some (hrenamed.mono hgrows)

theorem Session.Alike.mono {session session' : Session}
    (halike : session.Alike names session') (hgrows : names ⊆ names') :
    session.Alike names' session' :=
  ⟨halike.duplication, halike.cache.mono hgrows, halike.monitor, halike.color,
    halike.frameAvailable, halike.refs⟩

end

/-! ## Calls -/

namespace Capture.Alike

variable {α : Type} {names : Renaming}

/-- A call without textures is the same in both runs if devices that are alike do
the same. -/
theorem same {point : FaultPoint} {call : Call} {answer : α → Answer}
    {act : Device → Except PlatformError (α × Device)} (hpoint : point.isAside = false)
    (hcall : call.Renamed names call)
    (hcapture : ∀ given, (Entry.call call given).isCapture = true)
    (hanswer : ∀ value, (answer value).Renamed names (answer value))
    (hact : ∀ device device', Device.Alike names device device' →
      (∃ error, act device = .error error ∧ act device' = .error error) ∨
      ∃ value after after', act device = .ok (value, after) ∧
        act device' = .ok (value, after') ∧ after.Alike names after') :
    Alike names (Capture.fallible point call answer act)
      (Capture.fallible point call answer act) (fun _ => Related Eq) := by
  apply Alike.fallible hpoint hcall hcapture hcapture
  intro device device' halike
  rcases hact device device' halike with hfailed | ⟨value, after, after', hdone, hdone', h⟩
  · exact .inl hfailed
  · exact .inr ⟨names, value, value, after, after', hdone, hdone', List.Subset.refl names,
      h, hanswer value, rfl⟩

theorem enumOutput (index : UInt32) :
    Alike names (enumOutput index) (Capture.enumOutput index) (fun _ => Related Eq) := by
  refine Alike.same rfl rfl (fun _ => rfl) ?_ ?_
  · intro found
    cases found <;> rfl
  · intro device device' halike
    unfold Device.enumOutput
    rw [halike.script.outputs, halike.script.enumerationFailsAt]
    by_cases hfails : device.enumerationFailsAt = some index
    · rw [if_pos hfails, if_pos hfails]
      exact .inl ⟨_, rfl, rfl⟩
    · rw [if_neg hfails, if_neg hfails]
      exact .inr ⟨_, _, _, rfl, rfl, halike⟩

theorem duplicateWithFormats (output : Output) (formats : List NativeFormat) :
    Alike names (duplicateWithFormats output formats)
      (Capture.duplicateWithFormats output formats) (fun _ => Related Eq) := by
  refine Alike.same rfl rfl (fun _ => rfl) ?_ ?_
  · intro duplication
    cases duplication <;> rfl
  · intro device device' halike
    unfold Device.duplicateWithFormats
    rw [halike.script.fails_eq .duplication]
    split
    · exact .inr ⟨_, _, _, rfl, rfl, halike⟩
    · split
      · exact .inl ⟨_, rfl, rfl⟩
      · refine .inr ⟨_, _, _, rfl, rfl, halike.beside ?_ ?_⟩ <;>
          exact ⟨⟨rfl, rfl, rfl, rfl, fun _ _ => rfl, rfl⟩, rfl, Nat.le_refl _⟩

theorem duplicate (output : Output) :
    Alike names (duplicate output) (Capture.duplicate output) (fun _ => Related Eq) := by
  refine Alike.same rfl rfl (fun _ => rfl) (fun _ => rfl) ?_
  intro device device' halike
  unfold Device.duplicate
  rw [halike.script.fails_eq .duplication]
  split
  · exact .inl ⟨_, rfl, rfl⟩
  · refine .inr ⟨_, _, _, rfl, rfl, halike.beside ?_ ?_⟩ <;>
      exact ⟨⟨rfl, rfl, rfl, rfl, fun _ _ => rfl, rfl⟩, rfl, Nat.le_refl _⟩

theorem colorInfo (output : Output) :
    Alike names (colorInfo output) (Capture.colorInfo output) (fun _ => Related Eq) := by
  refine Alike.same rfl rfl (fun _ => rfl) (fun _ => rfl) ?_
  intro device device' halike
  unfold Device.colorInfo
  rw [halike.script.fails_eq .colorInfo]
  split
  · exact .inl ⟨_, rfl, rfl⟩
  · exact .inr ⟨_, _, _, rfl, rfl, halike⟩

theorem releaseFrame (duplication : Duplication) :
    Alike names (releaseFrame duplication) (Capture.releaseFrame duplication)
      (fun _ => Related Eq) := by
  refine Alike.same rfl rfl (fun _ => rfl) (fun _ => rfl) ?_
  intro device device' halike
  refine .inr ⟨_, _, _, rfl, rfl, halike.beside ?_ ?_⟩ <;>
    exact ⟨⟨rfl, rfl, rfl, rfl, fun _ _ => rfl, rfl⟩, rfl, Nat.le_refl _⟩

theorem acquired {device device' : Device} (halike : device.Alike names device')
    (duplication : Duplication) :
    (device'.acquire duplication).1 = (device.acquire duplication).1 ∧
      (device.acquire duplication).2.Alike names (device'.acquire duplication).2 := by
  have hscript := halike.script
  unfold Device.acquire
  dsimp only
  rw [hscript.frames]
  split <;> exact ⟨rfl, ⟨hscript.outputs, hscript.enumerationFailsAt, rfl, hscript.fails,
    hscript.platformFaults, hscript.acquireFaults⟩, halike.oneToOne, halike.known⟩

/-- Queued faults and scripted outcomes are used up alike. -/
theorem acquire (duplication : Duplication) (timeoutMs : UInt32) :
    Alike names (acquire duplication timeoutMs) (Capture.acquire duplication timeoutMs)
      (fun _ => Related Eq) := by
  intro device device' halike
  have hscript := halike.script
  have hfaults := hscript.acquireFaults
  unfold Capture.acquire Faults.takeAcquire?
  cases hqueued : device.faults.acquire with
  | cons error rest =>
      rw [hqueued] at hfaults
      rw [hfaults]
      refine ⟨names, List.Subset.refl names, ⟨?_, halike.oneToOne, halike.known⟩, rfl,
        .cons (.call rfl rfl) .nil⟩
      exact ⟨hscript.outputs, hscript.enumerationFailsAt, hscript.frames, hscript.fails,
        hscript.platformFaults, rfl⟩
  | nil =>
      rw [hqueued] at hfaults
      rw [hfaults]
      obtain ⟨hsame, hafter⟩ := acquired halike duplication
      rcases hdone : device.acquire duplication with ⟨error | resource, after⟩ <;>
        rcases hdone' : device'.acquire duplication with ⟨error' | resource', after'⟩ <;>
        rw [hdone, hdone'] at hsame hafter <;> cases hsame <;>
        exact ⟨names, List.Subset.refl names, hafter, rfl, .cons (.call rfl rfl) .nil⟩

/-- The textures of one frame get numbers that are paired from then on. -/
theorem frameTexture (resource : FrameResource) :
    Alike names (frameTexture resource) (Capture.frameTexture resource)
      (fun names' => Related (Texture.Renamed names')) := by
  refine Alike.fallible rfl rfl (fun _ => rfl) (fun _ => rfl) ?_
  intro device device' halike
  unfold Device.frameTexture
  cases resource with
  | other => exact .inl ⟨_, rfl, rfl⟩
  | texture size format =>
      have hrenamed : Texture.Renamed ((device.nextId, device'.nextId) :: names)
          ⟨device.nextId, size, format⟩ ⟨device'.nextId, size, format⟩ :=
        ⟨List.mem_cons_self, rfl, rfl⟩
      have hscript := halike.script
      refine .inr ⟨_, _, _, _, _, rfl, rfl, List.subset_cons_self _ _, ?_, hrenamed, hrenamed⟩
      exact halike.numbered ⟨hscript.outputs, hscript.enumerationFailsAt, hscript.frames,
        hscript.fails, hscript.platformFaults, hscript.acquireFaults⟩ rfl rfl

theorem createTexture (size : Size) (format : ColorFormat) :
    Alike names (createTexture size format) (Capture.createTexture size format)
      (fun names' => Related (Texture.Renamed names')) := by
  refine Alike.fallible rfl rfl (fun _ => rfl) (fun _ => rfl) ?_
  intro device device' halike
  unfold Device.createTexture
  rw [halike.script.fails_eq .createTexture]
  by_cases hfailing : device.fails .createTexture = true
  · rw [if_pos hfailing, if_pos hfailing]
    exact .inl ⟨_, rfl, rfl⟩
  · rw [if_neg hfailing, if_neg hfailing]
    have hrenamed : Texture.Renamed ((device.nextId, device'.nextId) :: names)
        ⟨device.nextId, size, format.native⟩ ⟨device'.nextId, size, format.native⟩ :=
      ⟨List.mem_cons_self, rfl, rfl⟩
    have hscript := halike.script
    refine .inr ⟨_, _, _, _, _, rfl, rfl, List.subset_cons_self _ _, ?_, hrenamed, hrenamed⟩
    exact halike.numbered ⟨hscript.outputs, hscript.enumerationFailsAt, hscript.frames,
      hscript.fails, hscript.platformFaults, hscript.acquireFaults⟩ rfl rfl

theorem copyTexture {destination destination' source source' : Texture}
    (hdestination : destination.Renamed names destination')
    (hsource : source.Renamed names source') :
    Alike names (copyTexture destination source)
      (Capture.copyTexture destination' source') (fun _ _ _ => True) := by
  intro device device' halike
  have hscript := halike.script
  refine ⟨names, List.Subset.refl names, ⟨?_, halike.oneToOne, halike.known⟩, trivial, ?_⟩
  · exact ⟨hscript.outputs, hscript.enumerationFailsAt, hscript.frames, hscript.fails,
      hscript.platformFaults, hscript.acquireFaults⟩
  · exact .cons (.call ⟨hdestination.id, hsource.id⟩ rfl) .nil

end Capture.Alike

/-! ## Operations of sessions -/

section

variable {names : Renaming}

namespace FrameCache

theorem alike_release {cache cache' : FrameCache} (halike : cache.Alike names cache') :
    Capture.Alike names cache.release cache'.release (fun _ _ _ => True) := by
  have htexture := halike.texture
  unfold release
  cases hleft : cache.texture <;> cases hright : cache'.texture <;>
    rw [hleft, hright] at htexture <;> cases htexture
  · exact Alike.pure trivial
  · exact Alike.release _ _

theorem alike_fill {cache cache' : FrameCache} {source source' : Texture}
    (halike : cache.Alike names cache') (hsource : source.Renamed names source') :
    Capture.Alike names (cache.fill source) (cache'.fill source') (fun _ _ _ => True) := by
  have htexture := halike.texture
  unfold fill
  cases hleft : cache.texture <;> cases hright : cache'.texture <;>
    rw [hleft, hright] at htexture <;> cases htexture
  · exact Alike.pure trivial
  · next hrenamed => exact Alike.copyTexture hrenamed hsource

theorem alike_reallocate {cache cache' : FrameCache} {source source' : Texture} (hdr : Bool)
    (halike : cache.Alike names cache') (hsource : source.Renamed names source') :
    Capture.Alike names (cache.reallocate source hdr) (cache'.reallocate source' hdr)
      FrameCache.Alike := by
  unfold reallocate
  rw [hsource.size, hsource.format]
  refine Alike.bind (alike_release halike) fun released _ _ hreleased _ => ?_
  refine Alike.bind (Alike.note rfl rfl) fun noted _ _ hnoted _ => ?_
  refine Alike.bind (Alike.createTexture _ _) fun created result result' hcreated hresult => ?_
  have hkept := halike.mono
    (List.Subset.trans hreleased (List.Subset.trans hnoted hcreated))
  rcases result with error | texture <;> rcases result' with error' | texture'
  · refine Alike.bind (Alike.note rfl rfl) fun _ _ _ hgrows _ => ?_
    have hlast := hkept.mono hgrows
    exact Alike.pure ⟨.none, hlast.size, hlast.format, hlast.colorSpace⟩
  · cases hresult
  · cases hresult
  · exact Alike.pure ⟨.some hresult, rfl, rfl, rfl⟩

theorem fits_eq {cache cache' : FrameCache} (halike : cache.Alike names cache')
    (size : Size) (format : ColorFormat) : cache'.fits size format = cache.fits size format := by
  have hsome : cache'.texture.isSome = cache.texture.isSome := by
    have htexture := halike.texture
    revert htexture
    generalize cache.texture = texture, cache'.texture = texture'
    intro htexture
    cases htexture with
    | none => rfl
    | some hrenamed => rfl
  rw [fits, fits, hsome, halike.size, halike.format]

theorem alike_ingest {cache cache' : FrameCache} {source source' : Texture} (hdr : Bool)
    (halike : cache.Alike names cache') (hsource : source.Renamed names source') :
    Capture.Alike names (cache.ingest source hdr) (cache'.ingest source' hdr)
      FrameCache.Alike := by
  have hfilled : ∀ names' (taken taken' : FrameCache), names ⊆ names' →
      taken.Alike names' taken' →
      Capture.Alike names' (do taken.fill source; pure taken)
        (do taken'.fill source'; pure taken') FrameCache.Alike := by
    intro names' taken taken' hgrows htaken
    refine Alike.bind (alike_fill htaken (hsource.mono hgrows)) fun _ _ _ hfilled _ => ?_
    exact Alike.pure (htaken.mono hfilled)
  unfold ingest
  rw [hsource.size, hsource.format, fits_eq halike]
  by_cases hfits : cache.fits source.size (.cached source.format) = true
  · rw [if_pos hfits, if_pos hfits]
    exact Alike.bind (Alike.pure halike) hfilled
  · rw [if_neg hfits, if_neg hfits]
    exact Alike.bind (alike_reallocate hdr halike hsource) hfilled

end FrameCache

namespace Session

theorem alike_openDuplication (spans : List Span) (output : Output) :
    Capture.Alike names (openDuplication spans output) (openDuplication spans output)
      (fun _ => Related Eq) := by
  refine Alike.bind (Alike.duplicateWithFormats output offeredFormats)
    fun _ negotiated negotiated' _ hnegotiated => ?_
  rcases negotiated with error | duplication <;>
    rcases negotiated' with error' | duplication' <;> cases hnegotiated
  · exact Alike.pure rfl
  · cases duplication with
    | none =>
        refine Alike.bind (Alike.note rfl rfl) fun _ _ _ _ _ => ?_
        refine Alike.bind (Alike.duplicate output)
          fun _ duplicated duplicated' _ hduplicated => ?_
        rcases duplicated with error | duplication <;>
          rcases duplicated' with error' | duplication' <;> cases hduplicated
        · exact Alike.pure rfl
        · exact Alike.pure rfl
    | some duplication =>
        refine Alike.bind (Alike.colorInfo output) fun _ color color' _ hcolor => ?_
        rcases color with error | color <;> rcases color' with error' | color' <;>
          cases hcolor
        · exact Alike.bind (Alike.note rfl rfl) fun _ _ _ _ _ => Alike.pure rfl
        · exact Alike.pure rfl

theorem alike_output (index : UInt32) :
    Capture.Alike names (Adapter.output index) (Adapter.output index)
      (fun _ => Related Eq) := by
  refine Alike.bind (Alike.enumOutput index) fun _ found found' _ hfound => ?_
  rcases found with error | output <;> rcases found' with error' | output' <;> cases hfound
  · exact Alike.pure rfl
  · cases output with
    | none => exact Alike.pure rfl
    | some output => exact Alike.pure rfl

theorem alike_startWithin (spans : List Span) (index : UInt32)
    (config config' : SessionConfig) :
    Capture.Alike names (startWithin spans index config) (startWithin spans index config')
      (fun names' => Related (Session.Alike names')) := by
  refine Alike.bind (alike_output index) fun _ found found' _ hfound => ?_
  rcases found with error | output <;> rcases found' with error' | output' <;> cases hfound
  · exact Alike.pure rfl
  · refine Alike.bind (alike_openDuplication spans output)
      fun names' opened opened' _ hopened => ?_
    rcases opened with error | ⟨duplication, color⟩ <;>
      rcases opened' with error' | ⟨duplication', color'⟩ <;> cases hopened
    · exact Alike.pure rfl
    · -- One run may make a preview where the other makes none.
      have hstarted : ∀ making making' : Capture (Option Preview), making.IsAside →
          making'.IsAside → Capture.Alike names'
            (do
              let preview ← making
              notify spans (.sessionStarted index color)
              pure (.ok
                { duplication := some duplication
                  cache := .empty
                  preview
                  monitor := index
                  color
                  frameAvailable := false
                  refs := 1 }))
            (do
              let preview ← making'
              notify spans (.sessionStarted index color)
              pure (.ok
                { duplication := some duplication
                  cache := .empty
                  preview
                  monitor := index
                  color
                  frameAvailable := false
                  refs := 1 }))
            (fun names' => @Related CaptureError _ _ (Session.Alike names')) := by
        intro making making' haside haside'
        have hmade : Capture.Alike names' making making' (fun _ _ _ => True) :=
          Alike.aside haside haside' fun _ _ => trivial
        refine Alike.bind hmade fun _ preview preview' _ _ => ?_
        refine Alike.bind (Alike.note rfl rfl) fun _ _ _ _ _ => ?_
        exact Alike.pure ⟨rfl, ⟨.none, rfl, rfl, rfl⟩, rfl, rfl, rfl, rfl⟩
      have hpreview := fun title => aside_openPreview spans output title
      dsimp only
      split <;> split
      · exact hstarted _ _ (hpreview _) (hpreview _)
      · exact hstarted _ _ (hpreview _) (.pure none)
      · exact hstarted _ _ (.pure none) (hpreview _)
      · exact hstarted _ _ (.pure none) (.pure none)

/-- Whether a preview is asked for or not, the same sessions start. -/
theorem alike_start (index : UInt32) (config config' : SessionConfig) :
    Capture.Alike names (start index config) (start index config')
      (fun names' => Related (Session.Alike names')) := by
  refine Alike.bind (alike_startWithin [.sessionStart index] index config config')
    fun names' started started' _ hstarted => ?_
  have hended : ∀ names'' : Renaming, names' ⊆ names'' → Capture.Alike names''
      (do endSpan [.sessionStart index]; pure started)
      (do endSpan [.sessionStart index]; pure started')
      (fun names' => Related (Session.Alike names')) := by
    intro names'' hgrows
    refine Alike.bind (Alike.note rfl rfl) fun names''' _ _ hgrows' _ => ?_
    apply Alike.pure
    rcases started with error | session <;> rcases started' with error' | session'
    · exact hstarted
    · cases hstarted
    · cases hstarted
    · exact Session.Alike.mono hstarted (List.Subset.trans hgrows hgrows')
  rcases started with error | session <;> rcases started' with error' | session'
  · exact Alike.bind (Alike.note rfl rfl) fun names'' _ _ hgrows _ => hended names'' hgrows
  · cases hstarted
  · cases hstarted
  · exact hended names' (List.Subset.refl _)

theorem Alike.of_previews {session session' : Session} (halike : session.Alike names session')
    (preview preview' : Option Preview) :
    { session with preview }.Alike names { session' with preview := preview' } :=
  ⟨halike.duplication, halike.cache, halike.monitor, halike.color, halike.frameAvailable,
    halike.refs⟩

theorem alike_present {session session' : Session} (halike : session.Alike names session') :
    Capture.Alike names session.present session'.present Session.Alike := by
  apply Capture.Alike.aside session.aside_present session'.aside_present
  intro device device'
  obtain ⟨preview, hvalue⟩ := session.present_value device
  obtain ⟨preview', hvalue'⟩ := session'.present_value device'
  rw [hvalue, hvalue']
  exact halike.of_previews preview preview'

theorem alike_setPreviewVisible {session session' : Session}
    (halike : session.Alike names session') (visible : Bool) :
    Capture.Alike names (session.setPreviewVisible visible)
      (session'.setPreviewVisible visible) Session.Alike := by
  apply Capture.Alike.aside (session.aside_setPreviewVisible visible)
    (session'.aside_setPreviewVisible visible)
  intro device device'
  obtain ⟨preview, hvalue⟩ := session.setPreviewVisible_value visible device
  obtain ⟨preview', hvalue'⟩ := session'.setPreviewVisible_value visible device'
  rw [hvalue, hvalue']
  exact halike.of_previews preview preview'

theorem alike_handBack (duplication : Duplication) :
    Capture.Alike names (handBack duplication) (handBack duplication)
      (fun _ _ _ => True) := by
  refine Capture.Alike.bind (Capture.Alike.releaseFrame duplication)
    fun _ handed handed' _ hhanded => ?_
  rcases handed with error | _ <;> rcases handed' with error' | _ <;> cases hhanded
  · exact Capture.Alike.note rfl rfl
  · exact Capture.Alike.pure trivial

theorem alike_takeFrame {session session' : Session} (halike : session.Alike names session')
    (duplication : Duplication) (resource : FrameResource) :
    Capture.Alike names (session.takeFrame duplication resource)
      (session'.takeFrame duplication resource) Session.Alike := by
  refine Capture.Alike.bind (Capture.Alike.frameTexture resource)
    fun names' queried queried' hqueried hrelated => ?_
  have hkept := halike.mono hqueried
  rcases queried with error | texture <;> rcases queried' with error' | texture'
  · refine Capture.Alike.bind (Capture.Alike.note rfl rfl) fun _ _ _ hnoted _ => ?_
    refine Capture.Alike.bind (alike_handBack duplication) fun _ _ _ hhanded _ => ?_
    exact Capture.Alike.pure (hkept.mono (List.Subset.trans hnoted hhanded))
  · cases hrelated
  · cases hrelated
  · have hingested := FrameCache.alike_ingest session.color.hdr hkept.cache hrelated
    rw [show session'.color.hdr = session.color.hdr by rw [halike.color]]
    refine Capture.Alike.bind hingested fun _ cache cache' hgrows hcache => ?_
    refine Capture.Alike.bind (alike_handBack duplication) fun _ _ _ hhanded _ => ?_
    apply alike_present
    have hlast := hkept.mono (List.Subset.trans hgrows hhanded)
    exact ⟨hlast.duplication, hcache.mono hhanded, hlast.monitor, hlast.color, rfl,
      hlast.refs⟩

/-- Polling gives the same answer and leaves sessions alike. -/
theorem alike_update {session session' : Session} (halike : session.Alike names session') :
    Capture.Alike names session.update session'.update
      (fun names' result result' => result'.1 = result.1 ∧
        result.2.Alike names' result'.2) := by
  have hshown : ∀ names', names ⊆ names' → Capture.Alike names'
      (do let session ← session.present; pure (true, session))
      (do let session ← session'.present; pure (true, session))
      (fun names' result result' => result'.1 = result.1 ∧
        result.2.Alike names' result'.2) := by
    intro names' hgrows
    refine Capture.Alike.bind (alike_present (halike.mono hgrows)) fun _ _ _ _ hshown => ?_
    exact Capture.Alike.pure ⟨rfl, hshown⟩
  unfold update
  rw [halike.duplication]
  cases session.duplication with
  | none => exact Capture.Alike.pure ⟨rfl, halike⟩
  | some duplication =>
      refine Capture.Alike.bind (Capture.Alike.acquire duplication 0)
        fun names' acquired acquired' hacquired hrelated => ?_
      have hkept := halike.mono hacquired
      rcases acquired with error | resource <;> rcases acquired' with error' | resource' <;>
        cases hrelated
      · cases error with
        | accessLost =>
            refine Capture.Alike.bind (Capture.Alike.note rfl rfl) fun _ _ _ hnoted _ => ?_
            refine Capture.Alike.bind (Capture.Alike.release _ _) fun _ _ _ hreleased _ => ?_
            have hlast := hkept.mono (List.Subset.trans hnoted hreleased)
            exact Capture.Alike.pure ⟨rfl, rfl, hlast.cache, hlast.monitor, hlast.color,
              hlast.frameAvailable, hlast.refs⟩
        | timeout => exact hshown names' hacquired
        | _ =>
            exact Capture.Alike.bind (Capture.Alike.note rfl rfl)
              fun names'' _ _ hnoted _ =>
                hshown names'' (List.Subset.trans hacquired hnoted)
      · refine Capture.Alike.bind (alike_takeFrame hkept duplication resource)
          fun _ _ _ _ htaken => ?_
        exact Capture.Alike.pure ⟨rfl, htaken⟩

theorem alike_release {session session' : Session} (halike : session.Alike names session') :
    Capture.Alike names session.release session'.release (fun _ _ _ => True) := by
  have haside : ∀ preview : Option Preview,
      (preview.elim (pure ()) Preview.release).IsAside := by
    intro preview
    cases preview with
    | none => exact .pure _
    | some preview => exact preview.aside_release
  rw [release_eq, release_eq, halike.duplication]
  have hduplication : Capture.Alike names
      (session.duplication.elim (pure ()) fun duplication =>
        Capture.release (.duplication duplication.output))
      (session.duplication.elim (pure ()) fun duplication =>
        Capture.release (.duplication duplication.output))
      (fun _ _ _ => True) := by
    cases session.duplication with
    | none => exact Capture.Alike.pure trivial
    | some duplication => exact Capture.Alike.release _ _
  refine Capture.Alike.bind hduplication fun names' _ _ hgrows _ => ?_
  refine Capture.Alike.bind (FrameCache.alike_release (halike.cache.mono hgrows))
    fun _ _ _ _ _ => ?_
  exact Capture.Alike.aside (haside session.preview) (haside session'.preview)
    fun _ _ => trivial

end Session

end
end DesktopCapture
