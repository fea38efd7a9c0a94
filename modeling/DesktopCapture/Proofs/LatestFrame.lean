import DesktopCapture.Proofs.Balance
import DesktopCapture.Proofs.Frames

/-!
# The cached frame is the latest

What a live session caches is the last frame taken from its monitor.  An update
takes at most one frame, and copies it last into the texture it leaves cached; other
sessions cache in textures of their own, which the ledger tells apart.
-/

namespace DesktopCapture

open Capture Scenario

/-! ## What an update leaves -/

/-- From `latest` and `copies` on, nothing became of other monitors, the cache shows
the last frame of its own, and at most one copy was made, into the cached texture. -/
structure Captured (index : UInt32) (latest : UInt32 → Option TakenFrame)
    (copies : List (Nat × Nat)) (cache : FrameCache)
    (latest' : UInt32 → Option TakenFrame) (copies' : List (Nat × Nat)) : Prop where
  others : ∀ other, other ≠ index → latest' other = latest other
  shows : Shows (latest' index) cache copies'
  copies : copies' = copies ∨ ∃ texture source, cache.texture = some texture ∧
    copies' = copies ++ [(texture.id, source)]

/-- A cache whose texture can take a frame. -/
structure FrameCache.Suits (source : Texture) (cache : FrameCache) (texture : Texture) :
    Prop where
  cached : cache.texture = some texture
  textureSize : texture.size = source.size
  size : cache.size = source.size
  format : cache.format = .cached source.format
  native : texture.format = cache.format.native

section

variable {index : UInt32} {latest : UInt32 → Option TakenFrame}
  {copies : List (Nat × Nat)} {cache : FrameCache} {source : Texture}

theorem filter_append_other {destination other : Nat} (hother : other ≠ destination)
    (from' : Nat) : (copies ++ [(other, from')]).filter (fun copy => copy.1 = destination) =
      copies.filter fun copy => copy.1 = destination := by
  rw [List.filter_append, List.filter_singleton]
  simp [hother]

/-- Copying the last frame into a cache that suits it makes the cache show it. -/
theorem FrameCache.Suits.captured {texture : Texture} (hsuits : cache.Suits source texture) :
    Captured index latest copies cache
      (FrameHistory.put latest index (some ⟨source, false⟩))
      (copies ++ [(texture.id, source.id)]) where
  others := fun other hother => FrameHistory.put_other _ _ hother
  shows := by
    rw [FrameHistory.put_self]
    constructor
    · rw [hsuits.cached]
      constructor
      · intro hnone
        cases hnone
      · intro hunallocated
        cases hunallocated _ rfl
    · intro other hother
      rw [hsuits.cached] at hother
      cases hother
      refine ⟨_, rfl, hsuits.textureSize, hsuits.size, hsuits.format, hsuits.native, ?_⟩
      rw [List.filter_append, List.filter_singleton]
      simp
  copies := .inr ⟨texture, source.id, hsuits.cached, rfl⟩

theorem captured_unallocated (hnone : cache.texture = none) :
    Captured index latest copies cache
      (FrameHistory.put latest index (some ⟨source, true⟩)) copies where
  others := fun other hother => FrameHistory.put_other _ _ hother
  shows := by
    rw [FrameHistory.put_self]
    constructor
    · refine ⟨fun _ taken htaken => ?_, fun _ => hnone⟩
      cases htaken
      rfl
    · intro texture htexture
      rw [hnone] at htexture
      cases htexture
  copies := .inl rfl

theorem Shows.captured (hshows : Shows (latest index) cache copies) :
    Captured index latest copies cache latest copies :=
  ⟨fun _ _ => rfl, hshows, .inl rfl⟩

/-- A cache that fits a frame suits it with the texture it has. -/
theorem Shows.suits {frame : Option TakenFrame} (hshows : Shows frame cache copies)
    (hfits : cache.fits source.size (.cached source.format) = true) :
    ∃ texture, cache.Suits source texture := by
  simp only [FrameCache.fits, Bool.and_eq_true, decide_eq_true_eq] at hfits
  obtain ⟨⟨hsome, hsize⟩, hformat⟩ := hfits
  obtain ⟨texture, htexture⟩ := Option.isSome_iff_exists.mp hsome
  obtain ⟨taken, -, htextureSize, htakenSize, -, hnative, -⟩ := hshows.present texture htexture
  refine ⟨texture, htexture, ?_, hsize, hformat, hnative⟩
  rw [htextureSize, ← htakenSize, hsize]

namespace FrameCache

theorem frames_release : Triple (Acquired index latest copies) cache.release
    (fun _ => Acquired index latest copies) := by
  unfold release
  cases cache.texture with
  | none => exact Triple.pure fun _ _ h => h
  | some texture => exact Capture.frames_release _

/-- Reallocation leaves a cache that suits the frame, or none for the frame. -/
theorem frames_reallocate (hdr : Bool) :
    Triple
      (Acquired index (FrameHistory.put latest index (some ⟨source, false⟩)) copies)
      (cache.reallocate source hdr)
      (fun cache' past device =>
        (Acquired index (FrameHistory.put latest index (some ⟨source, false⟩)) copies
          past device ∧ ∃ texture, cache'.Suits source texture) ∨
        (Recorded (FrameHistory.put latest index (some ⟨source, true⟩)) copies past device ∧
          cache'.texture = none)) := by
  unfold reallocate
  refine Triple.bind frames_release fun _ => ?_
  refine Triple.bind (frames_note fun _ => rfl) fun _ => ?_
  refine Triple.bind (frames_createTexture _ _) fun created => ?_
  cases created with
  | ok texture =>
      apply Triple.pure
      rintro past device ⟨hacquired, hsize, hnative⟩
      exact .inl ⟨hacquired, texture, rfl, hsize, rfl, rfl, hnative⟩
  | error error =>
      refine Triple.bind (TakesNoFrame.notify [] (.textureFailed error)).triple fun _ => ?_
      apply Triple.pure
      intro past device hrecorded
      refine .inr ⟨?_, rfl⟩
      rw [FrameHistory.put_self, FrameHistory.put_put] at hrecorded
      exact hrecorded

/-- Taking in the last frame makes the cache show it. -/
theorem frames_ingest (hdr : Bool) {frame : Option TakenFrame} {before : List (Nat × Nat)}
    (hshows : Shows frame cache before) :
    Triple
      (Acquired index (FrameHistory.put latest index (some ⟨source, false⟩)) copies)
      (cache.ingest source hdr)
      (fun cache' => OfFrames (Captured index latest copies cache')) := by
  have hfilled : ∀ (cache' : FrameCache) (texture : Texture), cache'.Suits source texture →
      Triple (Recorded (FrameHistory.put latest index (some ⟨source, false⟩)) copies)
        (do cache'.fill source; pure cache')
        (fun cache' => OfFrames (Captured index latest copies cache')) := by
    intro cache' texture hsuits
    unfold fill
    rw [hsuits.cached]
    refine Triple.bind (frames_copyTexture texture source) fun _ => ?_
    apply Triple.pure
    rintro past device ⟨hlatest, hcopies⟩
    rw [OfFrames, hlatest, hcopies]
    exact hsuits.captured
  have hempty : ∀ cache' : FrameCache, cache'.texture = none →
      Triple (Recorded (FrameHistory.put latest index (some ⟨source, true⟩)) copies)
        (do cache'.fill source; pure cache')
        (fun cache' => OfFrames (Captured index latest copies cache')) := by
    intro cache' hnone
    unfold fill
    rw [hnone]
    apply Triple.pure_bind
    apply Triple.pure
    rintro past device ⟨hlatest, hcopies⟩
    rw [OfFrames, hlatest, hcopies]
    exact captured_unallocated hnone
  unfold ingest
  by_cases hfits : cache.fits source.size (.cached source.format) = true
  · rw [if_pos hfits]
    obtain ⟨texture, hsuits⟩ := hshows.suits hfits
    apply Triple.pure_bind
    exact (hfilled cache texture hsuits).weaken (fun _ _ h => h.recorded) fun _ _ _ h => h
  · rw [if_neg hfits]
    refine Triple.bind (frames_reallocate hdr) fun cache' => ?_
    rintro past device (⟨hacquired, texture, hsuits⟩ | ⟨hrecorded, hnone⟩)
    · exact hfilled cache' texture hsuits past device hacquired.recorded
    · exact hempty cache' hnone past device hrecorded

end FrameCache

namespace Session

/-- Presenting takes no frame and leaves the cache. -/
theorem frames_present (session : Session)
    {said : (UInt32 → Option TakenFrame) → List (Nat × Nat) → Prop} :
    Triple (OfFrames said) session.present
      (fun session' past device => OfFrames said past device ∧
        session'.cache = session.cache) := by
  apply (TakesNoFrame.of_isAside session.aside_present).triple.and_yields
  intro device
  obtain ⟨preview, hpreview⟩ := session.present_value device
  rw [hpreview]

theorem noFrame_handBack (duplication : Duplication) :
    (handBack duplication).TakesNoFrame := by
  refine TakesNoFrame.bind (TakesNoFrame.fallible (fun _ _ => rfl) ?_) fun handed => ?_
  · intro device value device' hact
    cases hact
    rfl
  · cases handed with
    | ok _ => exact .pure _
    | error error => exact .notify _ _

theorem frames_takeFrame {session : Session} (duplication : Duplication)
    (resource : FrameResource) (hshows : Shows (latest index) session.cache copies) :
    Triple (Acquired index latest copies) (session.takeFrame duplication resource)
      (fun session' => OfFrames (Captured index latest copies session'.cache)) := by
  refine Triple.bind (frames_frameTexture resource) fun queried => ?_
  cases queried with
  | error error =>
      refine Triple.bind (TakesNoFrame.notify [] (.frameTextureFailed error)).triple
        fun _ => ?_
      refine Triple.bind (noFrame_handBack duplication).triple fun _ => ?_
      apply Triple.pure
      rintro past device ⟨hlatest, hcopies⟩
      rw [OfFrames, hlatest, hcopies]
      exact hshows.captured
  | ok source =>
      refine Triple.bind (FrameCache.frames_ingest session.color.hdr hshows) fun cache => ?_
      refine Triple.bind (noFrame_handBack duplication).triple fun _ => ?_
      refine ({ session with cache, frameAvailable := true }.frames_present).weaken
        (fun _ _ h => h) ?_
      rintro session' past device ⟨hcaptured, hcache⟩
      rw [hcache]
      exact hcaptured

/-- However an update ends, the cache shows the last frame taken. -/
theorem frames_update {session : Session} (hat : session.IsAt index)
    (hshows : Shows (latest index) session.cache copies) :
    Triple (Recorded latest copies) session.update
      (fun result => OfFrames (Captured index latest copies result.2.cache)) := by
  have hkept : ∀ past device, Recorded latest copies past device →
      OfFrames (Captured index latest copies session.cache) past device := by
    rintro past device ⟨hlatest, hcopies⟩
    rw [OfFrames, hlatest, hcopies]
    exact hshows.captured
  have hshown : Triple (Recorded latest copies)
      (do let session ← session.present; pure (true, session))
      (fun result => OfFrames (Captured index latest copies result.2.cache)) := by
    refine Triple.bind session.frames_present fun session' => ?_
    apply Triple.pure
    rintro past device ⟨hrecorded, hcache⟩
    rw [hcache]
    exact hkept past device hrecorded
  unfold update
  rcases hduplication : session.duplication with _ | duplication
  · exact Triple.pure hkept
  · refine Triple.bind (frames_acquire duplication 0) fun acquired => ?_
    rcases acquired with (monitor | error | _ | _) | resource
    · exact Triple.bind (TakesNoFrame.notify _ _).triple fun _ => hshown
    · exact Triple.bind (TakesNoFrame.notify _ _).triple fun _ => hshown
    · refine Triple.bind (TakesNoFrame.notify _ _).triple fun _ => ?_
      refine Triple.bind (TakesNoFrame.release _).triple fun _ => ?_
      exact Triple.pure hkept
    · exact hshown
    · rw [hat.duplication duplication hduplication]
      refine Triple.bind (frames_takeFrame ⟨index⟩ resource hshows) fun session' => ?_
      exact Triple.pure fun _ _ h => h

theorem noFrame_output (monitor : UInt32) : (Adapter.output monitor).TakesNoFrame := by
  refine TakesNoFrame.bind (TakesNoFrame.fallible (fun _ _ => rfl) ?_) fun found => ?_
  · intro device value device' hact
    obtain ⟨-, -, rfl⟩ := Device.enumOutput_ok hact
    rfl
  · rcases found with error | _ | output
    · exact .pure _
    · exact .pure _
    · exact .pure _

theorem frames_openDuplication (spans : List Span) (output : Output) :
    Triple (Recorded latest copies) (openDuplication spans output)
      (onResult (Recorded latest copies)
        (Recorded (FrameHistory.put latest output.index none) copies)) := by
  have hcolor : (colorInfo output).TakesNoFrame := by
    apply TakesNoFrame.fallible (fun _ _ => rfl)
    intro device value device' hact
    obtain ⟨-, -, rfl⟩ := Device.colorInfo_ok hact
    rfl
  refine Triple.bind (frames_duplicateWithFormats output offeredFormats)
    fun negotiated => ?_
  rcases negotiated with error | _ | duplication
  · exact Triple.pure fun _ _ h => h
  · refine Triple.bind (TakesNoFrame.notify _ _).triple fun _ => ?_
    refine Triple.bind (frames_duplicate output) fun duplicated => ?_
    cases duplicated with
    | error error => exact Triple.pure fun _ _ h => h
    | ok duplication => exact Triple.pure fun _ _ h => h
  · refine Triple.bind hcolor.triple fun color => ?_
    cases color with
    | ok color => exact Triple.pure fun _ _ h => h
    | error error =>
        refine Triple.bind (TakesNoFrame.notify _ _).triple fun _ => ?_
        exact Triple.pure fun _ _ h => h

theorem frames_startWithin (spans : List Span) (index : UInt32) (config : SessionConfig) :
    Triple (Recorded latest copies) (startWithin spans index config)
      (onResult (Recorded latest copies)
        (Recorded (FrameHistory.put latest index none) copies)) := by
  refine Triple.bind ((noFrame_output index).triple.and_yields
    (does_output index).yields) fun found => ?_
  apply Triple.of_and
  intro hindex
  cases found with
  | error error => exact Triple.pure fun _ _ h => h
  | ok output =>
      have hopened := @frames_openDuplication latest copies spans output
      rw [show output.index = index from hindex] at hopened
      refine Triple.bind hopened fun opened => ?_
      rcases opened with error | ⟨duplication, color⟩
      · exact Triple.pure fun _ _ h => h
      · have hstarted : ∀ preview : Option Preview, Triple
            (Recorded (FrameHistory.put latest index none) copies)
            (do
              notify spans (.sessionStarted index color)
              pure (.ok
                { duplication := some duplication
                  cache := .empty
                  preview
                  monitor := index
                  color
                  frameAvailable := false
                  refs := 1 }))
            (@onResult CaptureError Session (Recorded latest copies)
              (Recorded (FrameHistory.put latest index none) copies)) := by
          intro preview
          refine Triple.bind (TakesNoFrame.notify _ _).triple fun _ => ?_
          exact Triple.pure fun _ _ h => h
        have hmade := TakesNoFrame.of_isAside
          (aside_openPreview spans output config.title)
        dsimp only
        split
        · exact Triple.bind hmade.triple hstarted
        · exact Triple.pure_bind (hstarted none)

/-- A new session begins without a last frame. -/
theorem frames_start (index : UInt32) (config : SessionConfig) :
    Triple (Recorded latest copies) (start index config)
      (onResult (Recorded latest copies)
        (Recorded (FrameHistory.put latest index none) copies)) := by
  refine Triple.bind (frames_startWithin [.sessionStart index] index config)
    fun started => ?_
  cases started with
  | ok session =>
      refine Triple.bind (TakesNoFrame.endSpan _).triple fun _ => ?_
      exact Triple.pure fun _ _ h => h
  | error error =>
      refine Triple.bind (TakesNoFrame.notify _ _).triple fun _ => ?_
      refine Triple.bind (TakesNoFrame.endSpan _).triple fun _ => ?_
      exact Triple.pure fun _ _ h => h

theorem noFrame_release (session : Session) : session.release.TakesNoFrame := by
  have hcache : session.cache.release.TakesNoFrame := by
    unfold FrameCache.release
    cases session.cache.texture with
    | none => exact .pure _
    | some texture => exact .release _
  rw [release_eq]
  refine TakesNoFrame.bind ?_ fun _ => TakesNoFrame.bind hcache fun _ => ?_
  · cases session.duplication with
    | none => exact .pure _
    | some duplication => exact .release _
  · cases session.preview with
    | none => exact .pure _
    | some preview => exact .of_isAside preview.aside_release

end Session
end

/-! ## Every live session shows its last frame -/

/-- A copy into another texture changes nothing of what is shown. -/
theorem Shows.of_copy {frame : Option TakenFrame} {cache : FrameCache}
    {copies : List (Nat × Nat)} (hshows : Shows frame cache copies) {destination : Nat}
    (source : Nat)
    (hother : ∀ texture, cache.texture = some texture → destination ≠ texture.id) :
    Shows frame cache (copies ++ [(destination, source)]) where
  absent := hshows.absent
  present := by
    intro texture htexture
    rw [filter_append_other (hother texture htexture)]
    exact hshows.present texture htexture

theorem captured_empty {index : UInt32} {latest : UInt32 → Option TakenFrame}
    {copies : List (Nat × Nat)} :
    Captured index latest copies .empty (FrameHistory.put latest index none) copies where
  others := fun other hother => FrameHistory.put_other _ _ hother
  shows := by
    rw [FrameHistory.put_self]
    exact ⟨⟨fun _ => nofun, fun _ => rfl⟩, nofun⟩
  copies := .inl rfl

/-- Once one session has captured, all still show their last frames, if none but it
has the texture that was copied into. -/
theorem Captured.insert {sessions : MonitorTable Session} {index : UInt32}
    {session : Session} {latest latest' : UInt32 → Option TakenFrame}
    {copies copies' : List (Nat × Nat)}
    (hcaptured : Captured index latest copies session.cache latest' copies')
    (hshows : sessions.All fun other found => Shows (latest other) found.cache copies)
    (hother : ∀ texture, session.cache.texture = some texture →
      ∀ other found texture', other ≠ index → sessions.get? other = some found →
        found.cache.texture = some texture' → texture.id ≠ texture'.id) :
    (sessions.insert index session).All fun other found =>
      Shows (latest' other) found.cache copies' := by
  intro other found hfound
  rw [MonitorTable.get?_insert] at hfound
  by_cases hsame : other = index
  · rw [if_pos hsame] at hfound
    cases hfound
    rw [hsame]
    exact hcaptured.shows
  · rw [if_neg hsame] at hfound
    have hbefore := hshows other found hfound
    rw [hcaptured.others other hsame]
    rcases hcaptured.copies with hnone | ⟨texture, source, htexture, hone⟩
    · rw [hnone]
      exact hbefore
    · rw [hone]
      apply hbefore.of_copy
      intro texture' htexture'
      exact hother texture htexture other found texture' hsame hfound htexture'

/-- Every live session shows the last frame taken from its monitor. -/
def ShowLatest (sessions : MonitorTable Session) : Assertion :=
  OfFrames fun latest copies =>
    sessions.All fun index session => Shows (latest index) session.cache copies

/-- Where sessions stand, and what they own. -/
def PlacedAndOwned (sessions : MonitorTable Session) : Assertion := fun past device =>
  Placed sessions past device ∧ Owned sessions past device

theorem FrameHistory.after_of_isQuiet (history : FrameHistory) {entry : Entry}
    (hquiet : entry.isQuiet = true) : history.after entry = history := by
  unfold Entry.isQuiet Entry.isQuestion at hquiet
  split at hquiet
  · rfl
  · rfl
  · split at hquiet <;> first | rfl | cases hquiet

theorem showLatest : Kept PlacedAndOwned ShowLatest where
  world := by
    intro sessions past device step _ h
    cases step <;> exact h
  quiet := by
    intro sessions past device entry faults hentry _ h
    rw [ShowLatest, OfFrames, FrameHistory.ofJournal_append_singleton,
      FrameHistory.after_of_isQuiet _ hentry]
    exact h
  start := by
    intro sessions index config hvacant past device h
    have hstarted := Session.frames_start index config past device ⟨rfl, rfl⟩
    have hnew := (Session.does_start index config).yields device
    cases hresult : (Session.start index config device).value with
    | error error =>
        rw [hresult] at hstarted
        obtain ⟨hlatest, hcopies⟩ := hstarted
        rw [whenStarted, ShowLatest, OfFrames, hlatest, hcopies]
        exact h.2
    | ok session =>
        rw [hresult] at hstarted hnew
        obtain ⟨hlatest, hcopies⟩ := hstarted
        obtain ⟨preview, color, rfl⟩ := hnew
        rw [whenStarted, ShowLatest, OfFrames, hlatest, hcopies]
        exact captured_empty.insert h.2 nofun
  update := by
    intro sessions index session hlive past device h
    obtain ⟨⟨hplaced, howned⟩, hshows⟩ := h
    have hcaptured := Session.frames_update (hplaced index session hlive)
      (hshows index session hlive) past device ⟨rfl, rfl⟩
    have howned' := owned.update hlive past device ⟨trivial, howned⟩
    refine hcaptured.insert hshows ?_
    intro texture htexture other found texture' hother hfound htexture'
    apply howned'.textures_ne hother _ _ htexture htexture'
    · rw [MonitorTable.get?_insert, if_pos rfl]
    · rw [MonitorTable.get?_insert, if_neg hother, hfound]
  setVisible := by
    intro sessions index session visible hlive past device h
    obtain ⟨preview, hpreview⟩ := session.setPreviewVisible_value visible device
    have hkept := (TakesNoFrame.of_isAside (session.aside_setPreviewVisible visible)).triple
      past device h.2
    rw [hpreview]
    exact MonitorTable.All.insert hkept (hkept index session hlive)
  release := by
    intro sessions index session hlive past device h
    have hkept := session.noFrame_release.triple past device h.2
    exact MonitorTable.All.erase hkept index
  recount := by
    intro sessions index session past device refs hpositive hlive _ h
    exact MonitorTable.All.insert h (h index session hlive)
  window := by
    intro sessions index session session' past device step hlive hstep _ h
    obtain ⟨preview, -, rfl⟩ := Option.map_eq_some_iff.mp hstep
    exact MonitorTable.All.insert h (h index session hlive)
  reset := by
    intro sessions past device _ h
    exact MonitorTable.All.map h fun index session hshows => hshows

/-- After every run each live session shows the last frame taken from its monitor
since the session began: there is no texture exactly if there is no such frame or no
texture could be allocated for it, and a texture has the size and the general format
of the frame, as the cache says, and the frame was the last to be copied into it. -/
theorem sessions_show_latest_frame (outputs : List OutputConfig) (config : SessionConfig)
    (steps : List DuplicatorStep) {index : UInt32} {session : Session}
    (hlive : (DuplicatorState.after outputs config steps).sessions.get? index =
      some session) :
    let frame := (FrameHistory.ofJournal
      (DuplicatorState.history outputs config steps)).latest index
    let copies := (DuplicatorState.after outputs config steps).device.copies
    (session.texture = none ↔ ∀ taken, frame = some taken → taken.unallocated = true) ∧
    ∀ texture, session.texture = some texture → ∃ taken, frame = some taken ∧
      texture.size = taken.texture.size ∧ session.cache.size = taken.texture.size ∧
      session.cache.format = .cached taken.texture.format ∧
      texture.format = session.cache.format.native ∧
      (copies.filter fun copy => copy.1 = texture.id).getLast? =
        some (texture.id, taken.texture.id) := by
  intro frame copies
  have hinvariant := Kept.and (Kept.and placed owned.given) showLatest
  have hkept := hinvariant.after_steps outputs config
    ⟨⟨.empty, Ledger.initial outputs⟩, .empty⟩ steps
  have hshows : Shows frame session.cache copies := hkept.2 index session hlive
  exact ⟨hshows.absent, hshows.present⟩

/-- A session that lost its duplication still shows the frame it took before. -/
theorem sessions_show_latest_frame_lost :
    let size : Size := ⟨640, 480⟩
    let steps : List DuplicatorStep := [.create 0,
      .world (.pushFrames 0 [.frame size .bgra8, .accessLost]),
      .use 0 .update, .use 0 .update]
    ∃ session, (DuplicatorState.after singleOutputDevice.outputs .standard
        steps).sessions.get? 0 = some session ∧ session.state = .lost ∧
      ∃ texture, session.texture = some texture ∧ texture.size = size := by
  intro size steps
  have hlost : ((DuplicatorState.after singleOutputDevice.outputs .standard
      steps).sessions.get? 0).map Session.state = some .lost := by decide +kernel
  have hframe : ((FrameHistory.ofJournal (DuplicatorState.history
      singleOutputDevice.outputs .standard steps)).latest 0).map
        (fun taken => (taken.texture.size, taken.unallocated)) = some (size, false) := by
    decide +kernel
  obtain ⟨session, hlive, hstate⟩ := Option.map_eq_some_iff.mp hlost
  obtain ⟨taken, htaken, hsize⟩ := Option.map_eq_some_iff.mp hframe
  obtain ⟨habsent, hpresent⟩ :=
    sessions_show_latest_frame singleOutputDevice.outputs .standard steps hlive
  refine ⟨session, hlive, hstate, ?_⟩
  cases htexture : session.texture with
  | none =>
      have hunallocated := habsent.mp htexture taken htaken
      rw [Prod.mk.injEq, hunallocated] at hsize
      cases hsize.2
  | some texture =>
      obtain ⟨other, hother, htextureSize, -⟩ := hpresent texture htexture
      rw [htaken] at hother
      cases hother
      exact ⟨texture, rfl, htextureSize.trans (Prod.mk.inj hsize).1⟩

end DesktopCapture
