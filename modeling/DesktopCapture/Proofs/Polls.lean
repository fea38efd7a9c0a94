import DesktopCapture.Proofs.Conduct

/-!
# How an update goes

An update polls the duplication of its session at most once and goes one of five ways:
the session is lost already, it is lost now, no frame arrives, or one arrives that has no
texture or has one.  Each way says what the journal holds in which order, what the answer
is and what becomes of the session, so that nothing about updates needs them opened again.

Often it does not matter what is written about textures and for the preview.  A second
account of the updates says no more of that than which kinds of entries there are.
-/

namespace DesktopCapture

open Capture

/-- The entries of showing what is cached: the calls for a preview, and the log. -/
def Entry.isShowing : Entry → Bool
  | .notice .. => true
  | entry => entry.isAside

theorem Entry.isShowing_of_isAside {entry : Entry} (haside : entry.isAside = true) :
    entry.isShowing = true := by
  unfold isShowing
  split
  · rfl
  · exact haside

namespace Session

/-- How an acquired frame is handed back. -/
inductive Returns (output : UInt32) : List Entry → Prop
  | returned : Returns output [.call (.releaseFrame output) .done]
  | refused {error : PlatformError} :
      Returns output
        [.call (.releaseFrame output) (.failed (.platform error)),
          .notice [] (.releaseFrameFailed error)]

/-- What the log is told of an acquisition that fails. -/
def missNotices : CaptureError → List Entry
  | .timeout => []
  | error => [.notice [] (.acquireFailed error)]

/-- How an update of a session goes: its journal, its answer and the session after it. -/
inductive Updates (session : Session) : List Entry → Bool × Session → Prop
  | rested (hlost : session.duplication = none) : session.Updates [] (false, session)
  | lost {duplication : Duplication} (hown : session.duplication = some duplication) :
      session.Updates
        [.call (.acquire duplication.output 0) (.failed .accessLost),
          .notice [] (.accessLost session.monitor),
          .release (.duplication duplication.output)]
        (false, { session with duplication := none })
  | missed {duplication : Duplication} {error : CaptureError} {acquired : Device}
      {shown : Traced Session} (hown : session.duplication = some duplication)
      (herror : error ≠ .accessLost) (hshown : session.present acquired = shown) :
      session.Updates
        (.call (.acquire duplication.output 0) (.failed error) ::
          (missNotices error ++ shown.journal))
        (true, shown.value)
  | unreadable {duplication : Duplication} {error : PlatformError} {returned : List Entry}
      (hown : session.duplication = some duplication)
      (hreturned : Returns duplication.output returned) :
      session.Updates
        (.call (.acquire duplication.output 0) .done ::
          .call .frameTexture (.failed (.platform error)) ::
          .notice [] (.frameTextureFailed error) :: returned)
        (true, session)
  | took {duplication : Duplication} {source : Texture} {queried handed : Device}
      {ingested : Traced FrameCache} {returned : List Entry} {shown : Traced Session}
      (hown : session.duplication = some duplication)
      (hingested : session.cache.ingest source session.color.hdr queried = ingested)
      (hreturned : Returns duplication.output returned)
      (hshown : Session.present
        { session with cache := ingested.value, frameAvailable := true } handed = shown) :
      session.Updates
        (.call (.acquire duplication.output 0) .done ::
          .call .frameTexture (.texture source) ::
          (ingested.journal ++ (returned ++ shown.journal)))
        (true, shown.value)

theorem handBack_returns (duplication : Duplication) (device : Device) :
    Returns duplication.output (handBack duplication device).journal := by
  unfold handBack
  rw [bind_apply]
  rcases fallible_cases .releaseFrame (.releaseFrame duplication.output) (fun _ => .done)
      Device.releaseFrame device with
    ⟨error, faults, hhanded⟩ | ⟨value, device', -, hhanded⟩
  · rw [releaseFrame, hhanded]
    exact .refused
  · rw [releaseFrame, hhanded]
    exact .returned

section

variable {session : Session} {duplication : Duplication} {resource : FrameResource}
  {device queried : Device} {journal : List Entry}

/-- A frame without a texture is handed back, and the session is left alone. -/
theorem takeFrame_unreadable {error : PlatformError}
    (hqueried : frameTexture resource device = ⟨.error error, queried, journal⟩) :
    let handed := handBack duplication queried
    session.takeFrame duplication resource device = ⟨session, handed.device,
      journal ++ .notice [] (.frameTextureFailed error) :: handed.journal⟩ := by
  simp only [takeFrame, bind_apply, hqueried, pure_apply, List.append_nil]
  rfl

/-- The texture of a frame is taken in, the frame is handed back, and then what is cached
is shown. -/
theorem takeFrame_obtained {source : Texture}
    (hqueried : frameTexture resource device = ⟨.ok source, queried, journal⟩) :
    let ingested := session.cache.ingest source session.color.hdr queried
    let handed := handBack duplication ingested.device
    let shown := Session.present
      { session with cache := ingested.value, frameAvailable := true } handed.device
    session.takeFrame duplication resource device = ⟨shown.value, shown.device,
      journal ++ (ingested.journal ++ (handed.journal ++ shown.journal))⟩ := by
  simp only [takeFrame, bind_apply, hqueried]

end

/-- Every update goes one of these ways. -/
theorem update_updates (session : Session) (device : Device) :
    session.Updates (session.update device).journal (session.update device).value := by
  cases hown : session.duplication with
  | none =>
      simp only [update, hown, pure_apply]
      exact .rested hown
  | some duplication =>
      simp only [update, hown, bind_apply]
      rcases acquire_cases duplication 0 device with
        ⟨error, acquired, hacquired⟩ | ⟨resource, acquired, hacquired⟩
      · rw [hacquired]
        cases error with
        | accessLost => exact .lost hown
        | timeout =>
            have hmissed := @Updates.missed session _ .timeout acquired _ hown nofun rfl
            simpa [missNotices] using hmissed
        | notFound index =>
            have hmissed := @Updates.missed session _ (.notFound index) acquired _ hown nofun rfl
            simpa [missNotices, notify, note] using hmissed
        | platform error =>
            have hmissed := @Updates.missed session _ (.platform error) acquired _ hown nofun rfl
            simpa [missNotices, notify, note] using hmissed
      · rw [hacquired]
        dsimp only
        rcases fallible_cases .frameTexture .frameTexture .texture
            (Device.frameTexture resource) acquired with
          ⟨error, faults, hqueried⟩ | ⟨source, queried, -, hqueried⟩
        · rw [bind_apply, takeFrame_unreadable hqueried]
          simpa using Updates.unreadable hown (handBack_returns duplication _)
        · rw [bind_apply, takeFrame_obtained hqueried]
          simpa using Updates.took hown rfl (handBack_returns duplication _) rfl

/-! ## What kinds of entries there are -/

/-- What becomes of a frame that was acquired from an output, and of the session.  The
frame is handed back once; its texture was queried and cached before this, and what is
shown is shown after it. -/
inductive Takes (session : Session) (output : UInt32) : List Entry → Session → Prop
  | unreadable {error : CaptureError} {answer : Answer} {cached shown : List Entry}
      (hcached : ∀ entry ∈ cached, entry.isCaching = true)
      (hshown : ∀ entry ∈ shown, entry.isShowing = true) :
      session.Takes output
        (.call .frameTexture (.failed error) ::
          (cached ++ .call (.releaseFrame output) answer :: shown)) session
  | obtained {texture : Texture} {answer : Answer} {cached shown : List Entry}
      {cache : FrameCache} {preview : Option Preview}
      (hcached : ∀ entry ∈ cached, entry.isCaching = true)
      (hshown : ∀ entry ∈ shown, entry.isShowing = true) :
      session.Takes output
        (.call .frameTexture (.texture texture) ::
          (cached ++ .call (.releaseFrame output) answer :: shown))
        { session with cache, preview, frameAvailable := true }

/-- How an update of a session can go: its journal, its answer and the session after it. -/
inductive Polled (session : Session) : List Entry → Bool × Session → Prop
  | rested (hlost : session.duplication = none) : session.Polled [] (false, session)
  | lost {duplication : Duplication} (hown : session.duplication = some duplication) :
      session.Polled
        [.call (.acquire duplication.output 0) (.failed .accessLost),
          .notice [] (.accessLost session.monitor),
          .release (.duplication duplication.output)]
        (false, { session with duplication := none })
  | missed {duplication : Duplication} {error : CaptureError} {shown : List Entry}
      {preview : Option Preview} (hown : session.duplication = some duplication)
      (herror : error ≠ .accessLost) (hshown : ∀ entry ∈ shown, entry.isShowing = true) :
      session.Polled (.call (.acquire duplication.output 0) (.failed error) :: shown)
        (true, { session with preview })
  | took {duplication : Duplication} {journal : List Entry} {session' : Session}
      (hown : session.duplication = some duplication)
      (htakes : session.Takes duplication.output journal session') :
      session.Polled (.call (.acquire duplication.output 0) .done :: journal) (true, session')

theorem showing_present (session : Session) (device : Device) :
    ∀ entry ∈ (session.present device).journal, entry.isShowing = true := by
  intro entry hentry
  exact Entry.isShowing_of_isAside (session.aside_present.entries device entry hentry)

theorem showing_missNotices (error : CaptureError) :
    ∀ entry ∈ missNotices error, entry.isShowing = true := by
  cases error with
  | timeout => exact List.forall_mem_nil _
  | _ => exact List.forall_mem_singleton.mpr rfl

theorem Returns.journal {output : UInt32} {returned : List Entry}
    (hreturned : Returns output returned) :
    ∃ answer told, returned = .call (.releaseFrame output) answer :: told ∧
      ∀ entry ∈ told, entry.isShowing = true := by
  cases hreturned with
  | returned => exact ⟨_, [], rfl, List.forall_mem_nil _⟩
  | refused => exact ⟨_, _, rfl, List.forall_mem_singleton.mpr rfl⟩

theorem Updates.polled {session : Session} {journal : List Entry} {done : Bool × Session}
    (hupdates : session.Updates journal done) : session.Polled journal done := by
  cases hupdates with
  | rested hlost => exact .rested hlost
  | lost hown => exact .lost hown
  | @missed _ error acquired _ hown herror hshown =>
      obtain ⟨preview, hpreview⟩ := session.present_value acquired
      rw [← hshown, hpreview]
      refine .missed hown herror ?_
      exact List.forall_mem_append.mpr
        ⟨showing_missNotices error, session.showing_present acquired⟩
  | @unreadable _ error _ hown hreturned =>
      obtain ⟨answer, told, rfl, htold⟩ := hreturned.journal
      refine .took hown (@Takes.unreadable session _ _ _ [_] told ?_ htold)
      exact List.forall_mem_singleton.mpr rfl
  | @took _ source queried handed ingested _ _ hown hingested hreturned hshown =>
      have hcached := (session.cache.does_ingest source session.color.hdr).writes queried
      obtain ⟨answer, told, rfl, htold⟩ := hreturned.journal
      obtain ⟨preview, hpreview⟩ := Session.present_value
        { session with cache := ingested.value, frameAvailable := true } handed
      rw [hingested] at hcached
      rw [← hshown, hpreview]
      refine .took hown (.obtained hcached ?_)
      exact List.forall_mem_append.mpr ⟨htold, Session.showing_present _ handed⟩

theorem update_polled (session : Session) (device : Device) :
    session.Polled (session.update device).journal (session.update device).value :=
  (session.update_updates device).polled

end Session
end DesktopCapture
