import DesktopCapture.Proofs.Loss
import DesktopCapture.Proofs.Presenting

/-!
# Updates that bring no frame

An update can find no frame, fail without losing access, or get a frame that has no texture.
The session stands still then: all that is cached stays, and at most its preview is another,
since what was cached before is offered to it again.  A run of such updates stands still by
induction, each update finding the session as the first one did but for the preview.
-/

namespace DesktopCapture

open Capture Scenario

namespace Entry

/-- The entries that make, fill or release a cached texture. -/
def isTextural : Entry → Bool
  | .call (.createTexture ..) _ | .call (.copyTexture ..) _ | .release (.texture _) => true
  | _ => false

theorem isTextural_of_isShowing {entry : Entry} (hshowing : entry.isShowing = true) :
    entry.isTextural = false := by
  unfold isShowing isAside at hshowing
  split at hshowing
  · rfl
  · split at hshowing <;> first | rfl | cases hshowing

end Entry

namespace Session

/-- An update tells that its acquisition fails without losing access, which it does if no
frame arrives in time, or that its frame has no texture. -/
def StandsStill (index : UInt32) (journal : List Entry) : Prop :=
  (∃ error, error ≠ .accessLost ∧ .call (.acquire index 0) (.failed error) ∈ journal) ∨
    ∃ error, .call .frameTexture (.failed error) ∈ journal

variable {session : Session} {journal : List Entry} {done : Bool × Session}

/-! ## Where an update can tell of a failure -/

theorem not_mem_present (call : Call) (answer : Answer)
    (hcall : (Entry.call call answer).isAside = false) (session : Session) (device : Device) :
    .call call answer ∉ (session.present device).journal := by
  intro hmember
  rw [session.aside_present.entries device _ hmember] at hcall
  cases hcall

theorem not_mem_ingest (call : Call) (answer : Answer)
    (hcall : (Entry.call call answer).isCaching = false) (cache : FrameCache) (source : Texture)
    (hdr : Bool) (device : Device) :
    .call call answer ∉ (cache.ingest source hdr device).journal := by
  intro hmember
  rw [(cache.does_ingest source hdr).writes device _ hmember] at hcall
  cases hcall

theorem not_mem_missNotices (call : Call) (answer : Answer) (error : CaptureError) :
    .call call answer ∉ missNotices error := by
  cases error <;> simp [missNotices]

theorem Returns.not_mem {output : UInt32} {returned : List Entry}
    (hreturned : Returns output returned) (call : Call) (answer : Answer)
    (hcall : call ≠ .releaseFrame output) : .call call answer ∉ returned := by
  cases hreturned <;> simp [hcall]

/-- An update whose acquisition fails without losing access offers what is cached. -/
theorem Updates.of_missed (hupdates : session.Updates journal done) {output : UInt32}
    {error : CaptureError} (herror : error ≠ .accessLost)
    (hfailed : .call (.acquire output 0) (.failed error) ∈ journal) :
    ∃ acquired, journal = .call (.acquire output 0) (.failed error) ::
        (missNotices error ++ (session.present acquired).journal) ∧
      done = (true, (session.present acquired).value) := by
  cases hupdates with
  | rested => cases hfailed
  | lost => simp [herror] at hfailed
  | @missed _ other acquired shown _ _ hshown =>
      subst hshown
      have hnotshown := not_mem_present (.acquire output 0) (.failed error) rfl session acquired
      have hnottold := not_mem_missNotices (.acquire output 0) (.failed error) other
      simp only [List.mem_cons, List.mem_append, hnottold, hnotshown, or_false,
        Entry.call.injEq, Call.acquire.injEq, and_true, Answer.failed.injEq] at hfailed
      obtain ⟨rfl, rfl⟩ := hfailed
      exact ⟨acquired, rfl, rfl⟩
  | unreadable _ hreturned =>
      have hnotreturned := hreturned.not_mem (.acquire output 0) (.failed error) nofun
      simp [hnotreturned] at hfailed
  | @took _ source queried handed _ _ _ _ hingested hreturned hshown =>
      subst hingested hshown
      have hnotreturned := hreturned.not_mem (.acquire output 0) (.failed error) nofun
      have hnotingested := not_mem_ingest (.acquire output 0) (.failed error) rfl
        session.cache source session.color.hdr queried
      have hnotshown := not_mem_present (.acquire output 0) (.failed error) rfl
      simp [hnotreturned, hnotingested, hnotshown] at hfailed

/-- An update that gets a frame without a texture hands it back and does no more. -/
theorem Updates.of_unreadable (hupdates : session.Updates journal done) {error : CaptureError}
    (hfailed : .call .frameTexture (.failed error) ∈ journal) :
    ∃ duplication cause returned, session.duplication = some duplication ∧
      error = .platform cause ∧ Returns duplication.output returned ∧
      journal = .call (.acquire duplication.output 0) .done ::
        .call .frameTexture (.failed error) ::
        .notice [] (.frameTextureFailed cause) :: returned ∧
      done = (true, session) := by
  cases hupdates with
  | rested => cases hfailed
  | lost => simp at hfailed
  | @missed _ other acquired shown _ _ hshown =>
      subst hshown
      have hnotshown := not_mem_present .frameTexture (.failed error) rfl session acquired
      have hnottold := not_mem_missNotices .frameTexture (.failed error) other
      simp [hnottold, hnotshown] at hfailed
  | @unreadable duplication cause returned hown hreturned =>
      have hnotreturned := hreturned.not_mem .frameTexture (.failed error) nofun
      obtain rfl : error = .platform cause := by simpa [hnotreturned] using hfailed
      exact ⟨duplication, cause, returned, hown, rfl, hreturned, rfl, rfl⟩
  | @took _ source queried handed _ _ _ _ hingested hreturned hshown =>
      subst hingested hshown
      have hnotreturned := hreturned.not_mem .frameTexture (.failed error) nofun
      have hnotingested := not_mem_ingest .frameTexture (.failed error) rfl
        session.cache source session.color.hdr queried
      have hnotshown := not_mem_present .frameTexture (.failed error) rfl
      simp [hnotreturned, hnotingested, hnotshown] at hfailed

/-- An update that stands still answers `true`, leaves the session but for its preview, and
has nothing to do with textures. -/
theorem Updates.stands_still (hupdates : session.Updates journal done) {index : UInt32}
    (hstill : StandsStill index journal) :
    done.1 = true ∧ (∃ preview, done.2 = { session with preview }) ∧
      ∀ entry ∈ journal, entry.isTextural = false := by
  rcases hstill with ⟨error, herror, hfailed⟩ | ⟨error, hfailed⟩
  · obtain ⟨acquired, rfl, rfl⟩ := hupdates.of_missed herror hfailed
    have hshowing := List.forall_mem_append.mpr
      ⟨showing_missNotices error, session.showing_present acquired⟩
    refine ⟨rfl, session.present_value acquired, List.forall_mem_cons.mpr ⟨rfl, ?_⟩⟩
    exact fun entry hentry => Entry.isTextural_of_isShowing (hshowing entry hentry)
  · obtain ⟨duplication, cause, returned, -, rfl, hreturned, rfl, rfl⟩ :=
      hupdates.of_unreadable hfailed
    refine ⟨rfl, ⟨session.preview, rfl⟩, ?_⟩
    cases hreturned <;> simp [Entry.isTextural]

end Session

namespace Scenario.DuplicatorState

variable {state : DuplicatorState} {index : UInt32} {session : Session}

theorem stands_still_step (hsound : state.Sound)
    (hlive : state.sessions.get? index = some session)
    (hstill : Session.StandsStill index (state.step (.use index .update)).1.journal) :
    let done := state.step (.use index .update)
    done.1.reply = .flag true ∧
      (∃ preview, done.2.sessions.get? index = some { session with preview }) ∧
      ∀ entry ∈ done.1.journal, entry.isTextural = false := by
  intro done
  obtain ⟨hrecord, hsession⟩ := hsound.update_live hlive
  rw [hrecord] at hstill
  obtain ⟨hanswer, ⟨preview, hkept⟩, htextural⟩ :=
    (session.update_updates state.device).stands_still hstill
  refine ⟨?_, ⟨preview, ?_⟩, ?_⟩
  · rw [show done.1 = _ from hrecord, hanswer]
  · rw [show done.2.sessions.get? index = _ from hsession, hkept]
  · rw [show done.1 = _ from hrecord]
    exact htextural

/-- What is asked of a session's cached frame and its metadata. -/
def isReading : HandleUse → Bool
  | .texture | .colorSpace | .sdrWhite | .isHdr | .frameAvailable => true
  | _ => false

/-- A session that is another but for its preview answers the same. -/
theorem reading_live {state' : DuplicatorState} (hsound : state.Sound)
    (hlive : state.sessions.get? index = some session) (hsound' : state'.Sound)
    {preview : Option Preview}
    (hlive' : state'.sessions.get? index = some { session with preview }) {usage : HandleUse}
    (hreading : isReading usage = true) :
    (state'.step (.use index usage)).1.reply = (state.step (.use index usage)).1.reply := by
  rw [(hsound.use_live hlive usage).1, (hsound'.use_live hlive' usage).1]
  cases usage <;> first | rfl | cases hreading

/-- Updates that stand still, with whatever the world does between them. -/
def AllStandStill (index : UInt32) (state : DuplicatorState) : List DuplicatorStep → Prop
  | [] => True
  | taken :: rest =>
    ((∃ change, taken = .world change) ∨ taken = .use index .update ∧
      Session.StandsStill index (state.step taken).1.journal) ∧
    AllStandStill index (state.step taken).2 rest

/-- Any number of updates that stand still leave the session but for its preview. -/
theorem stands_still_run {state : DuplicatorState} (hsound : state.Sound) {session : Session}
    (hlive : state.sessions.get? index = some session) {during : List DuplicatorStep}
    (hstill : AllStandStill index state during) :
    let done := runFrom step state during
    (∃ preview, done.2.sessions.get? index = some { session with preview }) ∧
      ∀ entry ∈ journal done.1, entry.isTextural = false := by
  intro done
  induction during generalizing state session with
  | nil => exact ⟨⟨session.preview, hlive⟩, List.forall_mem_nil _⟩
  | cons taken rest ih =>
      have hstep : (∃ preview,
            (state.step taken).2.sessions.get? index = some { session with preview }) ∧
          ∀ entry ∈ (state.step taken).1.journal, entry.isTextural = false := by
        rcases hstill.1 with ⟨change, rfl⟩ | ⟨rfl, hupdate⟩
        · exact ⟨⟨session.preview, hlive⟩, List.forall_mem_nil _⟩
        · exact (stands_still_step hsound hlive hupdate).2
      obtain ⟨⟨preview, hlive'⟩, hfirst⟩ := hstep
      obtain ⟨hlast, hrest⟩ := ih (hsound.step taken) hlive' hstill.2
      exact ⟨hlast, List.forall_mem_append.mpr ⟨hfirst, hrest⟩⟩

/-- An update that gets no frame and does not lose access offers what is cached to the
preview once, and one that gets a frame without a texture hands it back and does not touch
the preview.  Either way it answers `true` and leaves the session but for its preview, with
nothing done to its texture, and so do any number of such updates: what is asked of the
cached frame afterwards is answered as before. -/
theorem updates_stand_still (outputs : List OutputConfig) (config : SessionConfig)
    (before : List DuplicatorStep) (index : UInt32) :
    let state := after outputs config before
    let done := state.step (.use index .update)
    (∀ session error, state.sessions.get? index = some session → error ≠ .accessLost →
      .call (.acquire index 0) (.failed error) ∈ done.1.journal →
        ∃ acquired shown, session.Offers acquired shown ∧
          done.1.journal = .call (.acquire index 0) (.failed error) ::
            (Session.missNotices error ++ shown.journal) ∧
          done.2.sessions.get? index = some shown.value) ∧
    (∀ session error, state.sessions.get? index = some session →
      .call .frameTexture (.failed error) ∈ done.1.journal →
        ∃ cause returned, error = .platform cause ∧ Session.Returns index returned ∧
          done.1.journal = .call (.acquire index 0) .done ::
            .call .frameTexture (.failed error) ::
            .notice [] (.frameTextureFailed cause) :: returned ∧
          done.2.sessions.get? index = some session) ∧
    (∀ session, state.sessions.get? index = some session →
      Session.StandsStill index done.1.journal →
        done.1.reply = .flag true ∧
        (∃ preview, done.2.sessions.get? index = some { session with preview }) ∧
        ∀ entry ∈ done.1.journal, entry.isTextural = false) ∧
    ∀ session during, state.sessions.get? index = some session →
      AllStandStill index state during →
        let last := runFrom step state during
        (∃ preview, last.2.sessions.get? index = some { session with preview }) ∧
        (∀ entry ∈ journal last.1, entry.isTextural = false) ∧
        ∀ usage, isReading usage = true →
          (last.2.step (.use index usage)).1.reply =
            (state.step (.use index usage)).1.reply := by
  intro state done
  have hsound : state.Sound := sound_after outputs config before
  have hplaced : state.sessions.All Session.IsAt :=
    placed.after_steps outputs config .empty before
  refine ⟨?_, ?_, ?_, ?_⟩
  · intro session error hlive herror hfailed
    obtain ⟨hrecord, hsession⟩ := hsound.update_live hlive
    rw [show done.1 = _ from hrecord] at hfailed ⊢
    rw [show done.2.sessions.get? index = _ from hsession]
    obtain ⟨acquired, hjournal, hdone⟩ :=
      (session.update_updates state.device).of_missed herror hfailed
    exact ⟨acquired, _, session.present_offers acquired, hjournal, by rw [hdone]⟩
  · intro session error hlive hfailed
    obtain ⟨hrecord, hsession⟩ := hsound.update_live hlive
    rw [show done.1 = _ from hrecord] at hfailed ⊢
    rw [show done.2.sessions.get? index = _ from hsession]
    obtain ⟨duplication, cause, returned, hown, hcause, hreturned, hjournal, hdone⟩ :=
      (session.update_updates state.device).of_unreadable hfailed
    obtain rfl := (hplaced index session hlive).duplication duplication hown
    exact ⟨cause, returned, hcause, hreturned, hjournal, by rw [hdone]⟩
  · intro session hlive hstill
    exact stands_still_step hsound hlive hstill
  · intro session during hlive hstill last
    obtain ⟨⟨preview, hlast⟩, htextural⟩ := stands_still_run hsound hlive hstill
    refine ⟨⟨preview, hlast⟩, htextural, ?_⟩
    intro usage hreading
    exact reading_live hsound hlive (hsound.run during) hlast hreading

/-- A frame without a texture, which cannot even be handed back, and an acquisition that
fails: the texture of the frame before is still there. -/
example :
    let steps : List DuplicatorStep := [.create 0,
      .world (.pushFrames 0 [.frame ⟨8, 8⟩ .bgra8, .notTexture, .failure]),
      .use 0 .update, .world (.queueFault .releaseFrame 5)]
    let state := after singleOutputDevice.outputs .standard steps
    let last := (runFrom step state [.use 0 .update, .use 0 .update]).2
    ((last.sessions.get? 0).bind Session.texture).isSome = true ∧
      (last.sessions.get? 0).bind Session.texture =
        (state.sessions.get? 0).bind Session.texture := by
  decide +kernel

end Scenario.DuplicatorState
end DesktopCapture
