import DesktopCapture.Proofs.Ingestion
import DesktopCapture.Proofs.Polls
import DesktopCapture.Proofs.Replay

/-!
# What becomes of an outcome

While no fault is queued, an update of an active session takes the first outcome to come
from its monitor, or times out if there is none, and what it does is decided by the
outcome.  A frame whose texture can be got is taken in, and it is copied once unless no
texture could be allocated for it; no other outcome leads to a copy.
-/

namespace DesktopCapture

open Capture

/-! ## The outcome of an acquisition -/

/-- What an acquisition with an outcome delivers. -/
def AcquireOutcome.delivered : AcquireOutcome → Except CaptureError FrameResource
  | .frame size format => .ok (.texture size format)
  | .notTexture => .ok .other
  | .timeout => .error .timeout
  | .accessLost => .error .accessLost
  | .failure => .error (.platform (scriptedFailure "MockDuplication::AcquireNextFrame"))

/-- How the journal tells of what an acquisition delivers. -/
def acquireAnswer : Except CaptureError FrameResource → Answer
  | .ok _ => .done
  | .error error => .failed error

/-- The outcome that the next acquisition from an output takes. -/
def Device.nextOutcome (device : Device) (output : UInt32) : AcquireOutcome :=
  (device.frames output).head?.getD .timeout

theorem Capture.acquire_delivers {device : Device} (hfaults : device.faults = .none)
    (output timeoutMs : UInt32) :
    ∃ acquired : Device, acquired.faults = .none ∧
      acquire ⟨output⟩ timeoutMs device =
        ⟨(device.nextOutcome output).delivered, acquired,
          [.call (.acquire output timeoutMs)
            (acquireAnswer (device.nextOutcome output).delivered)]⟩ := by
  simp only [acquire, hfaults, Faults.takeAcquire?_none, Device.acquire, Device.nextOutcome]
  rcases (device.frames output).head? with _ | outcome
  · exact ⟨_, rfl, rfl⟩
  · cases outcome <;> exact ⟨_, rfl, rfl⟩

/-! ## The update of an active session -/

namespace Session

/-- What an update does about an outcome of its session's output: its journal, and the
session after it. -/
inductive Serves (session : Session) (output : UInt32) :
    AcquireOutcome → List Entry → Session → Prop
  | frame {id : Nat} {size : Size} {format : NativeFormat} {answer : Answer}
      {taken shown : List Entry} {cache : FrameCache} {preview : Option Preview}
      (hingested : session.cache.Ingested ⟨id, size, format⟩ session.color.hdr taken cache)
      (hshown : ∀ entry ∈ shown, entry.isShowing = true) :
      session.Serves output (.frame size format)
        (.call (.acquire output 0) .done ::
          .call .frameTexture (.texture ⟨id, size, format⟩) ::
          (taken ++ .call (.releaseFrame output) answer :: shown))
        { session with cache, preview, frameAvailable := true }
  | notTexture {error : PlatformError} {answer : Answer} {shown : List Entry}
      (hshown : ∀ entry ∈ shown, entry.isShowing = true) :
      session.Serves output .notTexture
        (.call (.acquire output 0) .done ::
          .call .frameTexture (.failed (.platform error)) ::
          .notice [] (.frameTextureFailed error) ::
          .call (.releaseFrame output) answer :: shown)
        session
  | timeout {shown : List Entry} {preview : Option Preview}
      (hshown : ∀ entry ∈ shown, entry.isShowing = true) :
      session.Serves output .timeout
        (.call (.acquire output 0) (.failed .timeout) :: shown) { session with preview }
  | failure {error : PlatformError} {shown : List Entry} {preview : Option Preview}
      (hshown : ∀ entry ∈ shown, entry.isShowing = true) :
      session.Serves output .failure
        (.call (.acquire output 0) (.failed (.platform error)) :: shown)
        { session with preview }
  | accessLost :
      session.Serves output .accessLost
        [.call (.acquire output 0) (.failed .accessLost),
          .notice [] (.accessLost session.monitor), .release (.duplication output)]
        { session with duplication := none }

/-- An update of an active session serves the next outcome of its output. -/
theorem update_serves {session : Session} {output : UInt32} {device : Device}
    (hown : session.duplication = some ⟨output⟩) (hfaults : device.faults = .none) :
    session.Serves output (device.nextOutcome output) (session.update device).journal
      (session.update device).value.2 := by
  -- No fault is queued after the acquisition either, so a frame's texture can be got.
  obtain ⟨acquired, hunfaulted, hacquired⟩ := acquire_delivers hfaults output 0
  have hqueried := fun resource => fallible_of_none .frameTexture .frameTexture .texture
    (Device.frameTexture resource) hunfaulted
  have hshown := session.showing_present acquired
  obtain ⟨preview, hpreview⟩ := session.present_value acquired
  simp only [update, hown, bind_apply, hacquired]
  cases device.nextOutcome output with
  | frame size format =>
      let source : Texture := ⟨acquired.nextId, size, format⟩
      let queried : Device := { acquired with lastId := acquired.nextId }
      let ingested := session.cache.ingest source session.color.hdr queried
      let handed := handBack ⟨output⟩ ingested.device
      let marked := { session with cache := ingested.value, frameAvailable := true }
      have htaken : session.takeFrame ⟨output⟩ (.texture size format) acquired = _ :=
        takeFrame_obtained (hqueried (.texture size format))
      obtain ⟨answer, told, hhanded, htold⟩ :=
        (handBack_returns ⟨output⟩ ingested.device).journal
      obtain ⟨preview, hmarked⟩ := marked.present_value handed.device
      have hshown := marked.showing_present handed.device
      simp only [AcquireOutcome.delivered, acquireAnswer, bind_apply, pure_apply, htaken]
      rw [List.append_nil, hmarked, hhanded]
      exact .frame (session.cache.ingest_ingested _ _ _)
        (List.forall_mem_append.mpr ⟨htold, hshown⟩)
  | notTexture =>
      have htaken : session.takeFrame ⟨output⟩ .other acquired = _ :=
        takeFrame_unreadable (hqueried .other)
      obtain ⟨answer, told, hhanded, htold⟩ := (handBack_returns ⟨output⟩ acquired).journal
      simp only [AcquireOutcome.delivered, acquireAnswer, bind_apply, pure_apply, htaken]
      rw [List.append_nil, hhanded]
      exact .notTexture htold
  | timeout =>
      simp only [AcquireOutcome.delivered, acquireAnswer, bind_apply, pure_apply, hpreview]
      rw [List.append_nil]
      exact .timeout hshown
  | failure =>
      simp only [AcquireOutcome.delivered, acquireAnswer, bind_apply, pure_apply, hpreview,
        notify, note]
      rw [List.append_nil]
      exact .failure (List.forall_mem_cons.mpr ⟨rfl, hshown⟩)
  | accessLost => exact .accessLost

end Session

/-! ## What is copied -/

/-- Showing what is cached polls nothing and copies no texture into another. -/
theorem Entry.of_isShowing {entry : Entry} (hshowing : entry.isShowing = true) :
    entry.polled? = none ∧ entry.copied? = none ∧ entry.isUnallocated = false := by
  unfold isShowing isAside at hshowing
  split at hshowing
  · exact ⟨rfl, rfl, rfl⟩
  · split at hshowing <;> first | exact ⟨rfl, rfl, rfl⟩ | cases hshowing

section

variable {shown : List Entry} (hshown : ∀ entry ∈ shown, entry.isShowing = true)

include hshown

theorem countP_polled_of_isShowing (index : UInt32) :
    shown.countP (fun entry => entry.polled? = some index) = 0 := by
  refine List.countP_eq_zero.mpr fun entry hentry => ?_
  simp [(Entry.of_isShowing (hshown entry hentry)).1]

theorem copied_of_isShowing : shown.filterMap Entry.copied? = [] :=
  List.filterMap_eq_nil_iff.mpr fun entry hentry =>
    (Entry.of_isShowing (hshown entry hentry)).2.1

theorem unallocated_of_isShowing : shown.any Entry.isUnallocated = false := by
  refine List.any_eq_false.mpr fun entry hentry => ?_
  simp [(Entry.of_isShowing (hshown entry hentry)).2.2]

end

namespace FrameCache.Ingested

variable {cache cache' : FrameCache} {source : Texture} {hdr : Bool} {journal : List Entry}

theorem countP_polled (hingested : cache.Ingested source hdr journal cache')
    (index : UInt32) : journal.countP (fun entry => entry.polled? = some index) = 0 := by
  have hreleases : ∀ released : List Release,
      (released.map Entry.release).countP (fun entry => entry.polled? = some index) = 0 :=
    fun released => List.countP_eq_zero.mpr (by simp [Entry.polled?])
  cases hingested with
  | reused => simp [Entry.polled?]
  | allocated =>
      rw [List.countP_append, hreleases]
      simp [Entry.polled?]
  | unallocated =>
      rw [List.countP_append, hreleases]
      simp [Entry.polled?]

/-- A frame is copied once, into the cached texture, unless none could be allocated; the
texture was cached before or is created for the frame. -/
theorem copies (hingested : cache.Ingested source hdr journal cache') :
    (journal.any Entry.isUnallocated = true ∧ cache'.texture = none ∧
      journal.filterMap Entry.copied? = []) ∨
    (journal.any Entry.isUnallocated = false ∧ ∃ texture, cache'.texture = some texture ∧
      journal.filterMap Entry.copied? = [(texture.id, source.id)] ∧
      (cache.texture = some texture ∨ .texture texture.id ∈ created journal)) := by
  have hnone := hingested.texture_eq_none_iff
  have hreleases : ∀ released : List Release,
      (released.map Entry.release).filterMap Entry.copied? = [] :=
    fun released => List.filterMap_eq_nil_iff.mpr (by simp [Entry.copied?])
  cases hingested with
  | @reused texture htexture hfits =>
      refine .inr ⟨?_, texture, htexture, rfl, .inl htexture⟩
      rw [← Bool.not_eq_true, ← hnone, htexture]
      exact Option.some_ne_none texture
  | @allocated texture hfits hsize hformat =>
      refine .inr ⟨?_, texture, rfl, ?_, .inr ?_⟩
      · rw [← Bool.not_eq_true, ← hnone]
        exact Option.some_ne_none texture
      · rw [List.filterMap_append, hreleases]
        rfl
      · rw [created_append]
        exact List.mem_append_right _ (List.mem_singleton.mpr rfl)
  | unallocated hfits =>
      refine .inl ⟨hnone.mp rfl, rfl, ?_⟩
      rw [List.filterMap_append, hreleases]
      rfl

end FrameCache.Ingested

namespace Session.Serves

variable {session session' : Session} {output : UInt32} {outcome : AcquireOutcome}
  {journal : List Entry}

/-- An outcome is served with one poll of its output and none of another. -/
theorem countP_polled (hserves : session.Serves output outcome journal session')
    (index : UInt32) :
    journal.countP (fun entry => entry.polled? = some index) = if output = index then 1 else 0 := by
  have hshown : ∀ {shown : List Entry}, (∀ entry ∈ shown, entry.isShowing = true) →
      shown.countP (fun entry => entry.polled? = some index) = 0 :=
    fun hshown => countP_polled_of_isShowing hshown index
  cases hserves with
  | frame hingested hshowing =>
      simp only [List.countP_cons, List.countP_append, hingested.countP_polled, hshown hshowing]
      simp [Entry.polled?]
  | notTexture hshowing =>
      simp only [List.countP_cons, hshown hshowing]
      simp [Entry.polled?]
  | timeout hshowing =>
      simp only [List.countP_cons, hshown hshowing]
      simp [Entry.polled?]
  | failure hshowing =>
      simp only [List.countP_cons, hshown hshowing]
      simp [Entry.polled?]
  | accessLost =>
      simp only [List.countP_cons, List.countP_nil]
      simp [Entry.polled?]

/-- Serving an outcome copies the texture of a frame into the one that is cached then,
which was cached before or is created, or it copies nothing and caches no other texture; it
is a frame without an allocation if not another outcome. -/
theorem copies (hserves : session.Serves output outcome journal session') :
    (∃ size format source texture, outcome = .frame size format ∧
      journal.any Entry.isUnallocated = false ∧
      .call .frameTexture (.texture ⟨source, size, format⟩) ∈ journal ∧
      journal.filterMap Entry.copied? = [(texture.id, source)] ∧
      session'.texture = some texture ∧
      (session.texture = some texture ∨ .texture texture.id ∈ created journal)) ∨
    (journal.filterMap Entry.copied? = [] ∧
      (session'.texture = none ∨ session'.texture = session.texture) ∧
      ∀ size format, outcome = .frame size format → journal.any Entry.isUnallocated = true) := by
  cases hserves with
  | @frame id size format answer taken shown cache preview hingested hshown =>
      have hunshown := unallocated_of_isShowing hshown
      have hnone := copied_of_isShowing hshown
      rcases hingested.copies with
        ⟨hunallocated, htexture, hcopied⟩ | ⟨hallocated, texture, htexture, hcopied, hknown⟩
      · refine .inr ⟨?_, .inl htexture, fun _ _ _ => ?_⟩
        · change (taken ++ _ :: shown).filterMap Entry.copied? = []
          rw [List.filterMap_append, hcopied]
          exact hnone
        · simp [hunallocated]
      · refine .inl ⟨size, format, id, texture, rfl, ?_, ?_, ?_, htexture, ?_⟩
        · change (taken ++ _ :: shown).any Entry.isUnallocated = false
          rw [List.any_append, hallocated]
          exact hunshown
        · exact List.mem_cons_of_mem _ List.mem_cons_self
        · change (taken ++ _ :: shown).filterMap Entry.copied? = _
          rw [List.filterMap_append, hcopied, show List.filterMap _ (_ :: shown) = [] from hnone]
          rfl
        · refine hknown.imp_right fun hcreated => ?_
          change _ ∈ created (taken ++ _ :: shown)
          rw [created_append]
          exact List.mem_append_left _ hcreated
  | notTexture hshown =>
      have hnone := copied_of_isShowing hshown
      exact .inr ⟨hnone, .inr rfl, by rintro _ _ ⟨⟩⟩
  | timeout hshown =>
      have hnone := copied_of_isShowing hshown
      exact .inr ⟨hnone, .inr rfl, by rintro _ _ ⟨⟩⟩
  | failure hshown =>
      have hnone := copied_of_isShowing hshown
      exact .inr ⟨hnone, .inr rfl, by rintro _ _ ⟨⟩⟩
  | accessLost => exact .inr ⟨rfl, .inr rfl, by rintro _ _ ⟨⟩⟩

end Session.Serves
end DesktopCapture
