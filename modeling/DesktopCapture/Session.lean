import DesktopCapture.Adapter
import DesktopCapture.FrameCache
import DesktopCapture.Preview

/-!
# Sessions

A session owns the duplication of one monitor, the texture its frames are cached
in, and perhaps a preview.  It is active until its duplication is invalidated and
lost from then on.

Starting prefers a duplication with a choice of formats, which is the one that
can deliver high dynamic range.  An output that does not negotiate is duplicated
in the baseline mode; a negotiation that fails is not tried again.  Nothing that
goes wrong with the preview keeps a session from starting.

Updating never waits.  Only the loss of access is reported to the caller; whatever
else goes wrong is logged and leaves the frame cached before in place.
-/

namespace DesktopCapture

/-- What sessions are started with. -/
structure SessionConfig where
  /-- Open a preview beside the session. -/
  preview : Bool
  /-- The title of the preview's window. -/
  title : String
deriving DecidableEq

namespace SessionConfig

/-- A preview under the default title. -/
def standard : SessionConfig := ⟨true, Preview.defaultTitle⟩

end SessionConfig

/-- Whether a session can still acquire frames. -/
inductive SessionState
  | active
  | lost
deriving DecidableEq

namespace SessionState

/-- The name of a state. -/
def name : SessionState → String
  | .active => "Active"
  | .lost => "Lost"

end SessionState

/-- The duplication of a monitor with its cached frame and its preview. -/
structure Session where
  duplication : Option Duplication
  cache : FrameCache
  preview : Option Preview
  monitor : UInt32
  color : ColorInfo
  frameAvailable : Bool
  /-- How many handles the session is shared by.  The count is kept in a word; what would
  leave the word is no count but an `Overflow`. -/
  refs : Nat
deriving DecidableEq

namespace Session

/-- The largest count of handles that a word of 64 bits holds. -/
def mostRefs : Nat := 0xFFFFFFFFFFFFFFFF

/-- The state of a session. -/
def state (session : Session) : SessionState :=
  if session.duplication.isSome then .active else .lost

/-- The texture of the latest frame. -/
def texture (session : Session) : Option Texture := session.cache.texture

/-- Duplicate an output, and read the colour information of its monitor if it was
duplicated with a choice of formats. -/
def openDuplication (spans : List Span) (output : Output) :
    Capture (Except PlatformError (Duplication × ColorInfo)) := do
  match ← Capture.duplicateWithFormats output offeredFormats with
  | .error error => pure (.error error)
  | .ok (some duplication) =>
    match ← Capture.colorInfo output with
    | .ok color => pure (.ok (duplication, color))
    | .error error =>
      Capture.notify spans (.colorInfoUnread error)
      pure (.ok (duplication, .standard))
  | .ok none =>
    Capture.notify spans .baselineMode
    match ← Capture.duplicate output with
    | .error error => pure (.error error)
    | .ok duplication => pure (.ok (duplication, .standard))

/-- Make a preview of an output's monitor, if that can be done. -/
def openPreview (spans : List Span) (output : Output) (title : String) :
    Capture (Option Preview) := do
  match ← Capture.describe output with
  | .error error =>
    Capture.notify spans (.previewDescriptorUnreadable error)
    pure none
  | .ok description =>
    match ← Preview.create spans (.ofDescription description) title with
    | .error error =>
      Capture.notify spans (.previewFailed error)
      pure none
    | .ok preview => pure (some preview)

/-- Start a session inside the given spans. -/
def startWithin (spans : List Span) (index : UInt32) (config : SessionConfig) :
    Capture (Except CaptureError Session) := do
  match ← Adapter.output index with
  | .error error => pure (.error error)
  | .ok output =>
    match ← openDuplication spans output with
    | .error error => pure (.error (.platform error))
    | .ok (duplication, color) =>
      let preview ←
        if config.preview then openPreview spans output config.title else pure none
      Capture.notify spans (.sessionStarted index color)
      pure (.ok
        { duplication := some duplication
          cache := .empty
          preview
          monitor := index
          color
          frameAvailable := false
          refs := 1 })

/-- Start a session on the monitor of an index. -/
def start (index : UInt32) (config : SessionConfig) : Capture (Except CaptureError Session) := do
  let spans := [.sessionStart index]
  let started ← startWithin spans index config
  match started with
  | .error error => Capture.notify spans (.startEnded error)
  | .ok _ => pure ()
  Capture.endSpan spans
  pure started

/-- Show the cached frame in the preview, if there is one. -/
def present (session : Session) : Capture Session :=
  match session.preview with
  | none => pure session
  | some preview => do
    let (shown, preview) ← preview.present session.texture
    match shown with
    | .error error => Capture.notify [] (.presentFailed error)
    | .ok _ => pure ()
    pure { session with preview := some preview }

/-- Hand an acquired frame back. -/
def handBack (duplication : Duplication) : Capture Unit := do
  match ← Capture.releaseFrame duplication with
  | .error error => Capture.notify [] (.releaseFrameFailed error)
  | .ok () => pure ()

/-- What to do with an acquired frame: cache its texture, hand it back and show
it.  A frame without a texture is handed back at once. -/
def takeFrame (session : Session) (duplication : Duplication) (resource : FrameResource) :
    Capture Session := do
  match ← Capture.frameTexture resource with
  | .error error =>
    Capture.notify [] (.frameTextureFailed error)
    handBack duplication
    pure session
  | .ok texture =>
    let cache ← session.cache.ingest texture session.color.hdr
    handBack duplication
    { session with cache, frameAvailable := true }.present

/-- Poll for a frame.  The answer is false once access is lost. -/
def update (session : Session) : Capture (Bool × Session) :=
  match session.duplication with
  | none => pure (false, session)
  | some duplication => do
    match ← Capture.acquire duplication 0 with
    | .ok resource =>
      let session ← session.takeFrame duplication resource
      pure (true, session)
    | .error .accessLost =>
      Capture.notify [] (.accessLost session.monitor)
      Capture.release (.duplication duplication.output)
      pure (false, { session with duplication := none })
    | .error .timeout =>
      let session ← session.present
      pure (true, session)
    | .error error =>
      Capture.notify [] (.acquireFailed error)
      let session ← session.present
      pure (true, session)

/-- Show or hide the preview's window, if there is a preview. -/
def setPreviewVisible (session : Session) (visible : Bool) : Capture Session :=
  match session.preview with
  | none => pure session
  | some preview => do
    let preview ← preview.setVisible visible
    pure { session with preview := some preview }

/-- Clear the mark that a frame was captured. -/
def reset (session : Session) : Session := { session with frameAvailable := false }

/-- Release everything a session owns: its duplication, its cached texture and its
preview, in this order. -/
def release (session : Session) : Capture Unit := do
  match session.duplication with
  | some duplication => Capture.release (.duplication duplication.output)
  | none => pure ()
  session.cache.release
  match session.preview with
  | some preview => preview.release
  | none => pure ()

/-- What a session may lack is released if it is there. -/
theorem release_eq (session : Session) : session.release = (do
    session.duplication.elim (pure ()) fun duplication =>
      Capture.release (.duplication duplication.output)
    session.cache.release
    session.preview.elim (pure ()) Preview.release) := by
  unfold release
  cases session.duplication <;> cases session.preview <;> rfl

end Session
end DesktopCapture
