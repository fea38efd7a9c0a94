import DesktopCapture.Registry

/-!
# The duplicator

What consumers work with: the registry of sessions, driven by handles.  Every
operation has an answer, but that a walk along the outputs may be cut off by its
limit.  A session that cannot be started is logged and answered with no handle; a
handle without a session is answered with `none`, with `false`, or by doing nothing.
-/

namespace DesktopCapture

/-- The registry consumers share their sessions through. -/
structure Duplicator where
  registry : Registry

namespace Duplicator

/-- A duplicator whose sessions are started with a configuration. -/
def ofConfig (config : SessionConfig) : Duplicator := ⟨.empty config⟩

/-- The session a handle refers to. -/
def session? (duplicator : Duplicator) (handle : Handle) : Option Session :=
  duplicator.registry.get? handle

/-- The number of sessions. -/
def sessionCount (duplicator : Duplicator) : Nat := duplicator.registry.size

/-- Position, size and rotation of the monitor of an index. -/
def monitorInfo (index : UInt32) : Capture (Except CaptureError MonitorInfo) :=
  Adapter.monitorInfo index

/-- Every monitor in order of its index. -/
def monitors : Capture (Option (Except CaptureError (List MonitorInfo))) := do
  let listed ← Adapter.monitors
  pure (listed.map (Except.mapError .platform))

/-- The index of the output connected to a monitor, `-1` if there is none. -/
def monitorIndex (monitor : MonitorHandle) : Capture (Option Int32) := Adapter.indexOf monitor

/-- Get a handle to the session of a monitor, starting it if there is none. -/
def createSession (duplicator : Duplicator) (index : UInt32) :
    Capture (Option Handle × Duplicator) := do
  match ← duplicator.registry.acquire index with
  | .ok (handle, registry) => pure (some handle, ⟨registry⟩)
  | .error (.notFound _) =>
    Capture.notify [] (.noMonitor index)
    pure (none, duplicator)
  | .error error =>
    Capture.notify [] (.createFailed index error)
    pure (none, duplicator)

/-- Release a handle. -/
def destroySession (duplicator : Duplicator) (handle : Handle) : Capture Duplicator := do
  let registry ← duplicator.registry.release handle
  pure ⟨registry⟩

/-- Poll a session for a frame.  The answer is false if the session has lost
access or the handle refers to no session. -/
def updateFrame (duplicator : Duplicator) (handle : Handle) : Capture (Bool × Duplicator) := do
  let (answer, registry) ← duplicator.registry.update handle Session.update
  pure (answer.getD false, ⟨registry⟩)

/-- Show or hide the preview's window of a session. -/
def setPreviewVisible (duplicator : Duplicator) (handle : Handle) (visible : Bool) :
    Capture Duplicator := do
  let (_, registry) ← duplicator.registry.update handle fun session => do
    let session ← session.setPreviewVisible visible
    pure ((), session)
  pure ⟨registry⟩

/-- Clear the mark of every session that a frame was captured. -/
def resetAllSessions (duplicator : Duplicator) : Duplicator :=
  ⟨duplicator.registry.resetAll⟩

/-- The texture of a session's latest frame. -/
def texture? (duplicator : Duplicator) (handle : Handle) : Option Texture :=
  (duplicator.session? handle).bind Session.texture

/-- How the values of a session's latest frame are to be read. -/
def colorSpace? (duplicator : Duplicator) (handle : Handle) : Option ColorSpace :=
  (duplicator.session? handle).map (·.cache.colorSpace)

/-- The white level of a session's monitor. -/
def sdrWhite? (duplicator : Duplicator) (handle : Handle) : Option Binary32 :=
  (duplicator.session? handle).map (·.color.sdrWhite)

/-- Whether a session's monitor was in a high dynamic range mode at its start. -/
def isHdr? (duplicator : Duplicator) (handle : Handle) : Option Bool :=
  (duplicator.session? handle).map (·.color.hdr)

/-- Whether a session captured a frame since the last reset. -/
def frameAvailable? (duplicator : Duplicator) (handle : Handle) : Option Bool :=
  (duplicator.session? handle).map (·.frameAvailable)

/-- Destroy every session. -/
def destroy (duplicator : Duplicator) : Capture Unit := duplicator.registry.destroy

end Duplicator
end DesktopCapture
