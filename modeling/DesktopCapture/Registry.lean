import DesktopCapture.MonitorTable
import DesktopCapture.Session

/-!
# Shared sessions

A registry keeps at most one session per monitor, however many consumers hold a
handle to it, and counts the handles.  The first handle starts the session and
the release of the last one destroys it.  A handle names a monitor and nothing
more, so it can outlive its session; it then refers to no session, or to a later
one on the same monitor.

The handles of a session are counted in a word, and a program that checks its
arithmetic stops where the count would leave it.  Before a handle is got or released,
`acquireOverflow?` and `releaseOverflow?` say whether it stops there.
-/

namespace DesktopCapture

/-- A consumer's reference to the session of a monitor. -/
structure Handle where
  monitor : UInt32
deriving DecidableEq

/-- What goes wrong with a count that leaves its word. -/
inductive Overflow
  | addition
  | subtraction
deriving DecidableEq

/-- The words a program stops with. -/
def Overflow.message : Overflow → String
  | .addition => "attempt to add with overflow"
  | .subtraction => "attempt to subtract with overflow"

/-- The registered sessions and what new ones are started with. -/
structure Registry where
  sessions : MonitorTable Session
  config : SessionConfig

namespace Registry

/-- The registry without sessions. -/
def empty (config : SessionConfig) : Registry := ⟨.empty, config⟩

/-- The session a handle refers to. -/
def get? (registry : Registry) (handle : Handle) : Option Session :=
  registry.sessions.get? handle.monitor

/-- Put a changed session in the place of the one a handle refers to. -/
def put (registry : Registry) (handle : Handle) (session : Session) : Registry :=
  { registry with sessions := registry.sessions.insert handle.monitor session }

/-- What goes wrong with counting one handle more. -/
def acquireOverflow? (registry : Registry) (index : UInt32) : Option Overflow :=
  (registry.get? ⟨index⟩).bind fun session =>
    if session.refs = Session.mostRefs then some .addition else none

/-- What goes wrong with counting one handle less. -/
def releaseOverflow? (registry : Registry) (handle : Handle) : Option Overflow :=
  (registry.get? handle).bind fun session =>
    if session.refs = 0 then some .subtraction else none

/-- Get a handle to the session of a monitor, starting it if there is none.  A
session that does not start leaves the registry as it was. -/
def acquire (registry : Registry) (index : UInt32) :
    Capture (Except CaptureError (Handle × Registry)) := do
  let handle : Handle := ⟨index⟩
  match registry.get? handle with
  | some session =>
    pure (.ok (handle, registry.put handle { session with refs := session.refs + 1 }))
  | none =>
    match ← Session.start index registry.config with
    | .error error => pure (.error error)
    | .ok session => pure (.ok (handle, registry.put handle session))

/-- Release a handle, and destroy its session if it was the last one. -/
def release (registry : Registry) (handle : Handle) : Capture Registry :=
  match registry.get? handle with
  | none => do
    Capture.notify [] (.unregisteredRelease handle.monitor)
    pure registry
  | some session =>
    let refs := session.refs - 1
    if refs = 0 then do
      Capture.notify [] (.destroyingSession handle.monitor)
      session.release
      pure { registry with sessions := registry.sessions.erase handle.monitor }
    else pure (registry.put handle { session with refs })

/-- Clear the mark of every session that a frame was captured. -/
def resetAll (registry : Registry) : Registry :=
  { registry with sessions := registry.sessions.map Session.reset }

/-- The number of sessions. -/
def size (registry : Registry) : Nat := registry.sessions.size

/-- Change the session a handle refers to by an action with an answer; without a
session nothing is done. -/
def update (registry : Registry) (handle : Handle) (action : Session → Capture (α × Session)) :
    Capture (Option α × Registry) :=
  match registry.get? handle with
  | none => pure (none, registry)
  | some session => do
    let (answer, session) ← action session
    pure (some answer, registry.put handle session)

/-- Release what sessions own, one session after the other. -/
def releaseSessions : List Session → Capture Unit
  | [] => pure ()
  | session :: others => do
    session.release
    releaseSessions others

/-- Destroy every session, in order of the monitor index. -/
def destroy (registry : Registry) : Capture Unit :=
  releaseSessions registry.sessions.values

end Registry
end DesktopCapture
