import DesktopCapture.Scenario.Basic

/-!
# Scenarios of a duplicator

One duplicator and the handles got from it.  The handle of each monitor is
remembered for good, so steps can use handles whose session is gone.
-/

namespace DesktopCapture
namespace Scenario

/-- What is done with a handle. -/
inductive HandleUse
  | destroy
  | update
  | texture
  | colorSpace
  | sdrWhite
  | isHdr
  | frameAvailable
  | setVisible (visible : Bool)
  | session
  | window (step : WindowStep)

/-- A step of a scenario of a duplicator. -/
inductive DuplicatorStep
  | world (step : DeviceStep)
  | inspect
  | count
  | resetAll
  | monitors
  | monitorIndex (monitor : MonitorHandle)
  | monitorInfo (index : UInt32)
  | boundTarget
  | create (index : UInt32)
  | use (index : UInt32) (use : HandleUse)
  | drop

/-- The state of a scenario of a duplicator. -/
structure DuplicatorState where
  device : Device
  /-- The duplicator until it is dropped. -/
  duplicator : Option Duplicator
  handles : MonitorTable Handle

namespace DuplicatorState

/-- The state before the first step. -/
def initial (outputs : List OutputConfig) (config : SessionConfig) : DuplicatorState :=
  ⟨.ofOutputs outputs, some (.ofConfig config), .empty⟩

/-- Take the duplicator through an action with a reply. -/
def perform (state : DuplicatorState) (action : Capture (Reply × Duplicator)) :
    Record × DuplicatorState :=
  let done := action state.device
  (⟨done.value.1, done.journal⟩,
    { state with device := done.device, duplicator := some done.value.2 })

/-- Use a handle. -/
def useHandle (duplicator : Duplicator) (handle : Handle) :
    HandleUse → Capture (Reply × Duplicator)
  | .destroy => do
    let duplicator ← duplicator.destroySession handle
    pure (.nothing, duplicator)
  | .update => do
    let (alive, duplicator) ← duplicator.updateFrame handle
    pure (.flag alive, duplicator)
  | .texture => pure (.ofOption .texture (duplicator.texture? handle), duplicator)
  | .colorSpace => pure (.ofOption .colorSpace (duplicator.colorSpace? handle), duplicator)
  | .sdrWhite => pure (.ofOption .white (duplicator.sdrWhite? handle), duplicator)
  | .isHdr => pure (.ofOption .flag (duplicator.isHdr? handle), duplicator)
  | .frameAvailable => pure (.ofOption .flag (duplicator.frameAvailable? handle), duplicator)
  | .setVisible visible => do
    let duplicator ← duplicator.setPreviewVisible handle visible
    pure (.nothing, duplicator)
  | .session => pure (.ofOption .session (duplicator.session? handle), duplicator)
  | .window step =>
    match (duplicator.session? handle).bind fun session => WindowStep.onSession? session step with
    | none => pure (.noPreview, duplicator)
    | some session => pure (.nothing, ⟨duplicator.registry.put handle session⟩)

/-- Get a handle and remember it. -/
def create (state : DuplicatorState) (duplicator : Duplicator) (index : UInt32) :
    Record × DuplicatorState :=
  let done := duplicator.createSession index state.device
  let handles :=
    match done.value.1 with
    | some handle => state.handles.insert index handle
    | none => state.handles
  (⟨.ofOption .handle done.value.1, done.journal⟩,
    { device := done.device, duplicator := some done.value.2, handles })

/-- Take a step. -/
def step (state : DuplicatorState) (taken : DuplicatorStep) : Record × DuplicatorState :=
  match taken, state.duplicator with
  | .world step, _ => (⟨.nothing, []⟩, { state with device := DeviceStep.apply state.device step })
  | .inspect, _ => (⟨.device state.device, []⟩, state)
  | .drop, none => (⟨.nothing, []⟩, state)
  | _, none => (⟨.dropped, []⟩, state)
  | .count, some duplicator => (⟨.count duplicator.sessionCount, []⟩, state)
  | .resetAll, some duplicator =>
    (⟨.nothing, []⟩, { state with duplicator := some duplicator.resetAllSessions })
  | .monitors, some duplicator => state.perform do
    let listed ← Duplicator.monitors
    pure (.ofReturned (.ofExcept .monitors) listed, duplicator)
  | .monitorIndex monitor, some duplicator => state.perform do
    let index ← Duplicator.monitorIndex monitor
    pure (.ofReturned .index index, duplicator)
  | .monitorInfo index, some duplicator => state.perform do
    let info ← Duplicator.monitorInfo index
    pure (.ofExcept .monitor info, duplicator)
  | .boundTarget, some _ => (⟨.target state.device.boundTarget, []⟩, state)
  | .create index, some duplicator => state.create duplicator index
  | .use index use, some duplicator =>
    match state.handles.get? index with
    | none => (⟨.noHandle, []⟩, state)
    | some handle => state.perform (useHandle duplicator handle use)
  | .drop, some duplicator =>
    let done := duplicator.destroy state.device
    (⟨.nothing, done.journal⟩, { state with device := done.device, duplicator := none })

/-- What goes wrong with counting handles in a step. -/
def overflow? (state : DuplicatorState) (taken : DuplicatorStep) : Option Overflow :=
  match taken, state.duplicator with
  | .create index, some duplicator => duplicator.registry.acquireOverflow? index
  | .use index .destroy, some duplicator =>
    (state.handles.get? index).bind duplicator.registry.releaseOverflow?
  | _, _ => none

end DuplicatorState
end Scenario
end DesktopCapture
