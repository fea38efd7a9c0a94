import DesktopCapture.Scenario.Basic

/-!
# Scenarios of a session

One slot for a session, empty at first.  A session that starts takes the place of
the one before, which is released once its successor stands.
-/

namespace DesktopCapture
namespace Scenario

/-- A step of a scenario of a session. -/
inductive SessionStep
  | world (step : DeviceStep)
  | inspect
  | start (index : UInt32)
  | update
  | reset
  | setVisible (visible : Bool)
  | get
  | drop
  | window (step : WindowStep)

/-- The state of a scenario of a session. -/
structure SlotState where
  device : Device
  config : SessionConfig
  slot : Option Session

namespace SlotState

/-- The state before the first step. -/
def initial (outputs : List OutputConfig) (config : SessionConfig) : SlotState :=
  ⟨.ofOutputs outputs, config, none⟩

/-- Release what the slot holds. -/
def releaseSlot (slot : Option Session) : Capture Unit :=
  match slot with
  | some session => session.release
  | none => pure ()

/-- Take the slot through an action with a reply. -/
def perform (state : SlotState) (action : Capture (Reply × Option Session)) :
    Record × SlotState :=
  let done := action state.device
  (⟨done.value.1, done.journal⟩,
    { state with device := done.device, slot := done.value.2 })

/-- Start a session and let it take the place of the one before. -/
def start (state : SlotState) (index : UInt32) : Capture (Reply × Option Session) := do
  match ← Session.start index state.config with
  | .error error => pure (.error error, state.slot)
  | .ok session =>
    releaseSlot state.slot
    pure (.session session, some session)

/-- Poll the slot's session for a frame. -/
def update (slot : Option Session) : Capture (Reply × Option Session) :=
  match slot with
  | none => pure (.nothing, none)
  | some session => do
    let (alive, session) ← session.update
    pure (.flag alive, some session)

/-- Show or hide the preview's window of the slot's session. -/
def setVisible (slot : Option Session) (visible : Bool) : Capture (Reply × Option Session) :=
  match slot with
  | none => pure (.flag false, none)
  | some session => do
    let session ← session.setPreviewVisible visible
    pure (.flag true, some session)

/-- Take a step. -/
def step (state : SlotState) : SessionStep → Record × SlotState
  | .world step => (⟨.nothing, []⟩, { state with device := DeviceStep.apply state.device step })
  | .inspect => (⟨.device state.device, []⟩, state)
  | .start index => state.perform (state.start index)
  | .update => state.perform (update state.slot)
  | .reset =>
    (⟨.flag state.slot.isSome, []⟩, { state with slot := state.slot.map Session.reset })
  | .setVisible visible => state.perform (setVisible state.slot visible)
  | .get => (⟨.ofOption .session state.slot, []⟩, state)
  | .drop => state.perform do
    releaseSlot state.slot
    pure (.nothing, none)
  | .window step =>
    match state.slot.bind fun session => WindowStep.onSession? session step with
    | none => (⟨.noPreview, []⟩, state)
    | some session => (⟨.nothing, []⟩, { state with slot := some session })

end SlotState
end Scenario
end DesktopCapture
