import DesktopCapture.Scenario.Basic

/-!
# Scenarios of a preview

One slot for a preview, empty at first.  A preview that is made takes the place of
the one before, which is released once its successor stands.
-/

namespace DesktopCapture
namespace Scenario

/-- A step of a scenario of a preview. -/
inductive PreviewStep
  | world (step : DeviceStep)
  | inspect
  | create (size : Size) (title : String)
  /-- Present the texture of a frame, or no texture. -/
  | present (frame : Option AcquireOutcome)
  | setVisible (visible : Bool)
  | get
  | drop
  | window (step : WindowStep)

/-- The state of a scenario of a preview. -/
structure PreviewState where
  device : Device
  slot : Option Preview

namespace PreviewState

/-- The state before the first step. -/
def initial : PreviewState := ⟨singleOutputDevice, none⟩

/-- Release what the slot holds. -/
def releaseSlot (slot : Option Preview) : Capture Unit :=
  match slot with
  | some preview => preview.release
  | none => pure ()

/-- Take the slot through an action with a reply. -/
def perform (device : Device) (action : Capture (Reply × Option Preview)) :
    Record × PreviewState :=
  let done := action device
  (⟨done.value.1, done.journal⟩, ⟨done.device, done.value.2⟩)

/-- Make a preview and let it take the place of the one before. -/
def create (slot : Option Preview) (size : Size) (title : String) :
    Capture (Reply × Option Preview) := do
  let monitor := { MonitorInfo.zero with width := size.width, height := size.height }
  match ← Preview.create [] monitor title with
  | .error error => pure (.error (.platform error), slot)
  | .ok preview =>
    releaseSlot slot
    pure (.preview preview, some preview)

/-- Present a texture, or none, in the slot's preview. -/
def present (slot : Option Preview) (texture : Option Texture) :
    Capture (Reply × Option Preview) :=
  match slot with
  | none => pure (.noPreview, none)
  | some preview => do
    let (shown, preview) ← preview.present texture
    pure (.ofExcept .flag (shown.mapError .platform), some preview)

/-- Show or hide the window of the slot's preview. -/
def setVisible (slot : Option Preview) (visible : Bool) : Capture (Reply × Option Preview) :=
  match slot with
  | none => pure (.flag false, none)
  | some preview => do
    let preview ← preview.setVisible visible
    pure (.flag true, some preview)

/-- Take a step. -/
def step (state : PreviewState) : PreviewStep → Record × PreviewState
  | .world step => (⟨.nothing, []⟩, { state with device := DeviceStep.apply state.device step })
  | .inspect => (⟨.device state.device, []⟩, state)
  | .create size title => perform state.device (create state.slot size title)
  | .present none => perform state.device (present state.slot none)
  | .present (some outcome) =>
    match sourceTexture outcome state.device with
    | (some source, device) => perform device (present state.slot (some source))
    | (none, device) => (⟨.noSource, []⟩, { state with device })
  | .setVisible visible => perform state.device (setVisible state.slot visible)
  | .get => (⟨.ofOption .preview state.slot, []⟩, state)
  | .drop => perform state.device do
    releaseSlot state.slot
    pure (.nothing, none)
  | .window step =>
    match state.slot with
    | none => (⟨.noPreview, []⟩, state)
    | some preview => (⟨.nothing, []⟩, { state with slot := some (WindowStep.apply preview step) })

/-- The records of a scenario. -/
def run (steps : List PreviewStep) : List Record := (runFrom step initial steps).1

end PreviewState
end Scenario
end DesktopCapture
