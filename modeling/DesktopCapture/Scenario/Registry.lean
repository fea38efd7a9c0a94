import DesktopCapture.Scenario.Basic

/-!
# Scenarios of a registry

One registry and the handles got from it.  The latest handle of each monitor is
remembered for good, so steps can use handles whose session is gone.
-/

namespace DesktopCapture
namespace Scenario

/-- What is done with a handle. -/
inductive RegistryUse
  | release
  | get
  | update
  | reset
  | setVisible (visible : Bool)
  | window (step : WindowStep)

/-- A step of a scenario of a registry. -/
inductive RegistryStep
  | world (step : DeviceStep)
  | inspect
  | acquire (index : UInt32)
  | size
  | resetAll
  | use (index : UInt32) (use : RegistryUse)
  | drop

/-- The state of a scenario of a registry. -/
structure RegistryState where
  device : Device
  /-- The registry until it is dropped. -/
  registry : Option Registry
  handles : MonitorTable Handle

namespace RegistryState

/-- The state before the first step. -/
def initial (outputs : List OutputConfig) (config : SessionConfig) : RegistryState :=
  ⟨.ofOutputs outputs, some (.empty config), .empty⟩

/-- Take the registry through an action with a reply. -/
def perform (state : RegistryState) (action : Capture (Reply × Registry)) :
    Record × RegistryState :=
  let done := action state.device
  (⟨done.value.1, done.journal⟩,
    { state with device := done.device, registry := some done.value.2 })

/-- Use a handle. -/
def useHandle (registry : Registry) (handle : Handle) :
    RegistryUse → Capture (Reply × Registry)
  | .release => do
    let registry ← registry.release handle
    pure (.nothing, registry)
  | .get => pure (.ofOption .session (registry.get? handle), registry)
  | .update => do
    let (alive, registry) ← registry.update handle Session.update
    pure (.ofOption .flag alive, registry)
  | .reset => do
    let (found, registry) ← registry.update handle fun session => pure ((), session.reset)
    pure (.flag found.isSome, registry)
  | .setVisible visible => do
    let (found, registry) ← registry.update handle fun session => do
      let session ← session.setPreviewVisible visible
      pure ((), session)
    pure (.flag found.isSome, registry)
  | .window step =>
    match (registry.get? handle).bind fun session => WindowStep.onSession? session step with
    | none => pure (.noPreview, registry)
    | some session => pure (.nothing, registry.put handle session)

/-- Get a handle and remember it. -/
def acquire (state : RegistryState) (registry : Registry) (index : UInt32) :
    Record × RegistryState :=
  let done := registry.acquire index state.device
  match done.value with
  | .error error => (⟨.error error, done.journal⟩, { state with device := done.device })
  | .ok (handle, registry) =>
    let same := (state.handles.get? index).map fun before => decide (before = handle)
    (⟨.acquired handle same, done.journal⟩,
      { device := done.device
        registry := some registry
        handles := state.handles.insert index handle })

/-- Take a step. -/
def step (state : RegistryState) (taken : RegistryStep) : Record × RegistryState :=
  match taken, state.registry with
  | .world step, _ => (⟨.nothing, []⟩, { state with device := DeviceStep.apply state.device step })
  | .inspect, _ => (⟨.device state.device, []⟩, state)
  | .drop, none => (⟨.nothing, []⟩, state)
  | _, none => (⟨.dropped, []⟩, state)
  | .acquire index, some registry => state.acquire registry index
  | .size, some registry => (⟨.count registry.size, []⟩, state)
  | .resetAll, some registry =>
    (⟨.nothing, []⟩, { state with registry := some registry.resetAll })
  | .use index use, some registry =>
    match state.handles.get? index with
    | none => (⟨.noHandle, []⟩, state)
    | some handle => state.perform (useHandle registry handle use)
  | .drop, some registry =>
    let done := registry.destroy state.device
    (⟨.nothing, done.journal⟩, { state with device := done.device, registry := none })

/-- What goes wrong with counting handles in a step. -/
def overflow? (state : RegistryState) (taken : RegistryStep) : Option Overflow :=
  match taken, state.registry with
  | .acquire index, some registry => registry.acquireOverflow? index
  | .use index .release, some registry =>
    (state.handles.get? index).bind registry.releaseOverflow?
  | _, _ => none

end RegistryState
end Scenario
end DesktopCapture
