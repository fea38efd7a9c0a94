import DesktopCapture.Scenario.Basic

/-!
# Scenarios of a frame cache

One cache, empty at first, that takes in frames and can be replaced by an empty
one, which releases the texture it owned.
-/

namespace DesktopCapture
namespace Scenario

/-- A step of a scenario of a cache. -/
inductive CacheStep
  | world (step : DeviceStep)
  | inspect
  | ingest (outcome : AcquireOutcome) (hdr : Bool)
  | replace
  | get

/-- The state of a scenario of a cache. -/
structure CacheState where
  device : Device
  cache : FrameCache

namespace CacheState

/-- The state before the first step. -/
def initial : CacheState := ⟨singleOutputDevice, .empty⟩

/-- Replace the cache by what an action makes of it. -/
def perform (state : CacheState) (action : Capture FrameCache) : Record × CacheState :=
  let done := action state.device
  (⟨.cache done.value, done.journal⟩, ⟨done.device, done.value⟩)

/-- Take a step. -/
def step (state : CacheState) : CacheStep → Record × CacheState
  | .world step => (⟨.nothing, []⟩, { state with device := DeviceStep.apply state.device step })
  | .inspect => (⟨.device state.device, []⟩, state)
  | .ingest outcome hdr =>
    match sourceTexture outcome state.device with
    | (some source, device) => perform { state with device } (state.cache.ingest source hdr)
    | (none, device) => (⟨.noSource, []⟩, { state with device })
  | .replace => state.perform do
    state.cache.release
    pure .empty
  | .get => (⟨.cache state.cache, []⟩, state)

/-- The records of a scenario. -/
def run (steps : List CacheStep) : List Record := (runFrom step initial steps).1

end CacheState
end Scenario
end DesktopCapture
