import DesktopCapture.Duplicator

/-!
# Scenarios

A scenario is a list of steps taken one after the other.  Some steps only touch
the device's script, as the world around the library would; the others use the
library.  Each step leaves a record: the reply, and the journal of what the
library did meanwhile.  The modules beside this one define the steps for the parts
of the library that can be driven on their own; here is what they share.
-/

namespace DesktopCapture
namespace Scenario

/-- What the world around the library does to the device. -/
inductive DeviceStep
  | pushFrames (output : UInt32) (outcomes : List AcquireOutcome)
  | setFailing (call : FailingCall) (on : Bool)
  | queueFault (point : FaultPoint) (code : Int32)
  | queueAcquireFault (error : CaptureError)
  | failEnumerationAt (index : Option UInt32)
  | withholdWaitable (on : Bool)
  | setOutputs (outputs : List OutputConfig)
  | setTarget (target : Nat)

namespace DeviceStep

/-- The effect of a step on the device. -/
def apply (device : Device) : DeviceStep → Device
  | .pushFrames output outcomes => device.pushFrames output outcomes
  | .setFailing call on => device.setFailing call on
  | .queueFault point code =>
    { device with faults := device.faults.push point ⟨point.label, code⟩ }
  | .queueAcquireFault error => { device with faults := device.faults.pushAcquire error }
  | .failEnumerationAt index => { device with enumerationFailsAt := index }
  | .withholdWaitable on => { device with noFrameLatencyWaitable := on }
  | .setOutputs outputs => { device with outputs }
  | .setTarget target => { device with boundTarget := target }

end DeviceStep

/-- What the user does to the window of a preview. -/
inductive WindowStep
  /-- Closes the window, which hides it. -/
  | close
  /-- Gives its client area another size. -/
  | resize (size : Size)

namespace WindowStep

/-- The effect of a step on a preview. -/
def apply (preview : Preview) : WindowStep → Preview
  | .close => preview.closedByUser
  | .resize size => preview.resizedByUser size

/-- The effect of a step on a session, if it has a preview. -/
def onSession? (session : Session) (step : WindowStep) : Option Session :=
  session.preview.map fun preview =>
    { session with preview := some (WindowStep.apply preview step) }

end WindowStep

/-- The reply to a step. -/
inductive Reply
  | nothing
  | flag (value : Bool)
  | count (value : Nat)
  | index (value : Int32)
  | target (value : Nat)
  | white (value : Binary32)
  | colorSpace (value : ColorSpace)
  | texture (value : Texture)
  | monitor (info : MonitorInfo)
  | monitors (infos : List MonitorInfo)
  | error (error : CaptureError)
  /-- A handle to the session of a monitor. -/
  | handle (handle : Handle)
  /-- A handle, and whether it equals the one got before for the same monitor. -/
  | acquired (handle : Handle) (same : Option Bool)
  | session (session : Session)
  | cache (cache : FrameCache)
  | preview (preview : Preview)
  | device (device : Device)
  /-- What the step is about was dropped before. -/
  | dropped
  /-- No handle was ever got for the monitor. -/
  | noHandle
  /-- There is no preview. -/
  | noPreview
  /-- The device delivers no frame to take in. -/
  | noSource
  /-- The call does not come back. -/
  | endless

namespace Reply

/-- The reply that shows a value or nothing. -/
def ofOption (view : α → Reply) : Option α → Reply
  | some value => view value
  | none => .nothing

/-- The reply that shows a result or its error. -/
def ofExcept (view : α → Reply) : Except CaptureError α → Reply
  | .ok value => view value
  | .error cause => .error cause

/-- The reply that shows what a call comes back with, if it does. -/
def ofReturned (view : α → Reply) : Option α → Reply
  | some value => view value
  | none => .endless

end Reply

/-- What a step leaves: the reply and the journal of the library. -/
structure Record where
  reply : Reply
  journal : List Entry

/-- Take steps one after the other, from a state on. -/
def runFrom (step : σ → ι → Record × σ) (state : σ) : List ι → List Record × σ
  | [] => ([], state)
  | first :: rest =>
    let (record, state) := step state first
    let (records, state) := runFrom step state rest
    (record :: records, state)

@[simp] theorem runFrom_nil (step : σ → ι → Record × σ) (state : σ) :
    runFrom step state [] = ([], state) := rfl

@[simp] theorem runFrom_cons (step : σ → ι → Record × σ) (state : σ) (first : ι)
    (rest : List ι) :
    runFrom step state (first :: rest) =
      ((step state first).1 :: (runFrom step (step state first).2 rest).1,
        (runFrom step (step state first).2 rest).2) := rfl

/-- Taking two lists of steps is taking the first and then the second. -/
theorem runFrom_append (step : σ → ι → Record × σ) (state : σ) (before after : List ι) :
    runFrom step state (before ++ after) =
      ((runFrom step state before).1 ++ (runFrom step (runFrom step state before).2 after).1,
        (runFrom step (runFrom step state before).2 after).2) := by
  induction before generalizing state with
  | nil => rfl
  | cons first rest ih => simp [ih]

/-- Take steps one after the other, from a state on, up to one that stops the program. -/
def runChecked (overflow? : σ → ι → Option Overflow) (step : σ → ι → Record × σ) (state : σ) :
    List ι → Except Overflow (List Record × σ)
  | [] => .ok ([], state)
  | first :: rest =>
    match overflow? state first with
    | some overflow => .error overflow
    | none =>
      let (record, state) := step state first
      (runChecked overflow? step state rest).map fun (records, state) => (record :: records, state)

section Checked

variable {overflow? : σ → ι → Option Overflow} {step : σ → ι → Record × σ} {state : σ}
  {first : ι} {rest : List ι}

theorem runChecked_cons_eq_ok {after : List Record × σ}
    (hrun : runChecked overflow? step state (first :: rest) = .ok after) :
    overflow? state first = none ∧
      ∃ later, runChecked overflow? step (step state first).2 rest = .ok later ∧
        after = ((step state first).1 :: later.1, later.2) := by
  rw [runChecked] at hrun
  cases hpasses : overflow? state first with
  | some overflow => simp [hpasses] at hrun
  | none =>
    cases hrest : runChecked overflow? step (step state first).2 rest with
    | error overflow => simp [hpasses, hrest, Except.map] at hrun
    | ok later =>
      simp only [hpasses, hrest, Except.map] at hrun
      exact ⟨rfl, later, rfl, (Except.ok.inj hrun).symm⟩

theorem runChecked_cons_eq_error {overflow : Overflow}
    (hrun : runChecked overflow? step state (first :: rest) = .error overflow) :
    overflow? state first = some overflow ∨
      overflow? state first = none ∧
        runChecked overflow? step (step state first).2 rest = .error overflow := by
  rw [runChecked] at hrun
  cases hpasses : overflow? state first with
  | some early =>
    simp only [hpasses] at hrun
    exact .inl (congrArg some (Except.error.inj hrun))
  | none =>
    cases hrest : runChecked overflow? step (step state first).2 rest with
    | error late =>
      simp only [hpasses, hrest, Except.map] at hrun
      exact .inr ⟨rfl, hrun⟩
    | ok later => simp [hpasses, hrest, Except.map] at hrun

/-- A program that is not stopped does what it does without checks. -/
theorem runFrom_of_runChecked {steps : List ι} {after : List Record × σ}
    (hrun : runChecked overflow? step state steps = .ok after) :
    runFrom step state steps = after := by
  induction steps generalizing state after with
  | nil => exact Except.ok.inj hrun
  | cons first rest ih =>
    obtain ⟨-, later, hrest, rfl⟩ := runChecked_cons_eq_ok hrun
    rw [runFrom_cons, ih hrest]

end Checked

/-- A texture of a frame that the device delivers from its first output, for parts
of the library that take textures.  The device is used directly: the frame is
acquired and handed back, and the duplication is released, outside any journal. -/
def sourceTexture (outcome : AcquireOutcome) (device : Device) : Option Texture × Device :=
  let device := device.pushFrames 0 [outcome]
  match device.enumOutput 0 with
  | .ok (some output, device) =>
    match device.duplicate output with
    | .ok (duplication, device) =>
      let delivered := device.acquire duplication
      let device := delivered.2
      match delivered.1 with
      | .ok resource =>
        match device.frameTexture resource with
        | .ok (texture, device) =>
          let device := { device with heldFrames := device.heldFrames - 1 }
          (some texture, device.release (.duplication duplication.output))
        | .error _ => (none, device.release (.duplication duplication.output))
      | .error _ => (none, device.release (.duplication duplication.output))
    | .error _ => (none, device)
  | .ok (none, device) => (none, device)
  | .error _ => (none, device)

/-- The device of scenarios that need a single output only. -/
def singleOutputDevice : Device :=
  Device.ofOutputs [
    { description := ⟨10, ⟨0, 0, 1920, 1080⟩, .identity⟩
      color := .standard
      negotiates := true
      describable := true }]

end Scenario
end DesktopCapture
