import DesktopCapture.Device.State

/-!
# Actions on the device

An action takes a device and leaves a value, the device afterwards and the journal
of what it did.  Actions compose in order and their journals are appended, so the
journal of a composed action is read off its parts.

The calls on the device are defined here once for all.  Each writes exactly one
entry, with its answer.  A call that can fail first looks for a queued fault; if
there is one, the fault is the answer and the call does not reach the device.
-/

namespace DesktopCapture

/-- What an action leaves behind. -/
structure Traced (α : Type) where
  value : α
  device : Device
  journal : List Entry

/-- An action on the device. -/
def Capture (α : Type) : Type := Device → Traced α

namespace Capture

/-- The action that does nothing. -/
protected def pure (value : α) : Capture α := fun device => ⟨value, device, []⟩

/-- One action and then another. -/
protected def bind (first : Capture α) (next : α → Capture β) : Capture β := fun device =>
  let before := first device
  let after := next before.value before.device
  ⟨after.value, after.device, before.journal ++ after.journal⟩

instance : Monad Capture where
  pure := Capture.pure
  bind := Capture.bind

@[simp] theorem pure_apply (value : α) (device : Device) :
    (pure value : Capture α) device = ⟨value, device, []⟩ := rfl

@[simp] theorem bind_apply (first : Capture α) (next : α → Capture β) (device : Device) :
    (first >>= next) device =
      ⟨(next (first device).value (first device).device).value,
        (next (first device).value (first device).device).device,
        (first device).journal ++ (next (first device).value (first device).device).journal⟩ :=
  rfl

/-- Write an entry. -/
def note (entry : Entry) : Capture Unit := fun device => ⟨(), device, [entry]⟩

/-- Say something to the log. -/
def notify (spans : List Span) (notice : Notice) : Capture Unit := note (.notice spans notice)

/-- End the last of the spans. -/
def endSpan (spans : List Span) : Capture Unit := note (.spanEnd spans)

/-- Release an object. -/
def release (released : Release) : Capture Unit := fun device =>
  ⟨(), device.release released, [.release released]⟩

/-- A call that cannot fail. -/
def always (call : Call) (answer : Device → Answer) (act : Device → Device) : Capture Unit :=
  fun device => ⟨(), act device, [.call call (answer device)]⟩

/-- A call that can fail.  A queued fault answers in the device's place. -/
def fallible (point : FaultPoint) (call : Call) (answer : α → Answer)
    (act : Device → Except PlatformError (α × Device)) : Capture (Except PlatformError α) :=
  fun device =>
    match device.faults.take? point with
    | some (error, faults) =>
      ⟨.error error, { device with faults }, [.call call (.failed (.platform error))]⟩
    | none =>
      match act device with
      | .ok (value, device) => ⟨.ok value, device, [.call call (answer value)]⟩
      | .error error => ⟨.error error, device, [.call call (.failed (.platform error))]⟩

/-- Get the output of an index, if there is one. -/
def enumOutput (index : UInt32) : Capture (Except PlatformError (Option Output)) :=
  fallible .enumOutput (.enumOutput index)
    (fun output => if output.isSome then .done else .absent) (Device.enumOutput index)

/-- Read the descriptor of an output. -/
def describe (output : Output) : Capture (Except PlatformError OutputDescription) :=
  fallible .describe (.describe output.index) (fun _ => .done) (Device.describe output)

/-- Duplicate an output with a choice of formats, if the output negotiates. -/
def duplicateWithFormats (output : Output) (formats : List NativeFormat) :
    Capture (Except PlatformError (Option Duplication)) :=
  fallible .duplicateWithFormats (.duplicateWithFormats output.index formats)
    (fun duplication => if duplication.isSome then .done else .absent)
    (Device.duplicateWithFormats output formats)

/-- Duplicate an output in the baseline mode. -/
def duplicate (output : Output) : Capture (Except PlatformError Duplication) :=
  fallible .duplicate (.duplicate output.index) (fun _ => .done) (Device.duplicate output)

/-- Read the colour information of the monitor at an output. -/
def colorInfo (output : Output) : Capture (Except PlatformError ColorInfo) :=
  fallible .colorInfo (.colorInfo output.index) (fun _ => .done) (Device.colorInfo output)

/-- Acquire the next frame of a duplication, waiting for at most `timeoutMs`
milliseconds.  A queued fault answers in the device's place. -/
def acquire (duplication : Duplication) (timeoutMs : UInt32) :
    Capture (Except CaptureError FrameResource) := fun device =>
  let call := Call.acquire duplication.output timeoutMs
  match device.faults.takeAcquire? with
  | some (error, faults) => ⟨.error error, { device with faults }, [.call call (.failed error)]⟩
  | none =>
    match device.acquire duplication with
    | (.ok resource, device) => ⟨.ok resource, device, [.call call .done]⟩
    | (.error error, device) => ⟨.error error, device, [.call call (.failed error)]⟩

/-- Hand the acquired frame of a duplication back. -/
def releaseFrame (duplication : Duplication) : Capture (Except PlatformError Unit) :=
  fallible .releaseFrame (.releaseFrame duplication.output) (fun _ => .done) Device.releaseFrame

/-- Query the 2D texture of a frame. -/
def frameTexture (resource : FrameResource) : Capture (Except PlatformError Texture) :=
  fallible .frameTexture .frameTexture .texture (Device.frameTexture resource)

/-- Allocate a texture. -/
def createTexture (size : Size) (format : ColorFormat) :
    Capture (Except PlatformError Texture) :=
  fallible .createTexture (.createTexture size format) .texture
    (Device.createTexture size format)

/-- Copy a texture into another. -/
def copyTexture (destination source : Texture) : Capture Unit :=
  always (.copyTexture destination.id source.id) (fun _ => .done)
    (Device.copyTexture destination source)

/-- Make a hidden window. -/
def createWindow (title : String) (size : Size) : Capture (Except PlatformError Window) :=
  fallible .createWindow (.createWindow title size) (fun window => .number window.id)
    (Device.createWindow title size)

/-- Make a swap chain for a window. -/
def createSwapChain (window : Window) (size : Size) :
    Capture (Except PlatformError SwapChain) :=
  fallible .createSwapChain (.createSwapChain window.id size)
    (fun swapChain => .number swapChain.id) (Device.createSwapChain size)

/-- Show or hide a window. -/
def setVisible (window : Window) (visible : Bool) : Capture Window := do
  always (.setVisible window.id visible) (fun _ => .done) id
  pure { window with visible }

/-- Resize a swap chain. -/
def resize (swapChain : SwapChain) (size : Size) : Capture (Except PlatformError SwapChain) :=
  fallible .resize (.resize swapChain.id size) (fun _ => .done) (Device.resize swapChain size)

/-- Save the bound target. -/
def saveTarget : Capture Nat := fun device =>
  ⟨device.boundTarget, device, [.call .saveTarget (.number device.boundTarget)]⟩

/-- Bind a swap chain as the target. -/
def bindSwapChain (swapChain : SwapChain) : Capture (Except PlatformError Unit) :=
  fallible .bind (.bind swapChain.id) (fun _ => .done) (Device.bindSwapChain swapChain)

/-- Clear a swap chain to a colour. -/
def clear (swapChain : SwapChain) (color : List Binary32) : Capture Unit :=
  always (.clear swapChain.id color) (fun _ => .done) Device.clear

/-- Copy a region of a texture into a swap chain. -/
def copyToSwapChain (swapChain : SwapChain) (source : Texture) (region : Region) :
    Capture Unit :=
  always (.copyToSwapChain swapChain.id source.id region) (fun _ => .done)
    (Device.copyToSwapChain swapChain source region)

/-- Present a swap chain. -/
def present (swapChain : SwapChain) (interval : UInt32) : Capture (Except PlatformError Unit) :=
  fallible .present (.present swapChain.id interval) (fun _ => .done)
    (Device.present swapChain interval)

/-- Bind a saved target again. -/
def restoreTarget (target : Nat) : Capture Unit :=
  always (.restoreTarget target) (fun _ => .done) (Device.restoreTarget target)

end Capture
end DesktopCapture
