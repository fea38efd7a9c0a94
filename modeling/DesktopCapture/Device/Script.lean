import DesktopCapture.Error
import DesktopCapture.Pixel
import DesktopCapture.Monitor

/-!
# What a device is scripted with

The device is simulated: its outputs, the outcomes of its frame acquisitions and
the calls that fail are given in advance.  A failing call fails every time until
it is switched back; a queued fault answers one call in the device's place and is
then used up.
-/

namespace DesktopCapture

/-- An output of the adapter together with the monitor connected to it. -/
structure OutputConfig where
  description : OutputDescription
  color : ColorInfo
  /-- The output can be duplicated with a choice of formats. -/
  negotiates : Bool
  /-- The output's descriptor can be read. -/
  describable : Bool
deriving DecidableEq

namespace OutputConfig

/-- An output that negotiates, with a monitor of standard dynamic range and these bounds. -/
def ofBounds (monitor : MonitorHandle) (bounds : Rect) : OutputConfig :=
  { description := ⟨monitor, bounds, .identity⟩
    color := .standard
    negotiates := true
    describable := true }

/-- Such an output with its left top corner at a point and a size, unless a far edge is no
coordinate. -/
def sized? (monitor : MonitorHandle) (origin : Point) (size : Size) : Option OutputConfig :=
  (Rect.ofOrigin? origin size).map (ofBounds monitor)

end OutputConfig

/-- The outcome of one frame acquisition. -/
inductive AcquireOutcome
  /-- A frame arrives. -/
  | frame (size : Size) (format : NativeFormat)
  /-- No frame arrives in time. -/
  | timeout
  /-- The duplication is invalidated. -/
  | accessLost
  /-- The platform fails in another way. -/
  | failure
  /-- A frame arrives whose resource is no 2D texture. -/
  | notTexture
deriving DecidableEq

/-- The calls that can be made to fail. -/
inductive FailingCall
  | duplication | colorInfo | createTexture | createWindow | createSwapChain | resize | bind
  | present
deriving DecidableEq

/-- The platform calls that a queued fault can answer. -/
inductive FaultPoint
  | enumOutput | describe | duplicateWithFormats | duplicate | colorInfo | releaseFrame
  | frameTexture | createTexture | createWindow | createSwapChain | resize | bind | present
deriving DecidableEq

namespace FaultPoint

/-- The label of a queued fault. -/
def label : FaultPoint → String
  | .enumOutput => "Injected::EnumOutput"
  | .describe => "Injected::Desc"
  | .duplicateWithFormats => "Injected::DuplicateWithFormats"
  | .duplicate => "Injected::Duplicate"
  | .colorInfo => "Injected::ColorInfo"
  | .releaseFrame => "Injected::ReleaseFrame"
  | .frameTexture => "Injected::FrameTexture"
  | .createTexture => "Injected::CreateTexture"
  | .createWindow => "Injected::CreateWindow"
  | .createSwapChain => "Injected::CreateSwapChain"
  | .resize => "Injected::Resize"
  | .bind => "Injected::Bind"
  | .present => "Injected::Present"

end FaultPoint

/-- The label of a queued platform fault of an acquisition. -/
def acquireFaultLabel : String := "Injected::Acquire"

/-- The queued faults of every call, in the order they will be met. -/
structure Faults where
  platform : FaultPoint → List PlatformError
  acquire : List CaptureError

namespace Faults

/-- No queued faults. -/
def none : Faults := ⟨fun _ => [], []⟩

/-- Queue a fault of a platform call behind those queued before. -/
def push (faults : Faults) (point : FaultPoint) (error : PlatformError) : Faults :=
  { faults with platform := fun other =>
      if other = point then faults.platform other ++ [error] else faults.platform other }

/-- Queue a fault of an acquisition behind those queued before. -/
def pushAcquire (faults : Faults) (error : CaptureError) : Faults :=
  { faults with acquire := faults.acquire ++ [error] }

/-- The first queued fault of a platform call, and the faults without it. -/
def take? (faults : Faults) (point : FaultPoint) : Option (PlatformError × Faults) :=
  match faults.platform point with
  | [] => Option.none
  | error :: rest =>
    some (error, { faults with platform := fun other =>
      if other = point then rest else faults.platform other })

/-- The first queued fault of an acquisition, and the faults without it. -/
def takeAcquire? (faults : Faults) : Option (CaptureError × Faults) :=
  match faults.acquire with
  | [] => Option.none
  | error :: rest => some (error, { faults with acquire := rest })

@[simp] theorem take?_none (point : FaultPoint) : Faults.none.take? point = Option.none := rfl

@[simp] theorem takeAcquire?_none : Faults.none.takeAcquire? = Option.none := rfl

end Faults
end DesktopCapture
