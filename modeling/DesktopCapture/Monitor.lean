import DesktopCapture.Geometry
import DesktopCapture.Number.Binary32

/-!
# Monitors

What an output says of the monitor connected to it, and what consumers are told:
position, size and rotation, whether the monitor is in a high dynamic range mode,
and how bright its white is.
-/

namespace DesktopCapture

/-- The platform's handle of a monitor. -/
abbrev MonitorHandle := UInt32

/-- The descriptor of an output. -/
structure OutputDescription where
  monitor : MonitorHandle
  bounds : Rect
  rotation : Rotation
deriving DecidableEq

/-- Position, size and rotation of a monitor. -/
structure MonitorInfo where
  x : Int32
  y : Int32
  width : UInt32
  height : UInt32
  rotationDegrees : UInt32
deriving DecidableEq

namespace MonitorInfo

/-- The monitor at the origin without extent. -/
def zero : MonitorInfo := ⟨0, 0, 0, 0, 0⟩

/-- What a descriptor says of the monitor. -/
def ofDescription (description : OutputDescription) : MonitorInfo :=
  { x := description.bounds.left
    y := description.bounds.top
    width := description.bounds.size.width
    height := description.bounds.size.height
    rotationDegrees := description.rotation.degrees }

/-- The size of the monitor. -/
def size (info : MonitorInfo) : Size := ⟨info.width, info.height⟩

end MonitorInfo

/-- Dynamic range and white level of a monitor. -/
structure ColorInfo where
  hdr : Bool
  sdrWhite : Binary32
deriving DecidableEq

namespace ColorInfo

/-- What holds of a monitor whose colour information is not read. -/
def standard : ColorInfo := ⟨false, .eighty⟩

end ColorInfo
end DesktopCapture
