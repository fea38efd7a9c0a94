import DesktopCapture.Device.Script

/-!
# What a device hands out

Objects are plain values.  Textures, windows and swap chains carry the number the
device gave them; whoever holds the value of an allocated object is the one to
release it.
-/

namespace DesktopCapture

/-- An output as it was when it was enumerated. -/
structure Output where
  index : UInt32
  config : OutputConfig
deriving DecidableEq

/-- The duplication of an output. -/
structure Duplication where
  output : UInt32
deriving DecidableEq

/-- The resource a frame is delivered in: a 2D texture of a size and format, or
something else. -/
inductive FrameResource
  | texture (size : Size) (format : NativeFormat)
  | other
deriving DecidableEq

/-- A 2D texture. -/
structure Texture where
  id : Nat
  size : Size
  format : NativeFormat
deriving DecidableEq

/-- A window. -/
structure Window where
  id : Nat
  visible : Bool
  clientSize : Size
deriving DecidableEq

/-- A swap chain with the sizes it was resized to. -/
structure SwapChain where
  id : Nat
  size : Size
  frameLatencyWaitable : Bool
  resizes : List Size
deriving DecidableEq

end DesktopCapture
