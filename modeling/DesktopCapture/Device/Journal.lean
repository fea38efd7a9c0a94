import DesktopCapture.Device.Object
import DesktopCapture.Notice

/-!
# The journal of a step

Everything that happens between the library and its surroundings is one entry of
a journal, in the order it happens: the calls on the device with the answers they
got, the releases of objects, the notices for the log, and the ends of the spans
the notices stand in.
-/

namespace DesktopCapture

/-- A call on the device. -/
inductive Call
  | enumOutput (index : UInt32)
  | describe (output : UInt32)
  | duplicateWithFormats (output : UInt32) (formats : List NativeFormat)
  | duplicate (output : UInt32)
  | colorInfo (output : UInt32)
  | acquire (output : UInt32) (timeoutMs : UInt32)
  | releaseFrame (output : UInt32)
  | frameTexture
  | createTexture (size : Size) (format : ColorFormat)
  | copyTexture (destination source : Nat)
  | createWindow (title : String) (size : Size)
  | createSwapChain (window : Nat) (size : Size)
  | setVisible (window : Nat) (visible : Bool)
  | resize (swapChain : Nat) (size : Size)
  | saveTarget
  | bind (swapChain : Nat)
  | clear (swapChain : Nat) (color : List Binary32)
  | copyToSwapChain (swapChain source : Nat) (region : Region)
  | present (swapChain : Nat) (interval : UInt32)
  | restoreTarget (target : Nat)
deriving DecidableEq

/-- The answer to a call. -/
inductive Answer
  /-- It was done. -/
  | done
  /-- It was done, and there was nothing to hand out. -/
  | absent
  /-- It handed out the object, or the target, of this number. -/
  | number (id : Nat)
  /-- It handed out a texture. -/
  | texture (texture : Texture)
  /-- It failed. -/
  | failed (error : CaptureError)
deriving DecidableEq

/-- The release of an object. -/
inductive Release
  /-- The duplication of an output. -/
  | duplication (output : UInt32)
  /-- An allocated texture. -/
  | texture (id : Nat)
  /-- A swap chain. -/
  | swapChain (id : Nat)
  /-- A window. -/
  | window (id : Nat)
deriving DecidableEq

/-- An entry of the journal. -/
inductive Entry
  /-- A call and its answer. -/
  | call (call : Call) (answer : Answer)
  /-- The release of an object. -/
  | release (release : Release)
  /-- A notice inside spans, the outermost first. -/
  | notice (spans : List Span) (notice : Notice)
  /-- The end of the last of these spans. -/
  | spanEnd (spans : List Span)
deriving DecidableEq

end DesktopCapture
