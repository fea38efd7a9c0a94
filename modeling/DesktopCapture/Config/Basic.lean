/-!
# The configuration of the preview tool

A configuration has five fields, and each has a standard value.
-/

namespace DesktopCapture

/-- What the user can set. -/
structure Config where
  /-- The index of the monitor to duplicate. -/
  monitor : UInt32
  /-- Whether to show frames in a window. -/
  showPreview : Bool
  /-- The time between two updates, in milliseconds. -/
  frameInterval : UInt64
  /-- The number of frames after which to stop. -/
  maxFrames : Option UInt64
  /-- Whether to keep a detailed log. -/
  debug : Bool
deriving DecidableEq

namespace Config

/-- The configuration of a user who sets nothing. -/
def standard : Config := ⟨0, true, 16, none, false⟩

end Config
end DesktopCapture
