import DesktopCapture.Number.Hex

/-!
# Failures of the platform and of capturing

A platform failure is the label of the call together with its signed status code.
Capturing adds three causes that are no failures of a single call: a monitor that
does not exist, a duplication that lost access, and a frame that did not arrive in
time.

Every cause has a text.  The status code is shown as the eight upper-case
hexadecimal digits of its two's complement word.
-/

namespace DesktopCapture

/-- A failed platform call: its label and its status code. -/
structure PlatformError where
  call : String
  code : Int32
deriving DecidableEq

namespace PlatformError

/-- The text of a platform failure. -/
def message (error : PlatformError) : String :=
  "Windows " ++ error.call ++ " call failed:\nHRESULT: 0x" ++
    String.ofList (Hex.fixed 8 error.code.toUInt32.toNat)

end PlatformError

/-- Why a monitor query, a session start or a frame acquisition failed. -/
inductive CaptureError
  /-- The index is past the last output. -/
  | notFound (monitor : UInt32)
  /-- A platform call failed. -/
  | platform (error : PlatformError)
  /-- The duplication was invalidated for good. -/
  | accessLost
  /-- No frame was ready. -/
  | timeout
deriving DecidableEq

namespace CaptureError

/-- The text of a cause. -/
def message : CaptureError → String
  | .notFound monitor => "Monitor " ++ toString monitor.toNat ++ " does not exist"
  | .platform error => error.message
  | .accessLost => "Desktop duplication access was lost"
  | .timeout => "No new frame was available"

end CaptureError
end DesktopCapture
