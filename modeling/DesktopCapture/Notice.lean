import DesktopCapture.Error
import DesktopCapture.Monitor
import DesktopCapture.Pixel

/-!
# Notices

What the library has to say to its log, one constructor for each occasion.  The
level of a notice and its wording are decided here and nowhere else.
-/

namespace DesktopCapture

/-- How grave a notice is. -/
inductive Level
  | error | warn | info | debug | trace
deriving DecidableEq

namespace Level

/-- The graver a level, the lower its number. -/
def detail : Level → Nat
  | .error => 0
  | .warn => 1
  | .info => 2
  | .debug => 3
  | .trace => 4

/-- Whether a log kept at `threshold` records something of this level. -/
def isRecorded (level threshold : Level) : Bool := level.detail ≤ threshold.detail

/-- The name of a level. -/
def name : Level → String
  | .error => "ERROR"
  | .warn => "WARN"
  | .info => "INFO"
  | .debug => "DEBUG"
  | .trace => "TRACE"

end Level

/-- An activity that notices stand in. -/
inductive Span
  /-- Starting a session on a monitor. -/
  | sessionStart (monitor : UInt32)
  /-- Making a preview. -/
  | previewCreation
deriving DecidableEq

namespace Span

/-- The level of spans. -/
def level : Level := .info

/-- The text of a span: its name and its fields. -/
def text : Span → String
  | .sessionStart monitor =>
    "DuplicationSession::start\x7bmonitor_index=" ++ toString monitor.toNat ++ "\x7d"
  | .previewCreation => "PreviewPresenter::new"

end Span

/-- Something to log. -/
inductive Notice
  /-- An output could not be enumerated while looking for a monitor. -/
  | outputUnavailable (index : UInt32) (error : PlatformError)
  /-- A descriptor could not be read while looking for a monitor. -/
  | descriptorUnreadable (index : UInt32) (error : PlatformError)
  /-- A texture for frames is about to be allocated. -/
  | allocatingTexture (size : Size) (format : ColorFormat)
  /-- No texture could be allocated. -/
  | textureFailed (error : PlatformError)
  /-- The colour information of the monitor could not be read. -/
  | colorInfoUnread (error : PlatformError)
  /-- The output does not negotiate formats. -/
  | baselineMode
  /-- The descriptor needed for a preview could not be read. -/
  | previewDescriptorUnreadable (error : PlatformError)
  /-- No preview could be made. -/
  | previewFailed (error : PlatformError)
  /-- A session was started. -/
  | sessionStarted (monitor : UInt32) (color : ColorInfo)
  /-- Starting a session ended in this error. -/
  | startEnded (error : CaptureError)
  /-- Making a preview ended in this error. -/
  | previewCreationEnded (error : PlatformError)
  /-- The duplication of a monitor was invalidated. -/
  | accessLost (monitor : UInt32)
  /-- A frame could not be acquired. -/
  | acquireFailed (error : CaptureError)
  /-- The texture of a frame could not be queried. -/
  | frameTextureFailed (error : PlatformError)
  /-- A frame could not be handed back. -/
  | releaseFrameFailed (error : PlatformError)
  /-- A preview could not be presented. -/
  | presentFailed (error : PlatformError)
  /-- A handle without a session was released. -/
  | unregisteredRelease (monitor : UInt32)
  /-- The last handle of a session was released. -/
  | destroyingSession (monitor : UInt32)
  /-- A session was asked for on a monitor that does not exist. -/
  | noMonitor (index : UInt32)
  /-- A session could not be started. -/
  | createFailed (index : UInt32) (error : CaptureError)
deriving DecidableEq

namespace Notice

/-- The level of a notice. -/
def level : Notice → Level
  | .outputUnavailable .. | .descriptorUnreadable .. | .textureFailed .. => .error
  | .previewDescriptorUnreadable .. | .previewFailed .. | .previewCreationEnded .. => .error
  | .acquireFailed .. | .frameTextureFailed .. | .presentFailed .. | .createFailed .. => .error
  | .colorInfoUnread .. | .accessLost .. | .releaseFrameFailed .. => .warn
  | .unregisteredRelease .. => .warn
  | .allocatingTexture .. | .baselineMode | .sessionStarted .. | .startEnded .. => .debug
  | .destroyingSession .. | .noMonitor .. => .debug

/-- The wording of a notice. -/
def text : Notice → String
  | .outputUnavailable index error =>
    "Failed to get output " ++ toString index.toNat ++ ":\n" ++ error.message
  | .descriptorUnreadable index error =>
    "Failed to get descriptor of output " ++ toString index.toNat ++ ":\n" ++ error.message
  | .allocatingTexture size format =>
    "Allocating frame texture " ++ toString size.width.toNat ++ "x" ++
      toString size.height.toNat ++ " " ++ format.name
  | .textureFailed error => "Failed to create frame texture:\n" ++ error.message
  | .colorInfoUnread error => "Failed to get monitor color info:\n" ++ error.message
  | .baselineMode => "Output does not support format negotiation, using baseline mode"
  | .previewDescriptorUnreadable error =>
    "Failed to get output descriptor for preview:\n" ++ error.message
  | .previewFailed error => "Failed to create preview:\n" ++ error.message
  | .sessionStarted monitor color =>
    "Started duplication of monitor " ++ toString monitor.toNat ++ " \x7b hdr: " ++
      (if color.hdr then "true" else "false") ++ ", sdr_white: " ++ color.sdrWhite.text ++ " \x7d"
  | .startEnded error => "error=" ++ error.message
  | .previewCreationEnded error => "error=" ++ error.message
  | .accessLost monitor => "Lost duplication access for monitor " ++ toString monitor.toNat
  | .acquireFailed error => "Failed to update frame:\n" ++ error.message
  | .frameTextureFailed error => "Failed to query frame texture:\n" ++ error.message
  | .releaseFrameFailed error => "Failed to release frame:\n" ++ error.message
  | .presentFailed error => "Failed to present preview:\n" ++ error.message
  | .unregisteredRelease monitor => "Released unregistered session " ++ toString monitor.toNat
  | .destroyingSession monitor => "Destroying session for monitor " ++ toString monitor.toNat
  | .noMonitor index => "No monitor at index " ++ toString index.toNat
  | .createFailed index error =>
    "Failed to create session for monitor " ++ toString index.toNat ++ ":\n" ++ error.message

end Notice
end DesktopCapture
