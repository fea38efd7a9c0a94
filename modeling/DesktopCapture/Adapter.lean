import DesktopCapture.Device.Capture

/-!
# The adapter's outputs

Queries on the monitors connected to an adapter.  The outputs stand in a row from
index zero, and the first index without an output ends the row; an output that
cannot be enumerated is a failure, not an end.  A query that walks the row goes on
until something ends it.  Walks are given a limit here, and one that was not ended
within its limit has no answer, which is none of the answers of a walk that was.
-/

namespace DesktopCapture
namespace Adapter

/-- The output of an index; there being none is an error of its own. -/
def output (index : UInt32) : Capture (Except CaptureError Output) := do
  match ← Capture.enumOutput index with
  | .error error => pure (.error (.platform error))
  | .ok none => pure (.error (.notFound index))
  | .ok (some output) => pure (.ok output)

/-- Position, size and rotation of the monitor of an index. -/
def monitorInfo (index : UInt32) : Capture (Except CaptureError MonitorInfo) := do
  match ← output index with
  | .error error => pure (.error error)
  | .ok output =>
    match ← Capture.describe output with
    | .error error => pure (.error (.platform error))
    | .ok description => pure (.ok (.ofDescription description))

/-- The monitors from an index on, if something ends the walk within `limit` outputs. -/
def monitorsFrom : Nat → UInt32 → Capture (Option (Except PlatformError (List MonitorInfo)))
  | 0, _ => pure none
  | limit + 1, index => do
    match ← Capture.enumOutput index with
    | .error error => pure (some (.error error))
    | .ok none => pure (some (.ok []))
    | .ok (some output) =>
      match ← Capture.describe output with
      | .error error => pure (some (.error error))
      | .ok description =>
        let others ← monitorsFrom limit (index + 1)
        pure (others.map (Except.map (MonitorInfo.ofDescription description :: ·)))

/-- Every monitor in order of its index, or the first failure met.  The row ends behind
the outputs at the latest, if they have an index each. -/
def monitors : Capture (Option (Except PlatformError (List MonitorInfo))) := fun device =>
  monitorsFrom (device.outputs.length + 1) 0 device

/-- The index from `index` on of the output connected to a monitor, if something ends
the walk within `limit` outputs.  An output without a readable descriptor is passed
over. -/
def indexFrom (monitor : MonitorHandle) : Nat → UInt32 → Capture (Option Int32)
  | 0, _ => pure none
  | limit + 1, index => do
    match ← Capture.enumOutput index with
    | .error error =>
      Capture.notify [] (.outputUnavailable index error)
      pure (some (-1))
    | .ok none => pure (some (-1))
    | .ok (some output) =>
      match ← Capture.describe output with
      | .error error =>
        Capture.notify [] (.descriptorUnreadable index error)
        indexFrom monitor limit (index + 1)
      | .ok description =>
        if description.monitor = monitor then pure (some index.toInt32)
        else indexFrom monitor limit (index + 1)

/-- The index of the output connected to a monitor, `-1` if there is none. -/
def indexOf (monitor : MonitorHandle) : Capture (Option Int32) := fun device =>
  indexFrom monitor (device.outputs.length + 1) 0 device

end Adapter
end DesktopCapture
