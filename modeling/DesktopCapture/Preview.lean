import DesktopCapture.Device.Capture

/-!
# Previews

A preview is a window with a swap chain that shows the cached frame.  Presenting
borrows the device's bound target: the target is saved, the swap chain is bound
and drawn to, and the saved target is bound again however the drawing ended.

The window can change its size at any time; its swap chain follows at the next
present.
-/

namespace DesktopCapture

/-- A window and its swap chain. -/
structure Preview where
  swapChain : SwapChain
  window : Window
deriving DecidableEq

namespace Preview

/-- The title of preview windows unless another is asked for. -/
def defaultTitle : String := "Screen Display"

/-- The colour a swap chain is cleared to. -/
def clearColor : List Binary32 := [.zero, .zero, .zero, .zero]

/-- Make a window and its swap chain and show the window.  A window that gets no
swap chain is destroyed. -/
def assemble (size : Size) (title : String) : Capture (Except PlatformError Preview) := do
  match ← Capture.createWindow title size with
  | .error error => pure (.error error)
  | .ok window =>
    match ← Capture.createSwapChain window size with
    | .error error =>
      Capture.release (.window window.id)
      pure (.error error)
    | .ok swapChain =>
      let window ← Capture.setVisible window true
      pure (.ok ⟨swapChain, window⟩)

/-- Make a preview half the size of a monitor, inside the given spans. -/
def create (outer : List Span) (monitor : MonitorInfo) (title : String) :
    Capture (Except PlatformError Preview) := do
  let spans := outer ++ [.previewCreation]
  let made ← assemble monitor.size.half title
  match made with
  | .error error => Capture.notify spans (.previewCreationEnded error)
  | .ok _ => pure ()
  Capture.endSpan spans
  pure made

/-- Whether there is anything to draw on: the window is shown and its client area
is not empty. -/
def isShowing (preview : Preview) : Bool :=
  preview.window.visible && !preview.window.clientSize.isEmpty

/-- Give the swap chain the size of the window's client area. -/
def fitSurface (preview : Preview) : Capture (Except PlatformError Preview) :=
  if preview.swapChain.size = preview.window.clientSize then pure (.ok preview)
  else do
    match ← Capture.resize preview.swapChain preview.window.clientSize with
    | .error error => pure (.error error)
    | .ok swapChain => pure (.ok { preview with swapChain })

/-- The sync interval: presents wait for the display when the swap chain can be
waited for. -/
def syncInterval (preview : Preview) : UInt32 :=
  if preview.swapChain.frameLatencyWaitable then 1 else 0

/-- Bind the swap chain, draw a texture on it and present it. -/
def drawBound (preview : Preview) (texture : Texture) : Capture (Except PlatformError Unit) := do
  match ← Capture.bindSwapChain preview.swapChain with
  | .error error => pure (.error error)
  | .ok () =>
    Capture.clear preview.swapChain clearColor
    Capture.copyToSwapChain preview.swapChain texture (.ofSize texture.size)
    Capture.present preview.swapChain preview.syncInterval

/-- Draw a texture and leave the bound target as it was. -/
def draw (preview : Preview) (texture : Texture) : Capture (Except PlatformError Unit) := do
  let target ← Capture.saveTarget
  let drawn ← preview.drawBound texture
  Capture.restoreTarget target
  pure drawn

/-- Show a texture.  The answer is whether anything was presented: without a
texture, or with nothing to draw on, the device is left alone. -/
def present (preview : Preview) (texture : Option Texture) :
    Capture (Except PlatformError Bool × Preview) :=
  match texture with
  | none => pure (.ok false, preview)
  | some texture =>
    if preview.isShowing then do
      match ← preview.fitSurface with
      | .error error => pure (.error error, preview)
      | .ok preview =>
        let drawn ← preview.draw texture
        pure (drawn.map fun () => true, preview)
    else pure (.ok false, preview)

/-- Show or hide the window. -/
def setVisible (preview : Preview) (visible : Bool) : Capture Preview := do
  let window ← Capture.setVisible preview.window visible
  pure { preview with window }

/-- Release the swap chain and then the window. -/
def release (preview : Preview) : Capture Unit := do
  Capture.release (.swapChain preview.swapChain.id)
  Capture.release (.window preview.window.id)

/-- The preview after its user closed the window, which hides it. -/
def closedByUser (preview : Preview) : Preview :=
  { preview with window := { preview.window with visible := false } }

/-- The preview after its user gave the window's client area another size. -/
def resizedByUser (preview : Preview) (size : Size) : Preview :=
  { preview with window := { preview.window with clientSize := size } }

end Preview
end DesktopCapture
