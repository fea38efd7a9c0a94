import DesktopCapture.Device.Capture

/-!
# The cached frame

The latest frame of a session is kept in one texture of the session's own.  A
frame of the same size and general format is copied into it; otherwise the
texture is released first and another one is allocated, so that a cache never
owns two textures.  An allocation that fails leaves no texture, and the size,
format and colour space remembered then are those of the texture before it.
-/

namespace DesktopCapture

/-- The texture of the latest frame with what is remembered of it. -/
structure FrameCache where
  texture : Option Texture
  size : Size
  format : ColorFormat
  colorSpace : ColorSpace
deriving DecidableEq

namespace FrameCache

/-- The cache before the first frame. -/
def empty : FrameCache := ⟨none, .zero, .unknown, .srgb⟩

/-- Whether a frame of this size and general format can be copied into the
cached texture. -/
def fits (cache : FrameCache) (size : Size) (format : ColorFormat) : Bool :=
  cache.texture.isSome && cache.size = size && cache.format = format

/-- Release the cached texture. -/
def release (cache : FrameCache) : Capture Unit :=
  match cache.texture with
  | some texture => Capture.release (.texture texture.id)
  | none => pure ()

/-- Release the cached texture and allocate one for a frame. -/
def reallocate (cache : FrameCache) (source : Texture) (hdr : Bool) : Capture FrameCache := do
  let format := ColorFormat.cached source.format
  cache.release
  Capture.notify [] (.allocatingTexture source.size format)
  match ← Capture.createTexture source.size format with
  | .ok texture => pure ⟨some texture, source.size, format, .ofFrame hdr source.format⟩
  | .error error =>
    Capture.notify [] (.textureFailed error)
    pure { cache with texture := none }

/-- Copy a frame into the cached texture. -/
def fill (cache : FrameCache) (source : Texture) : Capture Unit :=
  match cache.texture with
  | some texture => Capture.copyTexture texture source
  | none => pure ()

/-- Take in a frame. -/
def ingest (cache : FrameCache) (source : Texture) (hdr : Bool) : Capture FrameCache := do
  let cache ←
    if cache.fits source.size (.cached source.format) then pure cache
    else cache.reallocate source hdr
  cache.fill source
  pure cache

end FrameCache
end DesktopCapture
