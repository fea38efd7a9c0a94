/-!
# Pixel formats and colour spaces

The platform numbers its formats; the library knows the twenty-three of them it
can hold, each by the native format a texture of it is allocated with.  Reading a
native number is looking it up among those, and everything else is unknown.

A cached frame is stored in a general format, which forgets that eight-bit
channels must not be viewed as sRGB, so that both views of the cached texture can
be made.
-/

namespace DesktopCapture

/-- The platform's number of a pixel format. -/
structure NativeFormat where
  code : Int32
deriving DecidableEq

namespace NativeFormat

/-- No format. -/
def unknown : NativeFormat := ⟨0⟩

/-- Four half floats, red first. -/
def rgba16Float : NativeFormat := ⟨10⟩

/-- Four eight-bit channels, blue first. -/
def bgra8 : NativeFormat := ⟨87⟩

end NativeFormat

/-- The formats offered to a duplication that negotiates, preferred ones first. -/
def offeredFormats : List NativeFormat := [.rgba16Float, .bgra8]

/-- The texture formats the library can hold. -/
inductive ColorFormat
  | unknown | a8 | r8 | rgba | bgrx | bgra | r10g10b10a2 | rgba16 | r16 | rgba16F | rgba32F
  | rg16F | rg32F | r16F | r32F | dxt1 | dxt3 | dxt5 | r8g8 | rgbaUnorm | bgrxUnorm
  | bgraUnorm | rg16
deriving DecidableEq

namespace ColorFormat

/-- Every format. -/
def all : List ColorFormat :=
  [.unknown, .a8, .r8, .rgba, .bgrx, .bgra, .r10g10b10a2, .rgba16, .r16, .rgba16F, .rgba32F,
    .rg16F, .rg32F, .r16F, .r32F, .dxt1, .dxt3, .dxt5, .r8g8, .rgbaUnorm, .bgrxUnorm,
    .bgraUnorm, .rg16]

/-- The name of a format in logs. -/
def name : ColorFormat → String
  | .unknown => "Unknown"
  | .a8 => "A8"
  | .r8 => "R8"
  | .rgba => "Rgba"
  | .bgrx => "Bgrx"
  | .bgra => "Bgra"
  | .r10g10b10a2 => "R10G10B10A2"
  | .rgba16 => "Rgba16"
  | .r16 => "R16"
  | .rgba16F => "Rgba16F"
  | .rgba32F => "Rgba32F"
  | .rg16F => "Rg16F"
  | .rg32F => "Rg32F"
  | .r16F => "R16F"
  | .r32F => "R32F"
  | .dxt1 => "Dxt1"
  | .dxt3 => "Dxt3"
  | .dxt5 => "Dxt5"
  | .r8g8 => "R8G8"
  | .rgbaUnorm => "RgbaUnorm"
  | .bgrxUnorm => "BgrxUnorm"
  | .bgraUnorm => "BgraUnorm"
  | .rg16 => "Rg16"

/-- The format with a name. -/
def ofName? (name : String) : Option ColorFormat :=
  all.find? fun format => format.name = name

/-- The native format a texture is allocated with.  Eight-bit formats without the
unorm mark are typeless, so that linear and sRGB views of them can be made. -/
def native : ColorFormat → NativeFormat
  | .unknown => ⟨0⟩
  | .a8 => ⟨65⟩
  | .r8 => ⟨61⟩
  | .rgba => ⟨27⟩
  | .bgrx => ⟨92⟩
  | .bgra => ⟨90⟩
  | .r10g10b10a2 => ⟨24⟩
  | .rgba16 => ⟨11⟩
  | .r16 => ⟨56⟩
  | .rgba16F => ⟨10⟩
  | .rgba32F => ⟨2⟩
  | .rg16F => ⟨34⟩
  | .rg32F => ⟨16⟩
  | .r16F => ⟨54⟩
  | .r32F => ⟨41⟩
  | .dxt1 => ⟨71⟩
  | .dxt3 => ⟨74⟩
  | .dxt5 => ⟨77⟩
  | .r8g8 => ⟨49⟩
  | .rgbaUnorm => ⟨28⟩
  | .bgrxUnorm => ⟨88⟩
  | .bgraUnorm => ⟨87⟩
  | .rg16 => ⟨35⟩

/-- The format that holds a native format, `unknown` if there is none. -/
def ofNative (native : NativeFormat) : ColorFormat :=
  (all.find? fun format => format.native = native).getD .unknown

/-- The format without the unorm mark. -/
def generalize : ColorFormat → ColorFormat
  | .rgbaUnorm => .rgba
  | .bgrxUnorm => .bgrx
  | .bgraUnorm => .bgra
  | format => format

/-- The format a frame of a native format is cached in. -/
def cached (native : NativeFormat) : ColorFormat := (ofNative native).generalize

@[simp] theorem ofNative_native (format : ColorFormat) : ofNative format.native = format := by
  cases format <;> decide

@[simp] theorem generalize_generalize (format : ColorFormat) :
    format.generalize.generalize = format.generalize := by
  cases format <;> rfl

end ColorFormat

/-- How the values of a cached frame are to be read. -/
inductive ColorSpace
  /-- Eight-bit sRGB. -/
  | srgb
  /-- The sRGB transfer in half floats. -/
  | srgb16F
  /-- Rec. 709 primaries past the unit interval. -/
  | rec709Extended
  /-- Linear Rec. 709 primaries, one being eighty nits. -/
  | rec709ScRgb
deriving DecidableEq

namespace ColorSpace

/-- The name of a colour space. -/
def name : ColorSpace → String
  | .srgb => "Srgb"
  | .srgb16F => "Srgb16F"
  | .rec709Extended => "Rec709Extended"
  | .rec709ScRgb => "Rec709ScRgb"

/-- The colour space of a frame: a monitor in high dynamic range delivers linear
values, and otherwise half floats and eight-bit values both hold sRGB. -/
def ofFrame (hdr : Bool) (native : NativeFormat) : ColorSpace :=
  if hdr then .rec709ScRgb
  else if native = .rgba16Float then .srgb16F
  else .srgb

end ColorSpace
end DesktopCapture
