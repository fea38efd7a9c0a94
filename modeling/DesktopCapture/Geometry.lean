/-!
# Rectangles, sizes and regions

Desktop coordinates are signed words, sizes and texture regions unsigned ones.
The size of a rectangle is the exact distance of its edges, whichever way round
they are; a rectangle given by its corner and its size exists only if its far
edges are coordinates.
-/

namespace DesktopCapture

/-- A width and a height in pixels. -/
structure Size where
  width : UInt32
  height : UInt32
deriving DecidableEq

namespace Size

/-- No pixels at all. -/
def zero : Size := ⟨0, 0⟩

/-- Each dimension halved, rounding down. -/
def half (size : Size) : Size := ⟨size.width / 2, size.height / 2⟩

/-- Whether there is nothing to draw on. -/
def isEmpty (size : Size) : Bool := size.width = 0 || size.height = 0

end Size

/-- A point in desktop coordinates. -/
structure Point where
  x : Int32
  y : Int32
deriving DecidableEq

/-- A rectangle in desktop coordinates. -/
structure Rect where
  left : Int32
  top : Int32
  right : Int32
  bottom : Int32
deriving DecidableEq

/-- The distance of two coordinates; it always fits an unsigned word. -/
def edgeDistance (a b : Int32) : UInt32 := UInt32.ofNat (a.toInt - b.toInt).natAbs

/-- The sum of two coordinates, if it is a coordinate. -/
def addCoordinate? (a b : Int32) : Option Int32 :=
  let sum := a.toInt + b.toInt
  if -0x80000000 ≤ sum ∧ sum < 0x80000000 then some (Int32.ofInt sum) else none

namespace Rect

/-- The rectangle with all edges at the origin. -/
def zero : Rect := ⟨0, 0, 0, 0⟩

/-- The width and height of a rectangle. -/
def size (rect : Rect) : Size :=
  ⟨edgeDistance rect.left rect.right, edgeDistance rect.top rect.bottom⟩

/-- The rectangle of a size with its left top corner at a point.  The size is
taken as signed words; there is no such rectangle if a far edge is no
coordinate. -/
def ofOrigin? (origin : Point) (size : Size) : Option Rect := do
  let right ← addCoordinate? origin.x size.width.toInt32
  let bottom ← addCoordinate? origin.y size.height.toInt32
  pure ⟨origin.x, origin.y, right, bottom⟩

end Rect

/-- What is said when a far edge is no coordinate. -/
def coordinateOverflow : String := "attempt to add with overflow"

/-- A region of a texture; right and bottom do not belong to it. -/
structure Region where
  left : UInt32
  top : UInt32
  right : UInt32
  bottom : UInt32
deriving DecidableEq

namespace Region

/-- The region without extent. -/
def zero : Region := ⟨0, 0, 0, 0⟩

/-- The region from the origin to a size. -/
def ofSize (size : Size) : Region := ⟨0, 0, size.width, size.height⟩

end Region

/-- The rotation of a scanout relative to the desktop image. -/
inductive Rotation
  | unspecified | identity | rotate90 | rotate180 | rotate270
deriving DecidableEq

namespace Rotation

/-- Every rotation. -/
def all : List Rotation := [.unspecified, .identity, .rotate90, .rotate180, .rotate270]

/-- The name of a rotation. -/
def name : Rotation → String
  | .unspecified => "Unspecified"
  | .identity => "Identity"
  | .rotate90 => "Rotate90"
  | .rotate180 => "Rotate180"
  | .rotate270 => "Rotate270"

/-- The rotation with a name. -/
def ofName? (name : String) : Option Rotation :=
  all.find? fun rotation => rotation.name = name

/-- Clockwise degrees. -/
def degrees : Rotation → UInt32
  | .unspecified | .identity => 0
  | .rotate90 => 90
  | .rotate180 => 180
  | .rotate270 => 270

end Rotation
end DesktopCapture
