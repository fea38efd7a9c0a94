import DesktopCapture.Number.Signed
import DesktopCapture.Proofs.Starting

/-!
# Extents are exact

Coordinates are signed words and extents unsigned ones.  The distance of two coordinates
always fits an unsigned word, so the size of a rectangle is exact whichever way round its
edges are, and so is half of it.  The other way it is not: a size becomes a rectangle by
being read as signed words, so that an extent above half the span of a word goes backwards,
and a far edge can be no coordinate.
-/

namespace DesktopCapture

open Capture

/-! ## Distances and sums of coordinates -/

/-- A number that is a coordinate. -/
def IsCoordinate (n : Int) : Prop := -0x80000000 ≤ n ∧ n < 0x80000000

/-- The distance of two coordinates fits an unsigned word. -/
theorem toNat_edgeDistance (a b : Int32) :
    (edgeDistance a b).toNat = (a.toInt - b.toInt).natAbs := by
  have ha := And.intro a.le_toInt a.toInt_lt
  have hb := And.intro b.le_toInt b.toInt_lt
  have hfits : (a.toInt - b.toInt).natAbs < 0x100000000 := by omega
  rw [edgeDistance, UInt32.toNat_ofNat']
  exact Nat.mod_eq_of_lt hfits

/-- Two coordinates are added exactly or not at all. -/
theorem addCoordinate?_eq_some_iff (a b sum : Int32) :
    addCoordinate? a b = some sum ↔ sum.toInt = a.toInt + b.toInt := by
  unfold addCoordinate?
  dsimp only
  constructor
  · intro hsum
    split at hsum
    · next hrange =>
      cases hsum
      rw [Int32.toInt_ofInt_of_le] <;> omega
    · cases hsum
  · intro hsum
    have hrange := And.intro sum.le_toInt sum.toInt_lt
    rw [if_pos (by omega), ← hsum, Int32.ofInt_toInt]

theorem addCoordinate?_eq_none_iff (a b : Int32) :
    addCoordinate? a b = none ↔ ¬ IsCoordinate (a.toInt + b.toInt) := by
  unfold addCoordinate? IsCoordinate
  dsimp only
  split
  · next hrange => simp [hrange]
  · next hrange => simp [hrange]

namespace Rect

/-- A rectangle is as wide and as high as its edges are apart. -/
theorem size_exact (rect : Rect) :
    rect.size.width.toNat = (rect.left.toInt - rect.right.toInt).natAbs ∧
      rect.size.height.toNat = (rect.top.toInt - rect.bottom.toInt).natAbs :=
  ⟨toNat_edgeDistance rect.left rect.right, toNat_edgeDistance rect.top rect.bottom⟩

theorem ofOrigin?_eq_none_iff (origin : Point) (size : Size) :
    ofOrigin? origin size = none ↔
      addCoordinate? origin.x size.width.toInt32 = none ∨
        addCoordinate? origin.y size.height.toInt32 = none := by
  unfold ofOrigin?
  cases addCoordinate? origin.x size.width.toInt32 <;>
    cases addCoordinate? origin.y size.height.toInt32 <;> simp

theorem ofOrigin?_eq_some_iff (origin : Point) (size : Size) (rect : Rect) :
    ofOrigin? origin size = some rect ↔
      rect.left = origin.x ∧ rect.top = origin.y ∧
        addCoordinate? origin.x size.width.toInt32 = some rect.right ∧
        addCoordinate? origin.y size.height.toInt32 = some rect.bottom := by
  obtain ⟨left, top, right, bottom⟩ := rect
  unfold ofOrigin?
  cases addCoordinate? origin.x size.width.toInt32 <;>
    cases addCoordinate? origin.y size.height.toInt32 <;> simp [eq_comm]

end Rect

/-! ## Halves -/

/-- Half of a size is half of each dimension, rounded down. -/
theorem Size.half_exact (size : Size) :
    size.half.width.toNat = size.width.toNat / 2 ∧
      size.half.height.toNat = size.height.toNat / 2 :=
  ⟨UInt32.toNat_div size.width 2, UInt32.toNat_div size.height 2⟩

namespace Preview

/-- A preview is made with half the monitor's size. -/
theorem create_assembles (outer : List Span) (monitor : MonitorInfo) (title : String)
    (device : Device) :
    let made := create outer monitor title device
    ∃ assembled rest, made.journal = assembled ++ rest ∧
      Assembles title monitor.size.half assembled made.value := by
  have hassembles := assemble_assembles title monitor.size.half device
  simp only [create, bind_apply]
  revert hassembles
  cases (assemble monitor.size.half title device).value with
  | error error =>
      intro hassembles
      exact ⟨_, _, rfl, hassembles⟩
  | ok preview =>
      intro hassembles
      exact ⟨_, _, rfl, hassembles⟩

variable {title : String} {size : Size} {journal : List Entry}

/-- The window is asked for first. -/
theorem Assembles.asks {made : Except PlatformError Preview}
    (hmade : Assembles title size journal made) :
    ∃ answer rest, journal = .call (.createWindow title size) answer :: rest := by
  cases hmade <;> exact ⟨_, _, rfl⟩

/-- Window and swap chain are made of the size that is asked for. -/
theorem Assembles.sized {preview : Preview}
    (hmade : Assembles title size journal (.ok preview)) :
    preview.window.clientSize = size ∧ preview.swapChain.size = size := by
  cases hmade
  exact ⟨rfl, rfl⟩

end Preview

/-! ## From sizes to monitors and back -/

/-- The monitor of a rectangle that is given by a corner and a size is at the corner, and
each extent is the dimension it was given by, up to half the span of a word, and what that
lacks to the span above. -/
theorem Rect.extents_of_origin {origin : Point} {size : Size} {rect : Rect}
    (hrect : ofOrigin? origin size = some rect) :
    rect.size.width.toNat =
        (if size.width.toNat ≤ 0x80000000 then size.width.toNat
          else 0x100000000 - size.width.toNat) ∧
      rect.size.height.toNat =
        (if size.height.toNat ≤ 0x80000000 then size.height.toNat
          else 0x100000000 - size.height.toNat) := by
  obtain ⟨hleft, htop, hright, hbottom⟩ := (ofOrigin?_eq_some_iff origin size rect).mp hrect
  have hdistance (a b : Int) : (a - (a + b)).natAbs = b.natAbs := by omega
  rw [addCoordinate?_eq_some_iff, toInt_toInt32] at hright hbottom
  rw [rect.size_exact.1, rect.size_exact.2, hleft, htop, hright, hbottom, hdistance, hdistance,
    natAbs_signedWord size.width.toNat_lt, natAbs_signedWord size.height.toNat_lt]
  exact ⟨rfl, rfl⟩

/-- An output given by a corner and a size exists unless a far edge, which is a dimension
read as a signed word away from the corner, is no coordinate.  Its monitor is at the corner,
and has the dimensions up to half the span of a word, and above that what they lack to the
span.  The size of every rectangle is the exact distance of its edges, and every preview of a
monitor is asked for with exactly half the monitor's size. -/
theorem extents_are_exact :
    (∀ (monitor : MonitorHandle) (origin : Point) (size : Size),
      (OutputConfig.sized? monitor origin size = none ↔
        ¬ IsCoordinate (origin.x.toInt + signedWord size.width.toNat) ∨
          ¬ IsCoordinate (origin.y.toInt + signedWord size.height.toNat)) ∧
      ∀ config, OutputConfig.sized? monitor origin size = some config →
        let info := MonitorInfo.ofDescription config.description
        info.x = origin.x ∧ info.y = origin.y ∧
        info.width.toNat =
          (if size.width.toNat ≤ 0x80000000 then size.width.toNat
            else 0x100000000 - size.width.toNat) ∧
        info.height.toNat =
          (if size.height.toNat ≤ 0x80000000 then size.height.toNat
            else 0x100000000 - size.height.toNat)) ∧
    (∀ rect : Rect,
      rect.size.width.toNat = (rect.left.toInt - rect.right.toInt).natAbs ∧
        rect.size.height.toNat = (rect.top.toInt - rect.bottom.toInt).natAbs) ∧
    ∀ (outer : List Span) (description : OutputDescription) (title : String)
      (device : Device),
      let bounds := description.bounds
      let made := Preview.create outer (.ofDescription description) title device
      ∃ half : Size,
        half.width.toNat = (bounds.left.toInt - bounds.right.toInt).natAbs / 2 ∧
        half.height.toNat = (bounds.top.toInt - bounds.bottom.toInt).natAbs / 2 ∧
        (∃ answer rest, made.journal = .call (.createWindow title half) answer :: rest) ∧
        ∀ preview, made.value = .ok preview →
          preview.window.clientSize = half ∧ preview.swapChain.size = half := by
  refine ⟨?_, Rect.size_exact, ?_⟩
  · intro monitor origin size
    constructor
    · rw [OutputConfig.sized?, Option.map_eq_none_iff, Rect.ofOrigin?_eq_none_iff,
        addCoordinate?_eq_none_iff, addCoordinate?_eq_none_iff, toInt_toInt32, toInt_toInt32]
    · intro config hconfig info
      obtain ⟨rect, hrect, rfl⟩ := Option.map_eq_some_iff.mp hconfig
      obtain ⟨hleft, htop, -⟩ := (Rect.ofOrigin?_eq_some_iff origin size rect).mp hrect
      exact ⟨hleft, htop, Rect.extents_of_origin hrect⟩
  · intro outer description title device bounds made
    obtain ⟨assembled, rest, hjournal, hassembles⟩ :=
      Preview.create_assembles outer (.ofDescription description) title device
    obtain ⟨hwidth, hheight⟩ := (MonitorInfo.ofDescription description).size.half_exact
    obtain ⟨hacross, hdown⟩ := bounds.size_exact
    refine ⟨(MonitorInfo.ofDescription description).size.half, ?_, ?_, ?_, ?_⟩
    · rw [hwidth, ← hacross]
      rfl
    · rw [hheight, ← hdown]
      rfl
    · obtain ⟨answer, asked, hasked⟩ := hassembles.asks
      exact ⟨answer, asked ++ rest, by rw [hjournal, hasked, List.cons_append]⟩
    · intro preview hpreview
      exact Preview.Assembles.sized (hpreview ▸ hassembles)

/-- A far edge that is no coordinate by one, an extent of half the span, and one of the whole
span but one. -/
example :
    let monitor (origin : Point) (size : Size) : Option MonitorInfo :=
      (OutputConfig.sized? 0 origin size).map fun config => .ofDescription config.description
    (monitor ⟨-1, 0⟩ ⟨2147483648, 0⟩, monitor ⟨0, 0⟩ ⟨2147483648, 4294967295⟩) =
      (none, some ⟨0, 0, 2147483648, 1, 0⟩) := by
  decide +kernel

end DesktopCapture
