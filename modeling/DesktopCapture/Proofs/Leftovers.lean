import DesktopCapture.Proofs.Ingestion

/-!
# What is left of a texture

The size, the format and the colour space that a cache remembers are written when a texture
is allocated, and at no other time.  A cache whose texture was released for another one that
could not be allocated is left with those of the texture that is gone: it is not the cache
that it was before the first frame, but describes the frame that a texture was last allocated
for.
-/

namespace DesktopCapture

open Capture

namespace FrameCache

/-- What is remembered of a frame that a texture was allocated for. -/
def Intake.describe (intake : Intake) : FrameCache :=
  ⟨none, intake.source.size, .cached intake.source.format,
    .ofFrame intake.hdr intake.source.format⟩

/-- The last frame that a texture is allocated for when frames are taken in one after the
other. -/
def lastAllocated? (cache : FrameCache) : List Intake → Device → Option Intake
  | [], _ => none
  | intake :: rest, device =>
    let done := cache.takeIn intake device
    (done.value.lastAllocated? rest done.device).or
      (if created done.journal = [] then none else some intake)

/-- No frame is the last that a texture was allocated for exactly if no texture was. -/
theorem lastAllocated?_eq_none_iff (cache : FrameCache) (intakes : List Intake)
    (device : Device) :
    cache.lastAllocated? intakes device = none ↔
      created (cache.takeInAll intakes device).journal = [] := by
  induction intakes generalizing cache device with
  | nil => exact iff_of_true rfl rfl
  | cons intake rest ih =>
      simp only [lastAllocated?, takeInAll, bind_apply, Option.or_eq_none_iff, ih]
      rw [created_append, List.append_eq_nil_iff, and_comm]
      simp

/-! ## What frames leave -/

/-- A frame leaves the memory of a cache alone unless a texture is allocated for it. -/
theorem takeIn_remembers (cache : FrameCache) (intake : Intake) (device : Device) :
    let done := cache.takeIn intake device
    done.value =
      { (if created done.journal = [] then cache else intake.describe) with
        texture := done.value.texture } := by
  intro done
  have hingested : cache.Ingested intake.source intake.hdr done.journal done.value :=
    cache.takeIn_ingested intake device
  generalize done.journal = journal, done.value = cache' at hingested ⊢
  cases hingested with
  | reused => rfl
  | allocated =>
      rw [if_neg (by simp [created, Entry.created?])]
      rfl
  | unallocated => rw [if_pos (by simp [created, Entry.created?])]

/-- Whatever becomes of the texture, the rest of a cache is the memory of the last frame that
a texture was allocated for. -/
theorem takeInAll_remembers (cache : FrameCache) (intakes : List Intake) (device : Device) :
    let done := cache.takeInAll intakes device
    done.value =
      { (cache.lastAllocated? intakes device).elim cache Intake.describe with
        texture := done.value.texture } := by
  induction intakes generalizing cache device with
  | nil => rfl
  | cons first rest ih =>
      have hfirst := cache.takeIn_remembers first device
      simp only [lastAllocated?, takeInAll, bind_apply]
      generalize cache.takeIn first device = past at hfirst ⊢
      have hrest := ih past.value past.device
      -- What the first frame left is still remembered if the rest was given no texture.
      cases hlast : past.value.lastAllocated? rest past.device with
      | some intake =>
          rw [hlast] at hrest
          exact hrest
      | none =>
          rw [hlast] at hrest
          refine hrest.trans ?_
          rw [Option.none_or, Option.elim_none, hfirst]
          by_cases hcreated : created past.journal = []
          · rw [if_pos hcreated, if_pos hcreated]
            rfl
          · rw [if_neg hcreated, if_neg hcreated]
            rfl

/-- However frames are taken in one after the other, a cache is as it was before the first
one as long as no texture was allocated, and from then on it remembers the frame that a
texture was last allocated for, with the texture or without it.  So a cache without a texture
is empty exactly if none was allocated, or the last one was for a frame of no size, of an
unknown format and in sRGB. -/
theorem memory_outlives_texture (before : List Intake) (device : Device) :
    let past := empty.takeInAll before device
    let last := empty.lastAllocated? before device
    (last = none ↔ created past.journal = []) ∧
    (last = none → past.value = empty) ∧
    (∀ intake, last = some intake →
      past.value = { intake.describe with texture := past.value.texture }) ∧
    (past.value = empty ↔ past.value.texture = none ∧
      ∀ intake, last = some intake → intake.describe = empty) := by
  intro past last
  have hcreated : last = none ↔ created past.journal = [] :=
    empty.lastAllocated?_eq_none_iff before device
  have hvalue : past.value =
      { last.elim empty Intake.describe with texture := past.value.texture } :=
    empty.takeInAll_remembers before device
  -- As long as no texture was created, none is held.
  have hempty : last = none → past.value = empty := by
    intro hlast
    have hbalance := (takeInAll_keepsOne before device).balance
    rw [hcreated.mp hlast] at hbalance
    obtain ⟨-, hholdings⟩ := List.append_eq_nil_iff.mp hbalance.symm
    have htexture : past.value.texture = none := by
      simpa [holdings] using hholdings
    rw [hvalue, hlast, htexture]
    rfl
  have hdescribed : ∀ intake, last = some intake →
      past.value = { intake.describe with texture := past.value.texture } := by
    intro intake hlast
    rw [hlast] at hvalue
    exact hvalue
  refine ⟨hcreated, hempty, hdescribed, ?_, ?_⟩
  · intro hnothing
    have htexture : past.value.texture = none := congrArg FrameCache.texture hnothing
    refine ⟨htexture, ?_⟩
    intro intake hlast
    calc intake.describe = { intake.describe with texture := none } := rfl
      _ = past.value := by rw [hdescribed intake hlast, htexture]
      _ = empty := hnothing
  · rintro ⟨htexture, hnothing⟩
    cases hlast : last with
    | none => exact hempty hlast
    | some intake =>
        rw [hdescribed intake hlast, hnothing intake hlast, htexture]
        rfl

/-- A cache whose texture could not be replaced is not empty: it still tells the size, the
format and the colour space of the texture that was released. -/
theorem failed_allocation_keeps_memory :
    let named : Nat → Device → Device := fun id device => { device with lastId := id }
    let small : Intake := ⟨⟨2, ⟨640, 480⟩, .bgra8⟩, true, named 2⟩
    let large : Intake := ⟨⟨4, ⟨800, 600⟩, .bgra8⟩, true, fun device =>
      named 4 (device.setFailing .createTexture true)⟩
    let past := empty.takeInAll [small, large] (.ofOutputs [])
    past.value.texture = none ∧ past.value.size = ⟨640, 480⟩ ∧ past.value.format = .bgra ∧
      past.value.colorSpace = .rec709ScRgb ∧ past.value ≠ empty := by
  decide +kernel

end FrameCache
end DesktopCapture
