import DesktopCapture.Proofs.Ownership
import Mathlib.Data.List.Induction

/-!
# How frames are taken in

A cache takes in a frame in one of three ways: the frame fits the cached texture and is
copied into it; the cached texture is released, another one is allocated, and the frame
is copied into that; or no other one can be allocated, and the cache is left without a
texture.  What a cache remembers of a texture that is gone plays no part in this, so the
frame before and the fate of its allocation decide whether a frame needs a texture.
-/

namespace DesktopCapture

open Capture

namespace Entry

/-- The attempts to allocate a texture. -/
def isAttempt : Entry → Bool
  | .call (.createTexture ..) _ => true
  | _ => false

/-- The attempts to allocate a texture that failed. -/
def isUnallocated : Entry → Bool
  | .call (.createTexture ..) (.failed _) => true
  | _ => false

end Entry

namespace FrameCache

/-! ## One frame -/

/-- How a cache takes in a frame: its journal, and the cache after it. -/
inductive Ingested (cache : FrameCache) (source : Texture) (hdr : Bool) :
    List Entry → FrameCache → Prop
  | reused {texture : Texture} (htexture : cache.texture = some texture)
      (hfits : cache.fits source.size (.cached source.format) = true) :
      Ingested cache source hdr [.call (.copyTexture texture.id source.id) .done] cache
  | allocated {texture : Texture}
      (hfits : cache.fits source.size (.cached source.format) = false)
      (hsize : texture.size = source.size)
      (hformat : texture.format = (ColorFormat.cached source.format).native) :
      Ingested cache source hdr
        (cache.holdings.map .release ++
          [.notice [] (.allocatingTexture source.size (.cached source.format)),
            .call (.createTexture source.size (.cached source.format)) (.texture texture),
            .call (.copyTexture texture.id source.id) .done])
        ⟨some texture, source.size, .cached source.format, .ofFrame hdr source.format⟩
  | unallocated {error : PlatformError}
      (hfits : cache.fits source.size (.cached source.format) = false) :
      Ingested cache source hdr
        (cache.holdings.map .release ++
          [.notice [] (.allocatingTexture source.size (.cached source.format)),
            .call (.createTexture source.size (.cached source.format))
              (.failed (.platform error)),
            .notice [] (.textureFailed error)])
        { cache with texture := none }

theorem fits_iff (cache : FrameCache) (size : Size) (format : ColorFormat) :
    cache.fits size format = true ↔
      cache.texture ≠ none ∧ cache.size = size ∧ cache.format = format := by
  rw [fits, Bool.and_eq_true, Bool.and_eq_true, decide_eq_true_iff, decide_eq_true_iff,
    ← Option.isSome_iff_ne_none, and_assoc]

theorem release_journal (cache : FrameCache) (device : Device) :
    (cache.release device).journal = cache.holdings.map .release := by
  unfold release holdings
  cases cache.texture with
  | none => rfl
  | some texture => rfl

/-- A texture is allocated for a frame once the one before is released, or none is. -/
theorem reallocate_cases (cache : FrameCache) (source : Texture) (hdr : Bool)
    (device : Device) :
    let done := cache.reallocate source hdr device
    let format := ColorFormat.cached source.format
    let asked := cache.holdings.map .release ++
      [.notice [] (.allocatingTexture source.size format)]
    (∃ texture : Texture, texture.size = source.size ∧ texture.format = format.native ∧
      done.value = ⟨some texture, source.size, format, .ofFrame hdr source.format⟩ ∧
      done.journal = asked ++ [.call (.createTexture source.size format) (.texture texture)]) ∨
    ∃ error, done.value = { cache with texture := none } ∧
      done.journal = asked ++
        [.call (.createTexture source.size format) (.failed (.platform error)),
          .notice [] (.textureFailed error)] := by
  have hreleased := cache.release_journal device
  unfold reallocate
  simp only [bind_apply, notify, note]
  generalize cache.release device = released at hreleased ⊢
  rcases fallible_cases .createTexture
      (.createTexture source.size (.cached source.format)) .texture
      (Device.createTexture source.size (.cached source.format)) released.device with
    ⟨error, faults, hcreated⟩ | ⟨texture, created, hact, hcreated⟩
  · right
    rw [createTexture, hcreated, hreleased]
    exact ⟨error, rfl, by simp [note]⟩
  · obtain ⟨-, htexture, -⟩ := Device.createTexture_ok hact
    left
    rw [createTexture, hcreated, hreleased]
    exact ⟨texture, by rw [htexture], by rw [htexture], rfl, by simp⟩

/-- Every frame is taken in in one of these ways. -/
theorem ingest_ingested (cache : FrameCache) (source : Texture) (hdr : Bool)
    (device : Device) :
    cache.Ingested source hdr (cache.ingest source hdr device).journal
      (cache.ingest source hdr device).value := by
  unfold ingest
  cases hfits : cache.fits source.size (.cached source.format) with
  | true =>
      obtain ⟨htexture, -, -⟩ := (cache.fits_iff _ _).mp hfits
      obtain ⟨texture, htexture⟩ := Option.ne_none_iff_exists'.mp htexture
      simp only [if_true, bind_apply, pure_apply, fill, htexture]
      exact .reused htexture hfits
  | false =>
      simp only [Bool.false_eq_true, if_false, bind_apply]
      rcases cache.reallocate_cases source hdr device with
        ⟨texture, hsize, hformat, hvalue, hjournal⟩ | ⟨error, hvalue, hjournal⟩
      · rw [hvalue, hjournal]
        have hallocated := @Ingested.allocated cache source hdr texture hfits hsize hformat
        simpa [fill, copyTexture, always] using hallocated
      · rw [hvalue, hjournal]
        have hfailed := @Ingested.unallocated cache source hdr error hfits
        simpa [fill] using hfailed

namespace Ingested

variable {cache cache' : FrameCache} {source : Texture} {hdr : Bool} {journal : List Entry}

/-- A texture is asked for exactly if the frame does not fit. -/
theorem attempts_iff (hingested : cache.Ingested source hdr journal cache') :
    journal.any Entry.isAttempt = true ↔
      cache.fits source.size (.cached source.format) = false := by
  have hreleases : (cache.holdings.map Entry.release).any Entry.isAttempt = false := by
    simp [Entry.isAttempt]
  cases hingested with
  | reused htexture hfits => simp [hfits, Entry.isAttempt]
  | allocated hfits hsize hformat =>
      simp only [List.any_append, hreleases, hfits, iff_true]
      rfl
  | unallocated hfits =>
      simp only [List.any_append, hreleases, hfits, iff_true]
      rfl

/-- A cache is left without a texture exactly if none could be allocated. -/
theorem texture_eq_none_iff (hingested : cache.Ingested source hdr journal cache') :
    cache'.texture = none ↔ journal.any Entry.isUnallocated = true := by
  have hreleases : (cache.holdings.map Entry.release).any Entry.isUnallocated = false := by
    simp [Entry.isUnallocated]
  cases hingested with
  | reused htexture hfits => simp [htexture, Entry.isUnallocated]
  | allocated hfits hsize hformat =>
      simp only [List.any_append, hreleases, reduceCtorEq, false_iff]
      simp [Entry.isUnallocated]
  | unallocated hfits =>
      simp only [List.any_append, hreleases, true_iff]
      rfl

/-- A cache with a texture remembers the size and the format of the frame. -/
theorem remembers (hingested : cache.Ingested source hdr journal cache')
    (htexture : cache'.texture ≠ none) :
    cache'.size = source.size ∧ cache'.format = .cached source.format := by
  cases hingested with
  | reused _ hfits => exact ((cache.fits_iff _ _).mp hfits).2
  | allocated => exact ⟨rfl, rfl⟩
  | unallocated => exact absurd rfl htexture

end Ingested

/-! ## One frame after the other -/

/-- A frame to be taken in, and what the world does to the device before. -/
structure Intake where
  source : Texture
  hdr : Bool
  world : Device → Device

/-- Take in a frame once the world has done its part. -/
def takeIn (cache : FrameCache) (intake : Intake) : Capture FrameCache := fun device =>
  cache.ingest intake.source intake.hdr (intake.world device)

/-- Take in frames one after the other. -/
def takeInAll (cache : FrameCache) : List Intake → Capture FrameCache
  | [] => pure cache
  | intake :: rest => do
    let cache ← cache.takeIn intake
    cache.takeInAll rest

/-- What the last of several frames does, all taken in from the first one on. -/
def lastIntake (before : List Intake) (intake : Intake) (device : Device) :
    Traced FrameCache :=
  let past := empty.takeInAll before device
  past.value.takeIn intake past.device

theorem takeInAll_concat (cache : FrameCache) (before : List Intake) (intake : Intake)
    (device : Device) :
    let past := cache.takeInAll before device
    let last := past.value.takeIn intake past.device
    cache.takeInAll (before ++ [intake]) device =
      ⟨last.value, last.device, past.journal ++ last.journal⟩ := by
  induction before generalizing cache device with
  | nil => simp [takeInAll]
  | cons first rest ih => simp [takeInAll, ih]

theorem takeIn_ingested (cache : FrameCache) (intake : Intake) (device : Device) :
    let done := cache.takeIn intake device
    cache.Ingested intake.source intake.hdr done.journal done.value :=
  cache.ingest_ingested intake.source intake.hdr (intake.world device)

/-! ## Never two textures -/

/-- A journal leads from what is held to what is held after it, and at no time between is
more than one thing held. -/
structure KeepsOne (held : List Release) (journal : List Entry) (held' : List Release) :
    Prop where
  balance : held ++ created journal = released journal ++ held'
  meanwhile : ∀ part, part <+: journal → ∃ owned : List Release, owned.length ≤ 1 ∧
    held ++ created part = released part ++ owned

namespace KeepsOne

variable {held held' held'' : List Release}

theorem nil (hheld : held.length ≤ 1) : KeepsOne held [] held where
  balance := List.append_nil held
  meanwhile := by
    intro part hpart
    rw [List.prefix_nil.mp hpart]
    exact ⟨held, hheld, List.append_nil held⟩

theorem append {first second : List Entry} (hfirst : KeepsOne held first held')
    (hsecond : KeepsOne held' second held'') : KeepsOne held (first ++ second) held'' := by
  have hjoined : ∀ (part : List Entry) (owned : List Release),
      held' ++ created part = released part ++ owned →
        held ++ created (first ++ part) = released (first ++ part) ++ owned := by
    intro part owned hpart
    rw [created_append, released_append, ← List.append_assoc, List.append_assoc (released first)]
    calc held ++ created first ++ created part
        = released first ++ held' ++ created part := by rw [hfirst.balance]
      _ = released first ++ (released part ++ owned) := by rw [List.append_assoc, hpart]
  refine ⟨hjoined second held'' hsecond.balance, ?_⟩
  -- A part of both journals ends within the first one, or reaches into the second one.
  rintro part ⟨rest, hrest⟩
  rcases List.append_eq_append_iff.mp hrest with ⟨between, hbetween, -⟩ | ⟨tail, htail, hsplit⟩
  · exact hfirst.meanwhile part ⟨between, hbetween.symm⟩
  · obtain ⟨owned, hone, howned⟩ := hsecond.meanwhile tail ⟨rest, hsplit.symm⟩
    rw [htail]
    exact ⟨owned, hone, hjoined tail owned howned⟩

theorem of_entry {entry : Entry} (hheld : held.length ≤ 1) (hheld' : held'.length ≤ 1)
    (hentry : held ++ created [entry] = released [entry] ++ held') :
    KeepsOne held [entry] held' where
  balance := hentry
  meanwhile := by
    intro part hpart
    rcases List.prefix_cons_iff.mp hpart with rfl | ⟨rest, rfl, hrest⟩
    · exact ⟨held, hheld, List.append_nil held⟩
    · rw [List.prefix_nil.mp hrest]
      exact ⟨held', hheld', hentry⟩

theorem cons {entry : Entry} {rest : List Entry} (hentry : KeepsOne held [entry] held')
    (hrest : KeepsOne held' rest held'') : KeepsOne held (entry :: rest) held'' :=
  hentry.append hrest

theorem quiet {entry : Entry} (hheld : held.length ≤ 1) (hcreated : entry.created? = none)
    (hreleased : entry.released? = none) : KeepsOne held [entry] held := by
  refine .of_entry hheld hheld ?_
  simp [created, released, hcreated, hreleased]

end KeepsOne

theorem length_holdings_le (cache : FrameCache) : cache.holdings.length ≤ 1 := by
  unfold holdings
  cases cache.texture with
  | none => exact Nat.zero_le 1
  | some texture => exact Nat.le_refl 1

/-- The cached texture is released before another one is allocated. -/
theorem Ingested.keepsOne {cache cache' : FrameCache} {source : Texture} {hdr : Bool}
    {journal : List Entry} (hingested : cache.Ingested source hdr journal cache') :
    KeepsOne cache.holdings journal cache'.holdings := by
  have hreleased : KeepsOne cache.holdings (cache.holdings.map .release) [] := by
    unfold holdings
    cases cache.texture with
    | none => exact .nil (Nat.zero_le 1)
    | some texture => exact .of_entry (Nat.le_refl 1) (Nat.zero_le 1) rfl
  cases hingested with
  | reused => exact .quiet cache.length_holdings_le rfl rfl
  | @allocated texture =>
      have hcreated : KeepsOne []
          [.call (.createTexture source.size (.cached source.format)) (.texture texture)]
          [.texture texture.id] :=
        .of_entry (Nat.zero_le 1) (Nat.le_refl 1) rfl
      exact hreleased.append (.cons (.quiet (Nat.zero_le 1) rfl rfl)
        (.cons hcreated (.quiet (Nat.le_refl 1) rfl rfl)))
  | unallocated =>
      exact hreleased.append (.cons (.quiet (Nat.zero_le 1) rfl rfl)
        (.cons (.quiet (Nat.zero_le 1) rfl rfl) (.quiet (Nat.zero_le 1) rfl rfl)))

theorem takeInAll_keepsOne (before : List Intake) (device : Device) :
    let past := empty.takeInAll before device
    KeepsOne [] past.journal past.value.holdings := by
  induction before using List.reverseRecOn with
  | nil => exact .nil (Nat.zero_le 1)
  | append_singleton earlier last ih =>
      rw [takeInAll_concat]
      exact ih.append (takeIn_ingested _ last _).keepsOne

/-! ## When a texture is asked for -/

/-- After a frame another one fits unless the frame could not be cached or the other one
is of another size or general format. -/
theorem Ingested.fits_eq_false_iff {cache cache' : FrameCache} {source : Texture} {hdr : Bool}
    {journal : List Entry} (hingested : cache.Ingested source hdr journal cache')
    (other : Texture) :
    cache'.fits other.size (.cached other.format) = false ↔
      journal.any Entry.isUnallocated = true ∨ source.size ≠ other.size ∨
        ColorFormat.cached source.format ≠ .cached other.format := by
  rw [← Bool.not_eq_true, fits_iff, ← hingested.texture_eq_none_iff]
  by_cases htexture : cache'.texture = none
  · simp [htexture]
  · obtain ⟨hsize, hformat⟩ := hingested.remembers htexture
    rw [hsize, hformat]
    simp only [htexture, false_or, ne_eq, not_false_eq_true, true_and]
    exact Classical.not_and_iff_not_or_not

/-- However frames are taken in one after the other, the last one asks for a texture
exactly if it is the first, or the one before it could not be cached, or the one before it
was of another size or general format.  It is taken in in one of the three ways, it leaves
the cache without a texture exactly if its allocation failed, and at no time is more than
one texture owned. -/
theorem allocations_follow_changes (before : List Intake) (intake : Intake)
    (device : Device) :
    let past := empty.takeInAll before device
    let last := lastIntake before intake device
    (last.journal.any Entry.isAttempt = true ↔ before = [] ∨
      ∃ earlier previous, before = earlier ++ [previous] ∧
        ((lastIntake earlier previous device).journal.any Entry.isUnallocated = true ∨
          previous.source.size ≠ intake.source.size ∨
          ColorFormat.cached previous.source.format ≠ .cached intake.source.format)) ∧
    past.value.Ingested intake.source intake.hdr last.journal last.value ∧
    (last.value.texture = none ↔ last.journal.any Entry.isUnallocated = true) ∧
    ∀ part, part <+: past.journal ++ last.journal → ∃ owned : List Release,
      owned.length ≤ 1 ∧ created part = released part ++ owned := by
  intro past last
  have hlast : past.value.Ingested intake.source intake.hdr last.journal last.value :=
    takeIn_ingested past.value intake past.device
  have hone := (takeInAll_keepsOne before device).append hlast.keepsOne
  refine ⟨?_, hlast, hlast.texture_eq_none_iff, hone.meanwhile⟩
  -- The cache that the last frame meets is the one that the frame before it left.
  rw [hlast.attempts_iff]
  rcases List.eq_nil_or_concat' before with rfl | ⟨earlier, previous, rfl⟩
  · exact iff_of_true rfl (.inl rfl)
  · have hprevious := takeIn_ingested (empty.takeInAll earlier device).value previous
      (empty.takeInAll earlier device).device
    have hvalue : past.value = (lastIntake earlier previous device).value := by
      simp only [past, takeInAll_concat]
      rfl
    rw [hvalue]
    refine (hprevious.fits_eq_false_iff intake.source).trans ⟨?_, ?_⟩
    · intro hchanged
      exact .inr ⟨earlier, previous, rfl, hchanged⟩
    · rintro (hnil | ⟨earlier', previous', hsame, hchanged⟩)
      · exact absurd (List.append_eq_nil_iff.mp hnil).2 (List.cons_ne_nil previous [])
      · obtain ⟨rfl, hlast⟩ := List.append_inj' hsame rfl
        cases hlast
        exact hchanged

/-- A frame that the texture before would have fitted asks for a texture again once
another frame could not be cached. -/
example :
    let failing : Bool → Device → Device := fun on device => device.setFailing .createTexture on
    let small : Intake := ⟨⟨2, ⟨640, 480⟩, .bgra8⟩, false, failing false⟩
    let large : Intake := ⟨⟨3, ⟨800, 600⟩, .bgra8⟩, false, failing true⟩
    ((lastIntake [small, large] small (.ofOutputs [])).journal.any Entry.isAttempt,
      (lastIntake [small] small (.ofOutputs [])).journal.any Entry.isAttempt) =
        (true, false) := by
  decide +kernel

end FrameCache
end DesktopCapture
