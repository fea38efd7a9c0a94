import DesktopCapture.Proofs.Composed

/-!
# How a preview presents

A present has eight ways to end.  Without a texture, with a hidden window, or with a client
area of no width or no height there is nothing to do, and nothing is done.  Otherwise the
swap chain is given the client area's size, which can fail, and is drawn on over a saved
target, where the bind can fail or the present; the saved target is bound again in either
case.  Whether a call fails can be told from the device beforehand, so each way to end is
given by what leads to it.
-/

namespace DesktopCapture

open Capture

/-! ## Calls that fail -/

/-- How the device would answer a call that fails now, and the faults that are queued after
it: a queued fault comes first, and then the script. -/
def Device.refusal? (device : Device) (point : FaultPoint) (failing : FailingCall)
    (label : String) : Option (PlatformError × Faults) :=
  match device.faults.take? point with
  | some taken => some taken
  | none => if device.fails failing then some (scriptedFailure label, device.faults) else none

namespace Device

/-- How a resize would fail. -/
def resizeRefusal? (device : Device) : Option (PlatformError × Faults) :=
  device.refusal? .resize .resize "MockSwapChain::ResizeBuffers"

/-- How a bind would fail. -/
def bindRefusal? (device : Device) : Option (PlatformError × Faults) :=
  device.refusal? .bind .bind "MockContext::OMSetRenderTargets"

/-- How a present would fail. -/
def presentRefusal? (device : Device) : Option (PlatformError × Faults) :=
  device.refusal? .present .present "MockSwapChain::Present"

end Device

namespace Capture

variable {α : Type} {point : FaultPoint} {call : Call} {answer : α → Answer}
  {act : Device → Except PlatformError (α × Device)} {device : Device}
  {failing : FailingCall} {label : String} {done : α × Device}

theorem fallible_refused {error : PlatformError} {faults : Faults}
    (hact : act device =
      if device.fails failing then .error (scriptedFailure label) else .ok done)
    (hrefused : device.refusal? point failing label = some (error, faults)) :
    fallible point call answer act device =
      ⟨.error error, { device with faults }, [.call call (.failed (.platform error))]⟩ := by
  unfold Device.refusal? at hrefused
  cases htake : device.faults.take? point with
  | some taken =>
      rw [htake] at hrefused
      cases hrefused
      simp only [fallible, htake]
  | none =>
      cases hfails : device.fails failing with
      | true =>
          simp only [htake, hfails, if_true] at hrefused
          cases hrefused
          simp only [fallible, htake, hact, hfails, if_true]
      | false => simp [htake, hfails] at hrefused

theorem fallible_granted
    (hact : act device =
      if device.fails failing then .error (scriptedFailure label) else .ok done)
    (hgranted : device.refusal? point failing label = none) :
    fallible point call answer act device =
      ⟨.ok done.1, done.2, [.call call (answer done.1)]⟩ := by
  unfold Device.refusal? at hgranted
  cases htake : device.faults.take? point with
  | some taken => simp [htake] at hgranted
  | none =>
      cases hfails : device.fails failing with
      | true => simp [htake, hfails] at hgranted
      | false => simp [fallible, htake, hact, hfails]

end Capture

namespace Preview

/-! ## The stages -/

/-- The swap chain has the size of the client area, or is given it. -/
inductive Fits (preview : Preview) (device : Device) : List Entry → Preview → Prop
  | same (hsize : preview.swapChain.size = preview.window.clientSize) :
      Fits preview device [] preview
  | resized (hsize : preview.swapChain.size ≠ preview.window.clientSize)
      (hgranted : device.resizeRefusal? = none) :
      Fits preview device
        [.call (.resize preview.swapChain.id preview.window.clientSize) .done]
        { preview with swapChain := { preview.swapChain with
            size := preview.window.clientSize
            resizes := preview.swapChain.resizes ++ [preview.window.clientSize] } }

/-- The calls of a draw over a saved target with the answer to its present, once the swap
chain could be bound. -/
def boundCalls (preview : Preview) (source : Texture) (target : Nat) (answer : Answer) :
    List Entry :=
  [.call .saveTarget (.number target), .call (.bind preview.swapChain.id) .done,
    .call (.clear preview.swapChain.id [.zero, .zero, .zero, .zero]) .done,
    .call (.copyToSwapChain preview.swapChain.id source.id
      ⟨0, 0, source.size.width, source.size.height⟩) .done,
    .call (.present preview.swapChain.id
      (if preview.swapChain.frameLatencyWaitable then 1 else 0)) answer,
    .call (.restoreTarget target) .done]

/-- How a draw over a saved target ends. -/
inductive Draws (preview : Preview) (source : Texture) (device : Device) :
    Traced (Except PlatformError Unit) → Prop
  | unbound {error : PlatformError} {faults : Faults}
      (hrefused : device.bindRefusal? = some (error, faults)) :
      Draws preview source device
        ⟨.error error, { device with faults, restores := device.restores + 1 },
          [.call .saveTarget (.number device.boundTarget),
            .call (.bind preview.swapChain.id) (.failed (.platform error)),
            .call (.restoreTarget device.boundTarget) .done]⟩
  | unshown {error : PlatformError} {faults : Faults} (hbound : device.bindRefusal? = none)
      (hrefused : device.presentRefusal? = some (error, faults)) :
      Draws preview source device
        ⟨.error error,
          { (preview.drawnOn source device).restoreTarget device.boundTarget with faults },
          preview.boundCalls source device.boundTarget (.failed (.platform error))⟩
  | shown (hbound : device.bindRefusal? = none) (hgranted : device.presentRefusal? = none) :
      Draws preview source device
        ⟨.ok (),
          { (preview.drawnOn source device).restoreTarget device.boundTarget with
            presents := device.presents ++
              [⟨preview.swapChain.id, preview.syncInterval, preview.swapChain.id⟩] },
          preview.boundCalls source device.boundTarget .done⟩

/-- The surface fits after its stage, or the resize it needs fails. -/
theorem fitSurface_cases (preview : Preview) (device : Device) :
    (∃ fit fitted, preview.Fits device fit fitted ∧
      preview.fitSurface device = ⟨.ok fitted, device, fit⟩) ∨
    ∃ error faults, preview.swapChain.size ≠ preview.window.clientSize ∧
      device.resizeRefusal? = some (error, faults) ∧
      preview.fitSurface device = ⟨.error error, { device with faults },
        [.call (.resize preview.swapChain.id preview.window.clientSize)
          (.failed (.platform error))]⟩ := by
  unfold fitSurface
  split
  · next hsize => exact .inl ⟨[], preview, .same hsize, rfl⟩
  · next hsize =>
    rw [bind_apply]
    cases hrefusal : device.resizeRefusal? with
    | none =>
        rw [resize, fallible_granted rfl hrefusal]
        exact .inl ⟨_, _, .resized hsize hrefusal, rfl⟩
    | some refused =>
        rw [resize, fallible_refused rfl hrefusal]
        exact .inr ⟨refused.1, refused.2, hsize, rfl, rfl⟩

/-- Every draw ends in one of these ways. -/
theorem draw_draws (preview : Preview) (source : Texture) (device : Device) :
    preview.Draws source device (preview.draw source device) := by
  rw [draw_apply]
  cases hbinds : device.bindRefusal? with
  | some refused =>
      have hbind : Capture.bindSwapChain preview.swapChain device = _ :=
        fallible_refused rfl hbinds
      rw [drawBound_unbound hbind]
      exact .unbound hbinds
  | none =>
      have hbind : Capture.bindSwapChain preview.swapChain device = _ :=
        fallible_granted rfl hbinds
      rw [drawBound_bound hbind]
      cases hpresents : device.presentRefusal? with
      | some refused =>
          have hpresent : Capture.present preview.swapChain preview.syncInterval
              (preview.drawnOn source device) = _ := fallible_refused rfl hpresents
          rw [hpresent]
          exact .unshown hbinds hpresents
      | none =>
          have hpresent : Capture.present preview.swapChain preview.syncInterval
              (preview.drawnOn source device) = _ := fallible_granted rfl hpresents
          rw [hpresent]
          exact .shown hbinds hpresents

/-! ## The whole present -/

/-- There is nothing to show, or nothing to draw on. -/
def IsIdle (preview : Preview) (texture : Option Texture) : Prop :=
  texture = none ∨ preview.window.visible = false ∨
    preview.window.clientSize.width = 0 ∨ preview.window.clientSize.height = 0

/-- How a present ends that is not idle. -/
inductive Presents (preview : Preview) (source : Texture) (device : Device) :
    Traced (Except PlatformError Bool × Preview) → Prop
  | unresized {error : PlatformError} {faults : Faults}
      (hsize : preview.swapChain.size ≠ preview.window.clientSize)
      (hrefused : device.resizeRefusal? = some (error, faults)) :
      Presents preview source device
        ⟨(.error error, preview), { device with faults },
          [.call (.resize preview.swapChain.id preview.window.clientSize)
            (.failed (.platform error))]⟩
  | drawn {fit : List Entry} {fitted : Preview} {drawn : Traced (Except PlatformError Unit)}
      (hfits : preview.Fits device fit fitted) (hdrawn : fitted.Draws source device drawn) :
      Presents preview source device
        ⟨(drawn.value.map fun _ => true, fitted), drawn.device, fit ++ drawn.journal⟩

section

variable {preview fitted : Preview} {source : Texture} {device : Device} {fit : List Entry}
  {done : Traced (Except PlatformError Bool × Preview)}

theorem isShowing_eq_false_iff (preview : Preview) (source : Texture) :
    preview.isShowing = false ↔ preview.IsIdle (some source) := by
  rw [isShowing, Bool.and_eq_false_iff, Bool.not_eq_false', Size.isEmpty, Bool.or_eq_true]
  simp [IsIdle]

theorem present_of_idle {texture : Option Texture} (hidle : preview.IsIdle texture)
    (device : Device) : preview.present texture device = ⟨(.ok false, preview), device, []⟩ := by
  cases texture with
  | none => rfl
  | some source =>
      have hshowing := (preview.isShowing_eq_false_iff source).mpr hidle
      simp only [present, hshowing]
      rfl

theorem present_presents (hbusy : ¬preview.IsIdle (some source)) (device : Device) :
    preview.Presents source device (preview.present (some source) device) := by
  have hshowing : preview.isShowing = true := by
    rwa [← isShowing_eq_false_iff, Bool.not_eq_false] at hbusy
  simp only [present, hshowing, if_true, bind_apply]
  rcases preview.fitSurface_cases device with
    ⟨fit, fitted, hfits, hfitted⟩ | ⟨error, faults, hsize, hrefused, hfitted⟩
  · rw [hfitted]
    have hdrawn := Presents.drawn hfits (fitted.draw_draws source device)
    simpa using hdrawn
  · rw [hfitted]
    exact .unresized hsize hrefused

/-- The surface has the client area's size, and the window is left alone. -/
theorem Fits.size (hfits : preview.Fits device fit fitted) :
    fitted.window = preview.window ∧ fitted.swapChain.size = preview.window.clientSize := by
  cases hfits with
  | same hsize => exact ⟨rfl, hsize⟩
  | resized => exact ⟨rfl, rfl⟩

theorem Fits.granted (hfits : preview.Fits device fit fitted) :
    preview.swapChain.size ≠ preview.window.clientSize → device.resizeRefusal? = none := by
  intro hsize
  cases hfits with
  | same hsame => exact absurd hsame hsize
  | resized _ hgranted => exact hgranted

theorem Draws.boundTarget {drawn : Traced (Except PlatformError Unit)}
    (hdraws : preview.Draws source device drawn) :
    drawn.device.boundTarget = device.boundTarget := by
  cases hdraws with
  | unbound => rfl
  | unshown => rfl
  | shown => rfl

theorem Draws.ok_iff {drawn : Traced (Except PlatformError Unit)}
    (hdraws : preview.Draws source device drawn) :
    drawn.value = .ok () ↔ device.bindRefusal? = none ∧ device.presentRefusal? = none := by
  cases hdraws with
  | unbound hrefused => simp [hrefused]
  | unshown hbound hrefused => simp [hrefused]
  | shown hbound hgranted => simp [hbound, hgranted]

theorem Presents.ne_false (hpresents : preview.Presents source device done) :
    done.value.1 ≠ .ok false := by
  cases hpresents with
  | unresized => exact nofun
  | @drawn _ _ drawn => cases drawn.value <;> simp [Except.map]

theorem Presents.ok_iff (hpresents : preview.Presents source device done) :
    done.value.1 = .ok true ↔
      (preview.swapChain.size ≠ preview.window.clientSize → device.resizeRefusal? = none) ∧
        device.bindRefusal? = none ∧ device.presentRefusal? = none := by
  cases hpresents with
  | unresized hsize hrefused => simp [hsize, hrefused]
  | @drawn _ _ drawn hfits hdrawn =>
      have hshown : drawn.value.map (fun _ => true) = .ok true ↔ drawn.value = .ok () := by
        cases drawn.value <;> simp [Except.map]
      rw [hshown, hdrawn.ok_iff]
      exact (and_iff_right hfits.granted).symm

theorem Presents.boundTarget (hpresents : preview.Presents source device done) :
    done.device.boundTarget = device.boundTarget := by
  cases hpresents with
  | unresized => rfl
  | drawn _ hdrawn => exact hdrawn.boundTarget

theorem Presents.window (hpresents : preview.Presents source device done) :
    done.value.2.window = preview.window := by
  cases hpresents with
  | unresized => rfl
  | drawn hfits => exact hfits.size.1

theorem Presents.size (hpresents : preview.Presents source device done)
    (hgranted : preview.swapChain.size ≠ preview.window.clientSize →
      device.resizeRefusal? = none) :
    done.value.2.swapChain.size = preview.window.clientSize := by
  cases hpresents with
  | unresized hsize hrefused =>
      rw [hgranted hsize] at hrefused
      cases hrefused
  | drawn hfits => exact hfits.size.2

end

/-- Presenting answers `false` exactly if it is idle, and then it does nothing; otherwise
it ends in one of the ways that its calls leave, and answers `true` exactly if none of them
is refused.  It leaves the bound target and the window as they were, and unless it is idle
or its resize is refused, the surface has the size of the client area after it. -/
theorem present_exits (preview : Preview) (texture : Option Texture) (device : Device) :
    let done := preview.present texture device
    (done.value.1 = .ok false ↔ preview.IsIdle texture) ∧
    (preview.IsIdle texture → done = ⟨(.ok false, preview), device, []⟩) ∧
    (∀ source, texture = some source → ¬preview.IsIdle texture →
      preview.Presents source device done) ∧
    (done.value.1 = .ok true ↔ ¬preview.IsIdle texture ∧
      (preview.swapChain.size ≠ preview.window.clientSize → device.resizeRefusal? = none) ∧
      device.bindRefusal? = none ∧ device.presentRefusal? = none) ∧
    done.device.boundTarget = device.boundTarget ∧
    done.value.2.window = preview.window ∧
    (¬preview.IsIdle texture →
      (preview.swapChain.size ≠ preview.window.clientSize → device.resizeRefusal? = none) →
      done.value.2.swapChain.size = preview.window.clientSize) := by
  intro done
  by_cases hidle : preview.IsIdle texture
  · have hdone : done = ⟨(.ok false, preview), device, []⟩ := present_of_idle hidle device
    rw [hdone]
    refine ⟨iff_of_true rfl hidle, fun _ => rfl, fun _ _ hbusy => absurd hidle hbusy, ?_, rfl, rfl,
      fun hbusy => absurd hidle hbusy⟩
    exact iff_of_false nofun fun hbusy => hbusy.1 hidle
  · obtain ⟨source, rfl⟩ : ∃ source, texture = some source := by
      refine Option.ne_none_iff_exists'.mp fun hnone => ?_
      exact hidle (.inl hnone)
    have hpresents : preview.Presents source device done := present_presents hidle device
    refine ⟨iff_of_false hpresents.ne_false hidle, fun h => absurd h hidle, ?_, ?_,
      hpresents.boundTarget, hpresents.window, fun _ => hpresents.size⟩
    · rintro _ ⟨⟩ -
      exact hpresents
    · rw [hpresents.ok_iff]
      exact (and_iff_right hidle).symm

end Preview

/-! ## What a session shows -/

namespace Session

/-- What the log is told of a present. -/
def presentNotices : Except PlatformError Bool → List Entry
  | .error error => [.notice [] (.presentFailed error)]
  | .ok _ => []

/-- How a session offers its cached texture to its preview: it has none, or there is nothing
to do, or it is presented once and the log is told if that fails. -/
inductive Offers (session : Session) (device : Device) : Traced Session → Prop
  | bare (hpreview : session.preview = none) : session.Offers device ⟨session, device, []⟩
  | idle {preview : Preview} (hpreview : session.preview = some preview)
      (hidle : preview.IsIdle session.texture) : session.Offers device ⟨session, device, []⟩
  | busy {preview : Preview} {source : Texture}
      {done : Traced (Except PlatformError Bool × Preview)}
      (hpreview : session.preview = some preview) (htexture : session.texture = some source)
      (hbusy : ¬preview.IsIdle (some source)) (hpresents : preview.Presents source device done) :
      session.Offers device ⟨{ session with preview := some done.value.2 }, done.device,
        done.journal ++ presentNotices done.value.1⟩

theorem present_offers (session : Session) (device : Device) :
    session.Offers device (session.present device) := by
  cases hpreview : session.preview with
  | none =>
      simp only [present, hpreview, pure_apply]
      exact .bare hpreview
  | some preview =>
      by_cases hidle : preview.IsIdle session.texture
      · have hsame : { session with preview := some preview } = session := by rw [← hpreview]
        simp only [present, hpreview, bind_apply, preview.present_of_idle hidle]
        simpa [hsame] using Offers.idle hpreview hidle
      · obtain ⟨source, htexture⟩ : ∃ source, session.texture = some source := by
          refine Option.ne_none_iff_exists'.mp fun hnone => ?_
          exact hidle (.inl hnone)
        rw [htexture] at hidle
        have hoffers := Offers.busy hpreview htexture hidle
          (Preview.present_presents hidle device)
        simp only [present, hpreview, bind_apply, htexture]
        cases hresult : (preview.present (some source) device).value.1 with
        | error error => simpa [hresult, presentNotices, notify, note] using hoffers
        | ok shown => simpa [hresult, presentNotices] using hoffers

end Session
end DesktopCapture
