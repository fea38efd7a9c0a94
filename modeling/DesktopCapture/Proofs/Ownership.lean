import DesktopCapture.Proofs.Ledger
import DesktopCapture.Registry

/-!
# Who owns what

A frame cache owns its texture, a preview its swap chain and its window, and a
session its duplication and what its cache and its preview own.  Every operation
moves the ledger from what was owned before it to what is owned after it, however
its calls end; whatever else is owned meanwhile, by other sessions say, is listed
behind and stays.
-/

namespace DesktopCapture

/-- What a cache owns. -/
def FrameCache.holdings (cache : FrameCache) : List Release :=
  cache.texture.toList.map fun texture => .texture texture.id

/-- What a preview owns. -/
def Preview.holdings (preview : Preview) : List Release :=
  [.swapChain preview.swapChain.id, .window preview.window.id]

namespace Session

/-- The duplication a session owns. -/
def duplicationHoldings (session : Session) : List Release :=
  session.duplication.toList.map fun duplication => .duplication duplication.output

/-- What the preview of a session owns. -/
def previewHoldings (session : Session) : List Release :=
  session.preview.toList.flatMap Preview.holdings

/-- What a session owns, in the order it is released. -/
def holdings (session : Session) : List Release :=
  session.duplicationHoldings ++ session.cache.holdings ++ session.previewHoldings

end Session

/-- What comes with a result; a failure comes with nothing. -/
def holdingsOf {ε α : Type} (holdings : α → List Release) : Except ε α → List Release
  | .ok value => holdings value
  | .error _ => []

namespace Capture

variable {α : Type} {owned : List Release}

theorem created?_failed (call : Call) (error : CaptureError) :
    (Entry.call call (.failed error)).created? = none := by
  cases call <;> rfl

theorem ledger_fallible {holdings : α → List Release} {point : FaultPoint} {call : Call}
    {answer : α → Answer} {act : Device → Except PlatformError (α × Device)}
    (hdone : ∀ past device value device', Ledger owned past device →
      act device = .ok (value, device') →
        Ledger (holdings value ++ owned) (past ++ [.call call (answer value)]) device') :
    Triple (Ledger owned) (fallible point call answer act)
      (fun result => Ledger (holdingsOf holdings result ++ owned)) := by
  apply Triple.fallible
  · intro past device faults error hledger
    exact hledger.append_quiet (created?_failed call _) rfl ⟨rfl, rfl, rfl, Nat.le_refl _⟩
  · intro past device value device' hledger hact
    exact hdone past device value device' hledger hact

/-- A call that hands out nothing to own leaves the ledger alone. -/
theorem ledger_quiet {point : FaultPoint} {call : Call} {answer : α → Answer}
    {act : Device → Except PlatformError (α × Device)}
    (hcreated : ∀ value, (Entry.call call (answer value)).created? = none)
    (hbooks : ∀ device value device', act device = .ok (value, device') →
      device.SameBooks device') :
    Triple (Ledger owned) (fallible point call answer act) (fun _ => Ledger owned) := by
  apply Triple.fallible
  · intro past device faults error hledger
    exact hledger.append_quiet (created?_failed call _) rfl ⟨rfl, rfl, rfl, Nat.le_refl _⟩
  · intro past device value device' hledger hact
    exact hledger.append_quiet (hcreated value) rfl (hbooks device value device' hact)

theorem ledger_always {call : Call} {answer : Device → Answer} {act : Device → Device}
    (hcreated : ∀ device, (Entry.call call (answer device)).created? = none)
    (hbooks : ∀ device : Device, device.SameBooks (act device)) :
    Triple (Ledger owned) (always call answer act) (fun _ => Ledger owned) := by
  intro past device hledger
  exact hledger.append_quiet (hcreated device) rfl (hbooks device)

theorem ledger_notify (spans : List Span) (notice : Notice) :
    Triple (Ledger owned) (notify spans notice) (fun _ => Ledger owned) := by
  intro past device hledger
  exact hledger.append_quiet rfl rfl (.refl device)

theorem ledger_endSpan (spans : List Span) :
    Triple (Ledger owned) (endSpan spans) (fun _ => Ledger owned) := by
  intro past device hledger
  exact hledger.append_quiet rfl rfl (.refl device)

theorem ledger_release (object : Release) :
    Triple (Ledger (object :: owned)) (release object) (fun _ => Ledger owned) := by
  intro past device hledger
  exact hledger.append_release

theorem ledger_enumOutput (index : UInt32) :
    Triple (Ledger owned) (enumOutput index) (fun _ => Ledger owned) := by
  apply ledger_quiet
  · intro output
    cases output <;> rfl
  · intro device output device' hact
    obtain ⟨-, -, rfl⟩ := Device.enumOutput_ok hact
    exact .refl device'

theorem ledger_describe (output : Output) :
    Triple (Ledger owned) (describe output) (fun _ => Ledger owned) := by
  apply ledger_quiet (fun _ => rfl)
  intro device description device' hact
  obtain ⟨-, -, rfl⟩ := Device.describe_ok hact
  exact .refl device'

theorem ledger_colorInfo (output : Output) :
    Triple (Ledger owned) (colorInfo output) (fun _ => Ledger owned) := by
  apply ledger_quiet (fun _ => rfl)
  intro device color device' hact
  obtain ⟨-, -, rfl⟩ := Device.colorInfo_ok hact
  exact .refl device'

/-- A new duplication is owned; an output that does not negotiate gives none. -/
theorem ledger_duplicateWithFormats (output : Output) (formats : List NativeFormat) :
    Triple (Ledger owned) (duplicateWithFormats output formats) (fun result =>
      Ledger (holdingsOf (fun duplication : Option Duplication =>
        duplication.toList.map fun duplication => .duplication duplication.output) result
          ++ owned)) := by
  apply ledger_fallible
  intro past device duplication device' hledger hact
  obtain ⟨-, rfl, rfl⟩ | ⟨-, -, rfl, rfl⟩ := Device.duplicateWithFormats_ok hact
  · exact hledger.append_quiet rfl rfl (.refl device')
  · exact hledger.append_creation rfl rfl ⟨rfl, rfl, rfl, nofun, Nat.le_refl _⟩

theorem ledger_duplicate (output : Output) :
    Triple (Ledger owned) (duplicate output) (fun result =>
      Ledger (holdingsOf (fun duplication : Duplication =>
        [.duplication duplication.output]) result ++ owned)) := by
  apply ledger_fallible
  intro past device duplication device' hledger hact
  obtain ⟨-, rfl, rfl⟩ := Device.duplicate_ok hact
  exact hledger.append_creation rfl rfl ⟨rfl, rfl, rfl, nofun, Nat.le_refl _⟩

theorem ledger_acquire (duplication : Duplication) (timeoutMs : UInt32) :
    Triple (Ledger owned) (acquire duplication timeoutMs) (fun _ => Ledger owned) := by
  intro past device hledger
  cases htake : device.faults.takeAcquire? with
  | some taken =>
      obtain ⟨error, faults⟩ := taken
      simp only [acquire, htake]
      exact hledger.append_quiet rfl rfl ⟨rfl, rfl, rfl, Nat.le_refl _⟩
  | none =>
      have hbooks : device.SameBooks (device.acquire duplication).2 := by
        obtain ⟨heldFrames, hdevice⟩ := Device.acquire_device duplication device
        rw [hdevice]
        exact ⟨rfl, rfl, rfl, Nat.le_refl _⟩
      rcases hdelivered : device.acquire duplication with ⟨_ | _, device'⟩ <;>
        rw [hdelivered] at hbooks <;> simp only [acquire, htake, hdelivered] <;>
        exact hledger.append_quiet rfl rfl hbooks

theorem ledger_releaseFrame (duplication : Duplication) :
    Triple (Ledger owned) (releaseFrame duplication) (fun _ => Ledger owned) := by
  apply ledger_quiet (fun _ => rfl)
  intro device value device' hact
  cases hact
  exact ⟨rfl, rfl, rfl, Nat.le_refl _⟩

/-- The texture of a frame is the frame's: it takes a number and is not owned. -/
theorem ledger_frameTexture (resource : FrameResource) :
    Triple (Ledger owned) (frameTexture resource) (fun _ => Ledger owned) := by
  apply ledger_quiet (fun _ => rfl)
  intro device texture device' hact
  obtain ⟨size, format, -, -, rfl⟩ := Device.frameTexture_ok hact
  exact ⟨rfl, rfl, rfl, Nat.le_succ _⟩

theorem ledger_createTexture (size : Size) (format : ColorFormat) :
    Triple (Ledger owned) (createTexture size format) (fun result =>
      Ledger (holdingsOf (fun texture : Texture => [.texture texture.id]) result
        ++ owned)) := by
  apply ledger_fallible
  intro past device texture device' hledger hact
  obtain ⟨-, rfl, rfl⟩ := Device.createTexture_ok hact
  refine hledger.append_creation rfl rfl ⟨rfl, rfl, rfl, ?_, Nat.le_succ _⟩
  rintro id ⟨⟩
  exact ⟨Nat.lt_succ_self _, Nat.le_refl _⟩

theorem ledger_copyTexture (destination source : Texture) :
    Triple (Ledger owned) (copyTexture destination source) (fun _ => Ledger owned) :=
  ledger_always (fun _ => rfl) (fun _ => ⟨rfl, rfl, rfl, Nat.le_refl _⟩)

theorem ledger_createWindow (title : String) (size : Size) :
    Triple (Ledger owned) (createWindow title size) (fun result =>
      Ledger (holdingsOf (fun window : Window => [.window window.id]) result
        ++ owned)) := by
  apply ledger_fallible
  intro past device window device' hledger hact
  obtain ⟨-, rfl, rfl⟩ := Device.createWindow_ok hact
  refine hledger.append_creation rfl rfl ⟨rfl, rfl, rfl, ?_, Nat.le_succ _⟩
  rintro id ⟨⟩
  exact ⟨Nat.lt_succ_self _, Nat.le_refl _⟩

theorem ledger_createSwapChain (window : Window) (size : Size) :
    Triple (Ledger owned) (createSwapChain window size) (fun result =>
      Ledger (holdingsOf (fun swapChain : SwapChain => [.swapChain swapChain.id]) result
        ++ owned)) := by
  apply ledger_fallible
  intro past device swapChain device' hledger hact
  obtain ⟨-, rfl, rfl⟩ := Device.createSwapChain_ok hact
  refine hledger.append_creation rfl rfl ⟨rfl, rfl, rfl, ?_, Nat.le_succ _⟩
  rintro id ⟨⟩
  exact ⟨Nat.lt_succ_self _, Nat.le_refl _⟩

/-- A resized swap chain is the same one. -/
theorem ledger_resize (swapChain : SwapChain) (size : Size) :
    Triple (Ledger owned) (resize swapChain size) (fun result past device =>
      Ledger owned past device ∧
        ∀ resized, result = .ok resized → resized.id = swapChain.id) := by
  apply Triple.fallible
  · intro past device faults error hledger
    refine ⟨hledger.append_quiet rfl rfl ⟨rfl, rfl, rfl, Nat.le_refl _⟩, ?_⟩
    intro resized hresized
    cases hresized
  · intro past device resized device' hledger hact
    obtain ⟨-, rfl, rfl⟩ := Device.resize_ok hact
    refine ⟨hledger.append_quiet rfl rfl (.refl device'), ?_⟩
    intro resized hresized
    cases hresized
    rfl

theorem ledger_setVisible (window : Window) (visible : Bool) :
    Triple (Ledger owned) (setVisible window visible) (fun shown past device =>
      Ledger owned past device ∧ shown.id = window.id) := by
  refine Triple.bind (ledger_always (fun _ => rfl) .refl) ?_
  intro _
  exact Triple.pure fun _ _ h => ⟨h, rfl⟩

theorem ledger_saveTarget : Triple (Ledger owned) saveTarget (fun _ => Ledger owned) := by
  intro past device hledger
  exact hledger.append_quiet rfl rfl (.refl device)

theorem ledger_bindSwapChain (swapChain : SwapChain) :
    Triple (Ledger owned) (bindSwapChain swapChain) (fun _ => Ledger owned) := by
  apply ledger_quiet (fun _ => rfl)
  intro device value device' hact
  obtain ⟨-, rfl⟩ := Device.bindSwapChain_ok hact
  exact ⟨rfl, rfl, rfl, Nat.le_refl _⟩

theorem ledger_present (swapChain : SwapChain) (interval : UInt32) :
    Triple (Ledger owned) (present swapChain interval) (fun _ => Ledger owned) := by
  apply ledger_quiet (fun _ => rfl)
  intro device value device' hact
  obtain ⟨-, rfl⟩ := Device.present_ok hact
  exact ⟨rfl, rfl, rfl, Nat.le_refl _⟩

end Capture

open Capture

variable {owned : List Release}

namespace FrameCache

theorem ledger_release (cache : FrameCache) :
    Triple (Ledger (cache.holdings ++ owned)) cache.release (fun _ => Ledger owned) := by
  unfold FrameCache.release holdings
  cases cache.texture with
  | none => exact Triple.pure fun _ _ h => h
  | some texture => exact Capture.ledger_release _

/-- The old texture is released first, so a failed allocation leaves nothing. -/
theorem ledger_reallocate (cache : FrameCache) (source : Texture) (hdr : Bool) :
    Triple (Ledger (cache.holdings ++ owned)) (cache.reallocate source hdr)
      (fun cache' => Ledger (cache'.holdings ++ owned)) := by
  unfold reallocate
  refine Triple.bind cache.ledger_release ?_
  intro _
  refine Triple.bind (ledger_notify _ _) ?_
  intro _
  refine Triple.bind (ledger_createTexture _ _) ?_
  intro result
  cases result with
  | ok texture => exact Triple.pure fun _ _ h => h
  | error error =>
      refine Triple.bind (ledger_notify _ _) ?_
      intro _
      exact Triple.pure fun _ _ h => h

theorem ledger_fill (cache : FrameCache) (source : Texture) :
    Triple (Ledger owned) (cache.fill source) (fun _ => Ledger owned) := by
  unfold fill
  cases cache.texture with
  | none => exact Triple.pure fun _ _ h => h
  | some texture => exact ledger_copyTexture _ _

theorem ledger_ingest (cache : FrameCache) (source : Texture) (hdr : Bool) :
    Triple (Ledger (cache.holdings ++ owned)) (cache.ingest source hdr)
      (fun cache' => Ledger (cache'.holdings ++ owned)) := by
  have hfilled : ∀ cache' : FrameCache, Triple (Ledger (cache'.holdings ++ owned))
      (do cache'.fill source; pure cache')
      (fun cache' => Ledger (cache'.holdings ++ owned)) := by
    intro cache'
    refine Triple.bind (cache'.ledger_fill source) ?_
    intro _
    exact Triple.pure fun _ _ h => h
  unfold ingest
  split
  · exact Triple.bind (Triple.pure fun _ _ h => h) hfilled
  · exact Triple.bind (cache.ledger_reallocate source hdr) hfilled

end FrameCache

namespace Preview

/-- A window that gets no swap chain is destroyed again. -/
theorem ledger_assemble (size : Size) (title : String) :
    Triple (Ledger owned) (assemble size title)
      (fun made => Ledger (holdingsOf Preview.holdings made ++ owned)) := by
  unfold assemble
  refine Triple.bind (ledger_createWindow title size) ?_
  intro window
  cases window with
  | error error => exact Triple.pure fun _ _ h => h
  | ok window =>
      refine Triple.bind (ledger_createSwapChain window size) ?_
      intro swapChain
      cases swapChain with
      | error error =>
          refine Triple.bind (Capture.ledger_release (.window window.id)) ?_
          intro _
          exact Triple.pure fun _ _ h => h
      | ok swapChain =>
          refine Triple.bind (ledger_setVisible window true) ?_
          intro shown
          apply Triple.pure
          rintro past device ⟨hledger, hid⟩
          simpa [holdingsOf, holdings, hid] using hledger

theorem ledger_create (outer : List Span) (monitor : MonitorInfo) (title : String) :
    Triple (Ledger owned) (create outer monitor title)
      (fun made => Ledger (holdingsOf Preview.holdings made ++ owned)) := by
  refine Triple.bind (ledger_assemble monitor.size.half title) ?_
  intro made
  have hended : Triple (Ledger (holdingsOf Preview.holdings made ++ owned))
      (do endSpan (outer ++ [.previewCreation]); pure made)
      (fun made => Ledger (holdingsOf Preview.holdings made ++ owned)) := by
    refine Triple.bind (ledger_endSpan _) ?_
    intro _
    exact Triple.pure fun _ _ h => h
  cases made with
  | ok preview => exact hended
  | error error => exact Triple.bind (ledger_notify _ _) fun _ => hended

theorem ledger_fitSurface (preview : Preview) :
    Triple (Ledger owned) preview.fitSurface (fun result past device =>
      Ledger owned past device ∧
        ∀ fitted, result = .ok fitted → fitted.holdings = preview.holdings) := by
  unfold fitSurface
  split
  · apply Triple.pure
    intro past device hledger
    refine ⟨hledger, ?_⟩
    rintro fitted ⟨⟩
    rfl
  · refine Triple.bind (ledger_resize preview.swapChain preview.window.clientSize) ?_
    intro resized
    cases resized with
    | error error => exact Triple.pure fun _ _ h => ⟨h.1, nofun⟩
    | ok swapChain =>
        apply Triple.pure
        rintro past device ⟨hledger, hid⟩
        refine ⟨hledger, ?_⟩
        rintro fitted ⟨⟩
        simp [holdings, hid swapChain rfl]

theorem ledger_draw (preview : Preview) (texture : Texture) :
    Triple (Ledger owned) (preview.draw texture) (fun _ => Ledger owned) := by
  have hbound : Triple (Ledger owned) (preview.drawBound texture)
      (fun _ => Ledger owned) := by
    refine Triple.bind (ledger_bindSwapChain preview.swapChain) ?_
    intro bound
    cases bound with
    | error error => exact Triple.pure fun _ _ h => h
    | ok _ =>
        refine Triple.bind (ledger_always (fun _ => rfl)
          fun _ => ⟨rfl, rfl, rfl, Nat.le_refl _⟩) ?_
        intro _
        refine Triple.bind (ledger_always (fun _ => rfl)
          fun _ => ⟨rfl, rfl, rfl, Nat.le_refl _⟩) ?_
        intro _
        exact ledger_present _ _
  refine Triple.bind ledger_saveTarget ?_
  intro target
  refine Triple.bind hbound ?_
  intro drawn
  refine Triple.bind (ledger_always (fun _ => rfl)
    fun _ => ⟨rfl, rfl, rfl, Nat.le_refl _⟩) ?_
  intro _
  exact Triple.pure fun _ _ h => h

/-- However presenting ends, the preview owns the swap chain and the window it
owned. -/
theorem ledger_present (preview : Preview) (texture : Option Texture) :
    Triple (Ledger owned) (preview.present texture) (fun result past device =>
      Ledger owned past device ∧ result.2.holdings = preview.holdings) := by
  unfold present
  cases texture with
  | none => exact Triple.pure fun _ _ h => ⟨h, rfl⟩
  | some texture =>
      dsimp only
      split
      · refine Triple.bind preview.ledger_fitSurface ?_
        intro fitted
        cases fitted with
        | error error => exact Triple.pure fun _ _ h => ⟨h.1, rfl⟩
        | ok fitted =>
            apply Triple.of_and
            intro hfitted
            refine Triple.bind (fitted.ledger_draw texture) ?_
            intro drawn
            exact Triple.pure fun _ _ h => ⟨h, hfitted fitted rfl⟩
      · exact Triple.pure fun _ _ h => ⟨h, rfl⟩

theorem ledger_setVisible (preview : Preview) (visible : Bool) :
    Triple (Ledger owned) (preview.setVisible visible) (fun preview' past device =>
      Ledger owned past device ∧ preview'.holdings = preview.holdings) := by
  refine Triple.bind (Capture.ledger_setVisible preview.window visible) ?_
  intro shown
  apply Triple.pure
  rintro past device ⟨hledger, hid⟩
  exact ⟨hledger, by simp [holdings, hid]⟩

theorem ledger_release (preview : Preview) :
    Triple (Ledger (preview.holdings ++ owned)) preview.release
      (fun _ => Ledger owned) := by
  refine Triple.bind (Capture.ledger_release (.swapChain preview.swapChain.id)) ?_
  intro _
  exact Capture.ledger_release (.window preview.window.id)

end Preview

namespace Session

/-- The cached texture of a session can be listed in front. -/
theorem holdings_perm_cache (session : Session) :
    (session.holdings ++ owned).Perm (session.cache.holdings ++
      (session.duplicationHoldings ++ session.previewHoldings ++ owned)) := by
  rw [List.perm_iff_count]
  intro object
  simp only [holdings, List.count_append]
  omega

theorem ledger_openDuplication (spans : List Span) (output : Output) :
    Triple (Ledger owned) (openDuplication spans output) (fun opened =>
      Ledger (holdingsOf (fun opened : Duplication × ColorInfo =>
        [.duplication opened.1.output]) opened ++ owned)) := by
  refine Triple.bind (ledger_duplicateWithFormats output offeredFormats) ?_
  intro negotiated
  cases negotiated with
  | error error => exact Triple.pure fun _ _ h => h
  | ok duplication =>
      cases duplication with
      | some duplication =>
          refine Triple.bind (ledger_colorInfo output) ?_
          intro color
          cases color with
          | ok color => exact Triple.pure fun _ _ h => h
          | error error =>
              refine Triple.bind (ledger_notify _ _) ?_
              intro _
              exact Triple.pure fun _ _ h => h
      | none =>
          refine Triple.bind (ledger_notify _ _) ?_
          intro _
          refine Triple.bind (ledger_duplicate output) ?_
          intro duplicated
          cases duplicated with
          | error error => exact Triple.pure fun _ _ h => h
          | ok duplication => exact Triple.pure fun _ _ h => h

theorem ledger_openPreview (spans : List Span) (output : Output) (title : String) :
    Triple (Ledger owned) (openPreview spans output title) (fun preview =>
      Ledger (preview.toList.flatMap Preview.holdings ++ owned)) := by
  refine Triple.bind (ledger_describe output) ?_
  intro described
  cases described with
  | error error =>
      refine Triple.bind (ledger_notify _ _) ?_
      intro _
      exact Triple.pure fun _ _ h => h
  | ok description =>
      refine Triple.bind (Preview.ledger_create spans _ title) ?_
      intro made
      cases made with
      | error error =>
          refine Triple.bind (ledger_notify _ _) ?_
          intro _
          exact Triple.pure fun _ _ h => h
      | ok preview =>
          apply Triple.pure
          intro past device hledger
          simpa [holdingsOf] using hledger

theorem ledger_output (index : UInt32) :
    Triple (Ledger owned) (Adapter.output index) (fun _ => Ledger owned) := by
  refine Triple.bind (ledger_enumOutput index) ?_
  intro found
  rcases found with error | _ | output
  · exact Triple.pure fun _ _ h => h
  · exact Triple.pure fun _ _ h => h
  · exact Triple.pure fun _ _ h => h

theorem ledger_startWithin (spans : List Span) (index : UInt32) (config : SessionConfig) :
    Triple (Ledger owned) (startWithin spans index config)
      (fun started => Ledger (holdingsOf Session.holdings started ++ owned)) := by
  refine Triple.bind (ledger_output index) ?_
  intro found
  cases found with
  | error error => exact Triple.pure fun _ _ h => h
  | ok output =>
      refine Triple.bind (ledger_openDuplication spans output) ?_
      intro opened
      rcases opened with error | ⟨duplication, color⟩
      · exact Triple.pure fun _ _ h => h
      · have hstarted : ∀ preview : Option Preview, Triple
            (Ledger (preview.toList.flatMap Preview.holdings ++
              ([.duplication duplication.output] ++ owned)))
            (do
              notify spans (.sessionStarted index color)
              pure (.ok
                { duplication := some duplication
                  cache := .empty
                  preview
                  monitor := index
                  color
                  frameAvailable := false
                  refs := 1 }))
            (fun started : Except CaptureError Session =>
              Ledger (holdingsOf Session.holdings started ++ owned)) := by
          intro preview
          refine Triple.bind (ledger_notify _ _) ?_
          intro _
          apply Triple.pure
          intro past device hledger
          apply hledger.of_perm
          rw [List.perm_iff_count]
          intro object
          simp only [holdingsOf, holdings, duplicationHoldings, previewHoldings,
            FrameCache.holdings, FrameCache.empty, Option.toList_none, Option.toList_some,
            List.map_nil, List.map_cons, List.count_append, List.append_nil]
          omega
        dsimp only
        split
        · exact Triple.bind (ledger_openPreview spans output config.title) hstarted
        · exact Triple.bind (Triple.pure fun _ _ h => h) hstarted

/-- A session that starts owns all that was created for it; a start that fails
leaves nothing behind. -/
theorem ledger_start (index : UInt32) (config : SessionConfig) :
    Triple (Ledger owned) (start index config)
      (fun started => Ledger (holdingsOf Session.holdings started ++ owned)) := by
  refine Triple.bind (ledger_startWithin [.sessionStart index] index config) ?_
  intro started
  have hended : Triple (Ledger (holdingsOf Session.holdings started ++ owned))
      (do endSpan [.sessionStart index]; pure started)
      (fun started => Ledger (holdingsOf Session.holdings started ++ owned)) := by
    refine Triple.bind (ledger_endSpan _) ?_
    intro _
    exact Triple.pure fun _ _ h => h
  cases started with
  | ok session => exact hended
  | error error => exact Triple.bind (ledger_notify _ _) fun _ => hended

theorem ledger_present (session : Session) :
    Triple (Ledger owned) session.present (fun session' past device =>
      Ledger owned past device ∧ session'.holdings = session.holdings) := by
  unfold present
  rcases hpreview : session.preview with _ | preview
  · exact Triple.pure fun _ _ h => ⟨h, rfl⟩
  · refine Triple.bind (preview.ledger_present session.texture) ?_
    rintro ⟨shown, shownPreview⟩
    apply Triple.of_and
    intro hholdings
    have hkept : Triple (Ledger owned)
        (pure { session with preview := some shownPreview })
        (fun session' past device =>
          Ledger owned past device ∧ session'.holdings = session.holdings) := by
      apply Triple.pure
      intro past device hledger
      refine ⟨hledger, ?_⟩
      simp [holdings, duplicationHoldings, previewHoldings, hpreview, hholdings]
    cases shown with
    | ok _ => exact hkept
    | error error => exact Triple.bind (ledger_notify _ _) fun _ => hkept

theorem ledger_handBack (duplication : Duplication) :
    Triple (Ledger owned) (handBack duplication) (fun _ => Ledger owned) := by
  refine Triple.bind (ledger_releaseFrame duplication) ?_
  intro handed
  cases handed with
  | ok _ => exact Triple.pure fun _ _ h => h
  | error error => exact ledger_notify _ _

theorem ledger_takeFrame (session : Session) (duplication : Duplication)
    (resource : FrameResource) :
    Triple (Ledger (session.holdings ++ owned)) (session.takeFrame duplication resource)
      (fun session' => Ledger (session'.holdings ++ owned)) := by
  refine Triple.bind (ledger_frameTexture resource) ?_
  intro queried
  cases queried with
  | error error =>
      refine Triple.bind (ledger_notify _ _) ?_
      intro _
      refine Triple.bind (ledger_handBack duplication) ?_
      intro _
      exact Triple.pure fun _ _ h => h
  | ok texture =>
      refine Triple.bind ((session.cache.ledger_ingest texture session.color.hdr).weaken
        (fun _ _ h => h.of_perm session.holdings_perm_cache) (fun _ _ _ h => h)) ?_
      intro cache
      refine Triple.bind (ledger_handBack duplication) ?_
      intro _
      refine ({ session with cache, frameAvailable := true }.ledger_present).weaken
        (fun _ _ h => h) ?_
      rintro session' past device ⟨hledger, hholdings⟩
      rw [hholdings]
      exact hledger.of_perm
        ({ session with cache, frameAvailable := true }.holdings_perm_cache).symm

theorem ledger_update (session : Session) :
    Triple (Ledger (session.holdings ++ owned)) session.update
      (fun result => Ledger (result.2.holdings ++ owned)) := by
  have hshown : Triple (Ledger (session.holdings ++ owned))
      (do let session ← session.present; pure (true, session))
      (fun result => Ledger (result.2.holdings ++ owned)) := by
    refine Triple.bind session.ledger_present ?_
    intro session'
    apply Triple.pure
    rintro past device ⟨hledger, hholdings⟩
    rwa [hholdings]
  unfold update
  rcases hduplication : session.duplication with _ | duplication
  · exact Triple.pure fun _ _ h => h
  · refine Triple.bind (ledger_acquire duplication 0) ?_
    intro acquired
    rcases acquired with (index | error | _ | _) | resource
    · exact Triple.bind (ledger_notify _ _) fun _ => hshown
    · exact Triple.bind (ledger_notify _ _) fun _ => hshown
    · refine Triple.bind (ledger_notify _ _) ?_
      intro _
      have hreleased : Triple (Ledger (session.holdings ++ owned))
          (Capture.release (.duplication duplication.output))
          (fun _ => Ledger ({ session with duplication := none }.holdings ++ owned)) := by
        refine (Capture.ledger_release (.duplication duplication.output)).weaken ?_
          (fun _ _ _ h => h)
        intro past device hledger
        simpa [holdings, duplicationHoldings, previewHoldings, hduplication] using hledger
      refine Triple.bind hreleased ?_
      intro _
      exact Triple.pure fun _ _ h => h
    · exact hshown
    · refine Triple.bind (session.ledger_takeFrame duplication resource) ?_
      intro session'
      exact Triple.pure fun _ _ h => h

theorem ledger_setPreviewVisible (session : Session) (visible : Bool) :
    Triple (Ledger owned) (session.setPreviewVisible visible)
      (fun session' past device =>
        Ledger owned past device ∧ session'.holdings = session.holdings) := by
  unfold setPreviewVisible
  rcases hpreview : session.preview with _ | preview
  · exact Triple.pure fun _ _ h => ⟨h, rfl⟩
  · refine Triple.bind (preview.ledger_setVisible visible) ?_
    intro shown
    apply Triple.pure
    rintro past device ⟨hledger, hholdings⟩
    refine ⟨hledger, ?_⟩
    simp [holdings, duplicationHoldings, previewHoldings, hpreview, hholdings]

theorem ledger_release (session : Session) :
    Triple (Ledger (session.holdings ++ owned)) session.release
      (fun _ => Ledger owned) := by
  have hduplication : ∀ others, Triple (Ledger (session.duplicationHoldings ++ others))
      (session.duplication.elim (pure ()) fun duplication =>
        Capture.release (.duplication duplication.output))
      (fun _ => Ledger others) := by
    intro others
    unfold duplicationHoldings
    rcases session.duplication with _ | duplication
    · exact Triple.pure fun _ _ h => h
    · exact Capture.ledger_release (.duplication duplication.output)
  rw [release_eq, holdings, List.append_assoc, List.append_assoc]
  refine Triple.bind (hduplication _) fun _ => ?_
  refine Triple.bind session.cache.ledger_release fun _ => ?_
  unfold previewHoldings
  rcases session.preview with _ | preview
  · exact Triple.pure fun _ _ h => h
  · refine preview.ledger_release.weaken ?_ (fun _ _ _ h => h)
    intro past device hledger
    simpa using hledger

end Session
end DesktopCapture
