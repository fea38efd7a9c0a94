import DesktopCapture.Proofs.Aside
import DesktopCapture.Proofs.Locality

/-!
# What operations inherit from their calls

Every operation is composed of the same calls, releases and notices, whatever the
calls answer.  A property of actions that composition keeps is one of operations as
soon as it is one of these.

To draw counts as one call here, from the save of the bound target to its return:
what is to be said of the target holds at both ends and not in between.  Acquiring
frames and handing them back stand apart, and may be restricted to some monitors,
since only updates do so, each of its own monitor.
-/

namespace DesktopCapture

open Scenario

/-! ## Present cycles -/

namespace Preview

/-- What a draw leaves, given what the drawing itself does. -/
theorem draw_apply (preview : Preview) (texture : Texture) (device : Device) :
    preview.draw texture device =
      let drawn := preview.drawBound texture device
      ⟨drawn.value, drawn.device.restoreTarget device.boundTarget,
        .call .saveTarget (.number device.boundTarget) ::
          (drawn.journal ++ [.call (.restoreTarget device.boundTarget) .done])⟩ := rfl

/-- The device with a swap chain bound, cleared and drawn on. -/
def drawnOn (preview : Preview) (texture : Texture) (device : Device) : Device :=
  { device with
    boundTarget := preview.swapChain.id
    clears := device.clears + 1
    swapChainCopies := device.swapChainCopies ++
      [(preview.swapChain.id, texture.id, .ofSize texture.size)] }

/-- A swap chain that cannot be bound is not drawn on. -/
theorem drawBound_unbound {preview : Preview} {device device' : Device}
    {error : PlatformError} {journal : List Entry}
    (hbind : Capture.bindSwapChain preview.swapChain device = ⟨.error error, device', journal⟩)
    (texture : Texture) :
    preview.drawBound texture device = ⟨.error error, device', journal⟩ := by
  rw [drawBound, Capture.bind_apply, hbind]
  simp

/-- A swap chain that is bound is drawn on and presented. -/
theorem drawBound_bound {preview : Preview} {device : Device} {journal : List Entry}
    (hbind : Capture.bindSwapChain preview.swapChain device =
      ⟨.ok (), { device with boundTarget := preview.swapChain.id }, journal⟩)
    (texture : Texture) :
    preview.drawBound texture device =
      let shown := Capture.present preview.swapChain preview.syncInterval
        (preview.drawnOn texture device)
      ⟨shown.value, shown.device,
        journal ++ .call (.clear preview.swapChain.id clearColor) .done ::
          .call (.copyToSwapChain preview.swapChain.id texture.id (.ofSize texture.size)) .done ::
          shown.journal⟩ := by
  rw [drawBound, Capture.bind_apply, hbind]
  rfl

end Preview

namespace Capture

/-! ## Properties of actions -/

/-- A property that composition keeps, of all calls but those that take frames. -/
structure Composed (holds : {α : Type} → Capture α → Prop) : Prop where
  pure : ∀ {α : Type} (value : α), holds (pure value)
  bind : ∀ {α β : Type} {first : Capture α} {next : α → Capture β}, holds first →
    (∀ value, holds (next value)) → holds (first >>= next)
  notify : ∀ spans notice, holds (notify spans notice)
  endSpan : ∀ spans, holds (endSpan spans)
  release : ∀ object, holds (release object)
  enumOutput : ∀ index, holds (enumOutput index)
  describe : ∀ output, holds (describe output)
  duplicateWithFormats : ∀ output, holds (duplicateWithFormats output offeredFormats)
  duplicate : ∀ output, holds (duplicate output)
  colorInfo : ∀ output, holds (colorInfo output)
  frameTexture : ∀ resource, holds (frameTexture resource)
  createTexture : ∀ size format, holds (createTexture size format)
  copyTexture : ∀ destination source, holds (copyTexture destination source)
  createWindow : ∀ title size, holds (createWindow title size)
  createSwapChain : ∀ window size, holds (createSwapChain window size)
  setVisible : ∀ window visible, holds (setVisible window visible)
  resize : ∀ swapChain size, holds (resize swapChain size)
  draw : ∀ (preview : Preview) texture, holds (preview.draw texture)

/-- A property that composition keeps, also of the calls that take frames from some
monitors. -/
structure Polling (monitors : UInt32 → Prop) (holds : {α : Type} → Capture α → Prop) :
    Prop extends Composed holds where
  acquire : ∀ duplication, monitors duplication.output → holds (acquire duplication 0)
  releaseFrame : ∀ duplication, monitors duplication.output → holds (releaseFrame duplication)

end Capture

/-! ## Plain calls -/

/-- The entries that neither take a frame nor are of a present cycle. -/
def Entry.isPlain : Entry → Bool
  | .call (.acquire ..) _ | .call (.releaseFrame _) _ | .call .saveTarget _ => false
  | .call (.bind _) _ | .call (.clear ..) _ | .call (.copyToSwapChain ..) _ => false
  | .call (.present ..) _ | .call (.restoreTarget _) _ => false
  | _ => true

/-- A later device with the same frames held, the same faults in handing them back, and
the same target and presents. -/
structure Device.Spares (device device' : Device) : Prop where
  heldFrames : device'.heldFrames = device.heldFrames
  releaseFaults : device'.faults.platform .releaseFrame = device.faults.platform .releaseFrame
  boundTarget : device'.boundTarget = device.boundTarget
  restores : device'.restores = device.restores
  presents : device'.presents = device.presents

theorem Device.Spares.refl (device : Device) : device.Spares device :=
  ⟨rfl, rfl, rfl, rfl, rfl⟩

namespace Capture

/-- An action of one entry that is plain. -/
def IsPlain {α : Type} (action : Capture α) : Prop := ∀ device : Device,
  (∃ entry, (action device).journal = [entry] ∧ entry.isPlain = true) ∧
    device.Spares (action device).device

theorem IsPlain.fallible {α : Type} {point : FaultPoint} {call : Call} {answer : α → Answer}
    {act : Device → Except PlatformError (α × Device)} (hpoint : point ≠ .releaseFrame)
    (hcall : ∀ given, (Entry.call call given).isPlain = true)
    (hact : ∀ device value device', act device = .ok (value, device') →
      device.Spares device') :
    IsPlain (fallible point call answer act) := by
  intro device
  unfold Capture.fallible
  cases htake : device.faults.take? point with
  | some taken =>
      obtain ⟨error, faults⟩ := taken
      exact ⟨⟨_, rfl, hcall _⟩, rfl, Faults.take?_platform htake hpoint.symm, rfl, rfl, rfl⟩
  | none =>
      cases hdone : act device with
      | error error => exact ⟨⟨_, rfl, hcall _⟩, .refl device⟩
      | ok done => exact ⟨⟨_, rfl, hcall _⟩, hact device done.1 done.2 hdone⟩

/-- A property that composition keeps, of plain actions and of draws, is one of all calls
but those that take frames. -/
theorem Composed.of_plain {holds : {α : Type} → Capture α → Prop}
    (hpure : ∀ {α : Type} (value : α), holds (Pure.pure value))
    (hbind : ∀ {α β : Type} {first : Capture α} {next : α → Capture β}, holds first →
      (∀ value, holds (next value)) → holds (first >>= next))
    (hplain : ∀ {α : Type} {action : Capture α}, action.IsPlain → holds action)
    (hdraw : ∀ (preview : Preview) texture, holds (preview.draw texture)) :
    Composed holds where
  pure := hpure
  bind := hbind
  notify := fun _ _ => hplain fun device => ⟨⟨_, rfl, rfl⟩, .refl device⟩
  endSpan := fun _ => hplain fun device => ⟨⟨_, rfl, rfl⟩, .refl device⟩
  release := fun _ => hplain fun _ => ⟨⟨_, rfl, rfl⟩, rfl, rfl, rfl, rfl, rfl⟩
  enumOutput := by
    intro index
    refine hplain (.fallible nofun (fun _ => rfl) fun device found device' hact => ?_)
    obtain ⟨-, -, rfl⟩ := Device.enumOutput_ok hact
    exact .refl device'
  describe := by
    intro output
    refine hplain (.fallible nofun (fun _ => rfl) fun device description device' hact => ?_)
    obtain ⟨-, -, rfl⟩ := Device.describe_ok hact
    exact .refl device'
  duplicateWithFormats := by
    intro output
    refine hplain (.fallible nofun (fun _ => rfl) fun device duplication device' hact => ?_)
    obtain ⟨-, -, rfl⟩ | ⟨-, -, -, rfl⟩ := Device.duplicateWithFormats_ok hact
    · exact .refl device'
    · exact ⟨rfl, rfl, rfl, rfl, rfl⟩
  duplicate := by
    intro output
    refine hplain (.fallible nofun (fun _ => rfl) fun device duplication device' hact => ?_)
    obtain ⟨-, -, rfl⟩ := Device.duplicate_ok hact
    exact ⟨rfl, rfl, rfl, rfl, rfl⟩
  colorInfo := by
    intro output
    refine hplain (.fallible nofun (fun _ => rfl) fun device color device' hact => ?_)
    obtain ⟨-, -, rfl⟩ := Device.colorInfo_ok hact
    exact .refl device'
  frameTexture := by
    intro resource
    refine hplain (.fallible nofun (fun _ => rfl) fun device texture device' hact => ?_)
    obtain ⟨size, format, -, -, rfl⟩ := Device.frameTexture_ok hact
    exact ⟨rfl, rfl, rfl, rfl, rfl⟩
  createTexture := by
    intro size format
    refine hplain (.fallible nofun (fun _ => rfl) fun device texture device' hact => ?_)
    obtain ⟨-, -, rfl⟩ := Device.createTexture_ok hact
    exact ⟨rfl, rfl, rfl, rfl, rfl⟩
  copyTexture := fun _ _ => hplain fun _ => ⟨⟨_, rfl, rfl⟩, rfl, rfl, rfl, rfl, rfl⟩
  createWindow := by
    intro title size
    refine hplain (.fallible nofun (fun _ => rfl) fun device window device' hact => ?_)
    obtain ⟨-, -, rfl⟩ := Device.createWindow_ok hact
    exact ⟨rfl, rfl, rfl, rfl, rfl⟩
  createSwapChain := by
    intro window size
    refine hplain (.fallible nofun (fun _ => rfl) fun device swapChain device' hact => ?_)
    obtain ⟨-, -, rfl⟩ := Device.createSwapChain_ok hact
    exact ⟨rfl, rfl, rfl, rfl, rfl⟩
  setVisible := fun _ _ =>
    hbind (hplain fun device => ⟨⟨_, rfl, rfl⟩, .refl device⟩) fun _ => hpure _
  resize := by
    intro swapChain size
    refine hplain (.fallible nofun (fun _ => rfl) fun device resized device' hact => ?_)
    obtain ⟨-, -, rfl⟩ := Device.resize_ok hact
    exact .refl device'
  draw := hdraw

namespace Composed

variable {holds : {α : Type} → Capture α → Prop}

/-! ## Questions about the outputs -/

theorem output (h : Composed holds) (index : UInt32) : holds (Adapter.output index) := by
  refine h.bind (h.enumOutput index) ?_
  rintro (error | _ | output)
  · exact h.pure _
  · exact h.pure _
  · exact h.pure _

theorem monitorInfo (h : Composed holds) (index : UInt32) :
    holds (Duplicator.monitorInfo index) := by
  refine h.bind (h.output index) ?_
  rintro (error | output)
  · exact h.pure _
  · refine h.bind (h.describe output) ?_
    rintro (error | description)
    · exact h.pure _
    · exact h.pure _

theorem monitorsFrom (h : Composed holds) (limit : Nat) (index : UInt32) :
    holds (Adapter.monitorsFrom limit index) := by
  induction limit generalizing index with
  | zero => exact h.pure _
  | succ limit ih =>
      refine h.bind (h.enumOutput index) ?_
      rintro (error | _ | output)
      · exact h.pure _
      · exact h.pure _
      · refine h.bind (h.describe output) ?_
        rintro (error | description)
        · exact h.pure _
        · exact h.bind (ih (index + 1)) fun others => h.pure _

theorem indexFrom (h : Composed holds) (monitor : MonitorHandle) (limit : Nat)
    (index : UInt32) : holds (Adapter.indexFrom monitor limit index) := by
  induction limit generalizing index with
  | zero => exact h.pure _
  | succ limit ih =>
      refine h.bind (h.enumOutput index) ?_
      rintro (error | _ | output)
      · exact h.bind (h.notify _ _) fun _ => h.pure _
      · exact h.pure _
      · refine h.bind (h.describe output) ?_
        rintro (error | description)
        · exact h.bind (h.notify _ _) fun _ => ih (index + 1)
        · dsimp only
          split
          · exact h.pure _
          · exact ih (index + 1)

/-! ## Sessions -/

theorem openDuplication (h : Composed holds) (spans : List Span) (output : Output) :
    holds (Session.openDuplication spans output) := by
  refine h.bind (h.duplicateWithFormats output) ?_
  rintro (error | _ | duplication)
  · exact h.pure _
  · refine h.bind (h.notify _ _) fun _ => h.bind (h.duplicate output) ?_
    rintro (error | duplication)
    · exact h.pure _
    · exact h.pure _
  · refine h.bind (h.colorInfo output) ?_
    rintro (error | color)
    · exact h.bind (h.notify _ _) fun _ => h.pure _
    · exact h.pure _

theorem assemble (h : Composed holds) (size : Size) (title : String) :
    holds (Preview.assemble size title) := by
  refine h.bind (h.createWindow title size) ?_
  rintro (error | window)
  · exact h.pure _
  · refine h.bind (h.createSwapChain window size) ?_
    rintro (error | swapChain)
    · exact h.bind (h.release _) fun _ => h.pure _
    · exact h.bind (h.setVisible window true) fun _ => h.pure _

theorem createPreview (h : Composed holds) (outer : List Span) (monitor : MonitorInfo)
    (title : String) : holds (Preview.create outer monitor title) := by
  refine h.bind (h.assemble monitor.size.half title) fun made => ?_
  have hended : holds (do Capture.endSpan (outer ++ [.previewCreation]); Pure.pure made) :=
    h.bind (h.endSpan _) fun _ => h.pure _
  cases made with
  | ok preview => exact hended
  | error error => exact h.bind (h.notify _ _) fun _ => hended

theorem openPreview (h : Composed holds) (spans : List Span) (output : Output)
    (title : String) : holds (Session.openPreview spans output title) := by
  refine h.bind (h.describe output) ?_
  rintro (error | description)
  · exact h.bind (h.notify _ _) fun _ => h.pure _
  · refine h.bind (h.createPreview spans _ title) ?_
    rintro (error | preview)
    · exact h.bind (h.notify _ _) fun _ => h.pure _
    · exact h.pure _

theorem startWithin (h : Composed holds) (spans : List Span) (index : UInt32)
    (config : SessionConfig) : holds (Session.startWithin spans index config) := by
  refine h.bind (h.output index) ?_
  rintro (error | output)
  · exact h.pure _
  · refine h.bind (h.openDuplication spans output) ?_
    rintro (error | ⟨duplication, color⟩)
    · exact h.pure _
    · dsimp only
      split
      · exact h.bind (h.openPreview spans output config.title) fun preview =>
          h.bind (h.notify _ _) fun _ => h.pure _
      · exact h.bind (h.pure none) fun preview => h.bind (h.notify _ _) fun _ => h.pure _

theorem start (h : Composed holds) (index : UInt32) (config : SessionConfig) :
    holds (Session.start index config) := by
  refine h.bind (h.startWithin _ index config) fun started => ?_
  have hended : holds (do Capture.endSpan [.sessionStart index]; Pure.pure started) :=
    h.bind (h.endSpan _) fun _ => h.pure _
  cases started with
  | ok session => exact hended
  | error error => exact h.bind (h.notify _ _) fun _ => hended

theorem releaseCache (h : Composed holds) (cache : FrameCache) : holds cache.release := by
  unfold FrameCache.release
  cases cache.texture with
  | none => exact h.pure _
  | some texture => exact h.release _

theorem ingest (h : Composed holds) (cache : FrameCache) (source : Texture) (hdr : Bool) :
    holds (cache.ingest source hdr) := by
  have hfilled : ∀ cache' : FrameCache, holds (do cache'.fill source; Pure.pure cache') := by
    intro cache'
    refine h.bind ?_ fun _ => h.pure _
    unfold FrameCache.fill
    cases cache'.texture with
    | none => exact h.pure _
    | some texture => exact h.copyTexture _ _
  have hreallocated : holds (cache.reallocate source hdr) := by
    refine h.bind (h.releaseCache cache) fun _ => h.bind (h.notify _ _) fun _ => ?_
    refine h.bind (h.createTexture _ _) ?_
    rintro (error | texture)
    · exact h.bind (h.notify _ _) fun _ => h.pure _
    · exact h.pure _
  unfold FrameCache.ingest
  split
  · exact h.bind (h.pure cache) hfilled
  · exact h.bind hreallocated hfilled

theorem fitSurface (h : Composed holds) (preview : Preview) : holds preview.fitSurface := by
  unfold Preview.fitSurface
  split
  · exact h.pure _
  · refine h.bind (h.resize _ _) ?_
    rintro (error | swapChain)
    · exact h.pure _
    · exact h.pure _

theorem presentPreview (h : Composed holds) (preview : Preview) (texture : Option Texture) :
    holds (preview.present texture) := by
  unfold Preview.present
  cases texture with
  | none => exact h.pure _
  | some texture =>
      dsimp only
      split
      · refine h.bind (h.fitSurface preview) ?_
        rintro (error | fitted)
        · exact h.pure _
        · exact h.bind (h.draw fitted texture) fun _ => h.pure _
      · exact h.pure _

theorem present (h : Composed holds) (session : Session) : holds session.present := by
  unfold Session.present
  cases session.preview with
  | none => exact h.pure _
  | some preview =>
      refine h.bind (h.presentPreview preview session.texture) ?_
      rintro ⟨error | _, preview'⟩
      · exact h.bind (h.notify _ _) fun _ => h.pure _
      · exact h.bind (h.pure _) fun _ => h.pure _

theorem setPreviewVisible (h : Composed holds) (session : Session) (visible : Bool) :
    holds (session.setPreviewVisible visible) := by
  unfold Session.setPreviewVisible
  cases session.preview with
  | none => exact h.pure _
  | some preview =>
      exact h.bind (h.bind (h.setVisible _ _) fun _ => h.pure _) fun _ => h.pure _

theorem releaseSession (h : Composed holds) (session : Session) : holds session.release := by
  rw [Session.release_eq]
  refine h.bind ?_ fun _ => h.bind (h.releaseCache session.cache) fun _ => ?_
  · cases session.duplication with
    | none => exact h.pure _
    | some duplication => exact h.release _
  · cases session.preview with
    | none => exact h.pure _
    | some preview => exact h.bind (h.release _) fun _ => h.release _

theorem releaseSessions (h : Composed holds) (sessions : List Session) :
    holds (Registry.releaseSessions sessions) := by
  induction sessions with
  | nil => exact h.pure _
  | cons session others ih => exact h.bind (h.releaseSession session) fun _ => ih

/-! ## Operations on a monitor -/

theorem createSeat (h : Composed holds) (config : SessionConfig) (index : UInt32)
    (seat : Seat) : holds (Seat.create config index seat) := by
  cases seat with
  | some session => exact h.pure _
  | none =>
      refine h.bind (h.start index config) ?_
      rintro ((other | error | _ | _) | session)
      · exact h.bind (h.notify _ _) fun _ => h.pure _
      · exact h.bind (h.notify _ _) fun _ => h.pure _
      · exact h.bind (h.notify _ _) fun _ => h.pure _
      · exact h.bind (h.notify _ _) fun _ => h.pure _
      · exact h.pure _

/-- A property of the calls is one of every use of a handle, if it is one of the updates
of its session. -/
theorem useSeat (h : Composed holds) (index : UInt32) (seat : Seat) (usage : HandleUse)
    (hupdate : usage = .update → ∀ session, seat = some session → holds session.update) :
    holds (seat.use index usage) := by
  cases usage with
  | destroy =>
      refine h.bind ?_ fun _ => h.pure _
      cases seat with
      | none => exact h.bind (h.notify _ _) fun _ => h.pure _
      | some session =>
          dsimp only [Seat.destroy]
          split
          · exact h.bind (h.notify _ _) fun _ =>
              h.bind (h.releaseSession session) fun _ => h.pure _
          · exact h.pure _
  | update =>
      refine h.bind ?_ fun _ => h.pure _
      cases seat with
      | none => exact h.pure _
      | some session => exact h.bind (hupdate rfl session rfl) fun _ => h.pure _
  | setVisible visible =>
      refine h.bind ?_ fun _ => h.pure _
      cases seat with
      | none => exact h.pure _
      | some session => exact h.bind (h.setPreviewVisible session visible) fun _ => h.pure _
  | window step =>
      unfold Seat.use
      dsimp only
      split
      · exact h.pure _
      · exact h.pure _
  | _ => exact h.pure _

theorem perform (h : Composed holds) (config : SessionConfig) (index : UInt32) (cell : Cell)
    (operation : Operation)
    (hupdate : operation = .use .update → ∀ session, cell.session = some session →
      holds session.update) :
    holds (cell.perform config index operation) := by
  cases operation with
  | create => exact h.bind (h.createSeat config index cell.session) fun _ => h.pure _
  | use usage =>
      unfold Cell.perform
      cases cell.handle with
      | none => exact h.pure _
      | some handle =>
          refine h.bind (h.useSeat index cell.session usage ?_) fun _ => h.pure _
          rintro rfl
          exact hupdate rfl

/-! ## Steps -/

/-- Whatever a step does to the device, unless the world takes it, is done by an action
with the property, if updates have it or the step is none. -/
theorem step (h : Composed holds) (state : DuplicatorState) {taken : DuplicatorStep}
    (htaken : ∀ change, taken ≠ .world change)
    (hupdate : ∀ index, taken = .use index .update → ∀ session : Session, holds session.update) :
    ∃ (α : Type) (action : Capture α), holds action ∧
      (state.step taken).1.journal = (action state.device).journal ∧
      (state.step taken).2.device = (action state.device).device := by
  have hnothing : ∃ (α : Type) (action : Capture α), holds action ∧
      [] = (action state.device).journal ∧ state.device = (action state.device).device :=
    ⟨Unit, Pure.pure (), h.pure (), rfl, rfl⟩
  rcases state with ⟨device, _ | duplicator, handles⟩
  · cases taken with
    | world change => exact absurd rfl (htaken change)
    | _ => exact hnothing
  · cases taken with
    | world change => exact absurd rfl (htaken change)
    | inspect => exact hnothing
    | count => exact hnothing
    | boundTarget => exact hnothing
    | resetAll => exact hnothing
    | monitors =>
        refine ⟨_, _, h.monitorsFrom (device.outputs.length + 1) 0, ?_, rfl⟩
        exact (List.append_nil _).trans (List.append_nil _)
    | monitorIndex monitor =>
        refine ⟨_, _, h.indexFrom monitor (device.outputs.length + 1) 0, ?_, rfl⟩
        exact List.append_nil _
    | monitorInfo index =>
        refine ⟨_, _, h.monitorInfo index, ?_, rfl⟩
        exact List.append_nil _
    | create index =>
        have hcreated := duplicator.createSession_eq index device
        refine ⟨_, _, h.createSeat duplicator.registry.config index
          (duplicator.session? ⟨index⟩), ?_, ?_⟩
        · exact congrArg Traced.journal hcreated
        · exact congrArg Traced.device hcreated
    | use index use =>
        rcases hhandle : handles.get? index with _ | handle
        · simpa only [DuplicatorState.step, hhandle] using hnothing
        · simp only [DuplicatorState.step, hhandle]
          have hused := DuplicatorState.useHandle_eq duplicator handle use device
          refine ⟨_, _, h.useSeat handle.monitor (duplicator.session? handle) use
            fun hused session _ => hupdate index (congrArg _ hused) session, ?_, ?_⟩
          · exact congrArg Traced.journal hused
          · exact congrArg Traced.device hused
    | drop => exact ⟨_, _, h.releaseSessions duplicator.registry.sessions.values, rfl, rfl⟩

end Composed

/-! ## Updates -/

namespace Polling

variable {monitors : UInt32 → Prop} {holds : {α : Type} → Capture α → Prop}

theorem handBack (h : Polling monitors holds) {duplication : Duplication}
    (hmonitor : monitors duplication.output) : holds (Session.handBack duplication) := by
  refine h.bind (h.releaseFrame duplication hmonitor) ?_
  rintro (error | _)
  · exact h.notify _ _
  · exact h.pure _

theorem takeFrame (h : Polling monitors holds) (session : Session) {duplication : Duplication}
    (hmonitor : monitors duplication.output) (resource : FrameResource) :
    holds (session.takeFrame duplication resource) := by
  refine h.bind (h.frameTexture resource) ?_
  rintro (error | texture)
  · exact h.bind (h.notify _ _) fun _ => h.bind (h.handBack hmonitor) fun _ => h.pure _
  · exact h.bind (h.ingest _ _ _) fun cache =>
      h.bind (h.handBack hmonitor) fun _ => h.present _

theorem update (h : Polling monitors holds) {session : Session}
    (hmonitor : ∀ duplication ∈ session.duplication, monitors duplication.output) :
    holds session.update := by
  have hshown : holds (do let session ← session.present; Pure.pure (true, session)) :=
    h.bind (h.present session) fun _ => h.pure _
  unfold Session.update
  cases hduplication : session.duplication with
  | none => exact h.pure _
  | some duplication =>
      have hown := hmonitor duplication hduplication
      refine h.bind (h.acquire duplication hown) ?_
      rintro ((index | error | _ | _) | resource)
      · exact h.bind (h.notify _ _) fun _ => hshown
      · exact h.bind (h.notify _ _) fun _ => hshown
      · exact h.bind (h.notify _ _) fun _ => h.bind (h.release _) fun _ => h.pure _
      · exact hshown
      · exact h.bind (h.takeFrame session hown resource) fun _ => h.pure _

/-- Whatever a step does to the device, unless the world takes it, is done by an
action with the property. -/
theorem step (h : Polling (fun _ => True) holds) (state : DuplicatorState)
    {taken : DuplicatorStep} (htaken : ∀ change, taken ≠ .world change) :
    ∃ (α : Type) (action : Capture α), holds action ∧
      (state.step taken).1.journal = (action state.device).journal ∧
      (state.step taken).2.device = (action state.device).device :=
  h.toComposed.step state htaken fun _ _ _ => h.update fun _ _ => trivial

end Polling
end Capture
end DesktopCapture
