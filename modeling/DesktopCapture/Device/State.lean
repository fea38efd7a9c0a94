import DesktopCapture.Device.Journal

/-!
# The scripted device

The state of the device is its script together with a ledger of what was asked of
it.  All objects are numbered from one counter.  A call that fails leaves the
device as it was, which its type says: only a successful answer comes with a new
state.  The one exception is the acquisition of a frame, which uses up a scripted
outcome even when that outcome is a failure.
-/

namespace DesktopCapture

/-- A present as the device saw it. -/
structure Present where
  swapChain : Nat
  interval : UInt32
  boundTarget : Nat
deriving DecidableEq

/-- The state of the device. -/
structure Device where
  /-- The adapter's outputs in order of their index. -/
  outputs : List OutputConfig
  /-- The index at which enumeration fails. -/
  enumerationFailsAt : Option UInt32
  /-- The outcomes to come of the acquisitions from each output. -/
  frames : UInt32 → List AcquireOutcome
  /-- The calls that fail. -/
  fails : FailingCall → Bool
  /-- New swap chains get no frame latency waitable. -/
  noFrameLatencyWaitable : Bool
  /-- The queued faults. -/
  faults : Faults
  /-- Every release, in order. -/
  releases : List Release
  /-- The formats offered to the last negotiated duplication. -/
  offeredFormats : List NativeFormat
  /-- How many duplications were made without negotiation. -/
  baselineDuplications : Nat
  /-- How many acquisitions reached the device. -/
  acquires : Nat
  /-- How many frames are acquired and not handed back. -/
  heldFrames : Nat
  /-- How many textures were allocated. -/
  texturesCreated : Nat
  /-- How many allocated textures are not released. -/
  liveTextures : Nat
  /-- Destination and source of every texture copy. -/
  copies : List (Nat × Nat)
  /-- Swap chain, source and region of every copy into a swap chain. -/
  swapChainCopies : List (Nat × Nat × Region)
  /-- The bound target. -/
  boundTarget : Nat
  /-- How often a saved target was bound again. -/
  restores : Nat
  /-- How often a swap chain was cleared. -/
  clears : Nat
  /-- Every present. -/
  presents : List Present
  /-- The titles of all windows made. -/
  windowTitles : List String
  /-- The number given out last. -/
  lastId : Nat

/-- The target bound before anything else is. -/
def callerTarget : Nat := 1

/-- A failure the device is scripted to answer with. -/
def scriptedFailure (call : String) : PlatformError := ⟨call, -2005270527⟩

namespace Device

/-- A device that exposes outputs and is scripted with nothing else. -/
def ofOutputs (outputs : List OutputConfig) : Device :=
  { outputs
    enumerationFailsAt := none
    frames := fun _ => []
    fails := fun _ => false
    noFrameLatencyWaitable := false
    faults := .none
    releases := []
    offeredFormats := []
    baselineDuplications := 0
    acquires := 0
    heldFrames := 0
    texturesCreated := 0
    liveTextures := 0
    copies := []
    swapChainCopies := []
    boundTarget := callerTarget
    restores := 0
    clears := 0
    presents := []
    windowTitles := []
    lastId := callerTarget }

/-- Append outcomes to those to come from an output. -/
def pushFrames (device : Device) (index : UInt32) (outcomes : List AcquireOutcome) : Device :=
  { device with frames := fun other =>
      if other = index then device.frames other ++ outcomes else device.frames other }

/-- Make a call fail, or let it succeed again. -/
def setFailing (device : Device) (call : FailingCall) (on : Bool) : Device :=
  { device with fails := fun other => if other = call then on else device.fails other }

/-- The next number. -/
def nextId (device : Device) : Nat := device.lastId + 1

/-- The output of an index, if there is one. -/
def enumOutput (index : UInt32) (device : Device) :
    Except PlatformError (Option Output × Device) :=
  if device.enumerationFailsAt = some index then
    .error (scriptedFailure "MockAdapter::EnumOutputs")
  else .ok ((device.outputs[index.toNat]?).map fun config => ⟨index, config⟩, device)

/-- The descriptor of an output. -/
def describe (output : Output) (device : Device) :
    Except PlatformError (OutputDescription × Device) :=
  if output.config.describable then .ok (output.config.description, device)
  else .error (scriptedFailure "MockOutput::GetDesc")

/-- Duplicate an output with a choice of formats, if the output negotiates. -/
def duplicateWithFormats (output : Output) (formats : List NativeFormat) (device : Device) :
    Except PlatformError (Option Duplication × Device) :=
  if !output.config.negotiates then .ok (none, device)
  else if device.fails .duplication then .error (scriptedFailure "MockOutput::DuplicateOutput1")
  else .ok (some ⟨output.index⟩, { device with offeredFormats := formats })

/-- Duplicate an output in the baseline mode. -/
def duplicate (output : Output) (device : Device) :
    Except PlatformError (Duplication × Device) :=
  if device.fails .duplication then .error (scriptedFailure "MockOutput::DuplicateOutput")
  else .ok (⟨output.index⟩,
    { device with baselineDuplications := device.baselineDuplications + 1 })

/-- The colour information of the monitor at an output. -/
def colorInfo (output : Output) (device : Device) :
    Except PlatformError (ColorInfo × Device) :=
  if device.fails .colorInfo then .error (scriptedFailure "MockOutput::GetDesc1")
  else .ok (output.config.color, device)

/-- The next frame of a duplication.  A frame that arrives is held until it is
handed back. -/
def acquire (duplication : Duplication) (device : Device) :
    Except CaptureError FrameResource × Device :=
  let output := duplication.output
  let used := { device with
    acquires := device.acquires + 1
    frames := fun other =>
      if other = output then (device.frames other).tail else device.frames other }
  let holding := { used with heldFrames := used.heldFrames + 1 }
  match (device.frames output).head? with
  | some (.frame size format) => (.ok (.texture size format), holding)
  | some .notTexture => (.ok .other, holding)
  | some .timeout | none => (.error .timeout, used)
  | some .accessLost => (.error .accessLost, used)
  | some .failure =>
    (.error (.platform (scriptedFailure "MockDuplication::AcquireNextFrame")), used)

/-- Hand a frame back. -/
def releaseFrame (device : Device) : Except PlatformError (Unit × Device) :=
  .ok ((), { device with heldFrames := device.heldFrames - 1 })

/-- The 2D texture of a frame. -/
def frameTexture (resource : FrameResource) (device : Device) :
    Except PlatformError (Texture × Device) :=
  match resource with
  | .texture size format =>
    .ok (⟨device.nextId, size, format⟩, { device with lastId := device.nextId })
  | .other => .error (scriptedFailure "MockResource::cast")

/-- Allocate a texture. -/
def createTexture (size : Size) (format : ColorFormat) (device : Device) :
    Except PlatformError (Texture × Device) :=
  if device.fails .createTexture then .error (scriptedFailure "MockDevice::CreateTexture2D")
  else .ok (⟨device.nextId, size, format.native⟩,
    { device with
      texturesCreated := device.texturesCreated + 1
      liveTextures := device.liveTextures + 1
      lastId := device.nextId })

/-- Copy a texture into another. -/
def copyTexture (destination source : Texture) (device : Device) : Device :=
  { device with copies := device.copies ++ [(destination.id, source.id)] }

/-- Make a hidden window. -/
def createWindow (title : String) (size : Size) (device : Device) :
    Except PlatformError (Window × Device) :=
  if device.fails .createWindow then .error (scriptedFailure "MockDevice::CreateWindowExW")
  else .ok (⟨device.nextId, false, size⟩,
    { device with
      windowTitles := device.windowTitles ++ [title]
      lastId := device.nextId })

/-- Make a swap chain. -/
def createSwapChain (size : Size) (device : Device) :
    Except PlatformError (SwapChain × Device) :=
  if device.fails .createSwapChain then
    .error (scriptedFailure "MockDevice::CreateSwapChainForHwnd")
  else .ok (⟨device.nextId, size, !device.noFrameLatencyWaitable, []⟩,
    { device with lastId := device.nextId })

/-- Resize a swap chain. -/
def resize (swapChain : SwapChain) (size : Size) (device : Device) :
    Except PlatformError (SwapChain × Device) :=
  if device.fails .resize then .error (scriptedFailure "MockSwapChain::ResizeBuffers")
  else .ok ({ swapChain with size, resizes := swapChain.resizes ++ [size] }, device)

/-- Bind a swap chain as the target. -/
def bindSwapChain (swapChain : SwapChain) (device : Device) :
    Except PlatformError (Unit × Device) :=
  if device.fails .bind then .error (scriptedFailure "MockContext::OMSetRenderTargets")
  else .ok ((), { device with boundTarget := swapChain.id })

/-- Clear a swap chain. -/
def clear (device : Device) : Device := { device with clears := device.clears + 1 }

/-- Copy a region of a texture into a swap chain. -/
def copyToSwapChain (swapChain : SwapChain) (source : Texture) (region : Region)
    (device : Device) : Device :=
  { device with
    swapChainCopies := device.swapChainCopies ++ [(swapChain.id, source.id, region)] }

/-- Present a swap chain. -/
def present (swapChain : SwapChain) (interval : UInt32) (device : Device) :
    Except PlatformError (Unit × Device) :=
  if device.fails .present then .error (scriptedFailure "MockSwapChain::Present")
  else .ok ((), { device with
    presents := device.presents ++ [⟨swapChain.id, interval, device.boundTarget⟩] })

/-- Bind a saved target again. -/
def restoreTarget (target : Nat) (device : Device) : Device :=
  { device with boundTarget := target, restores := device.restores + 1 }

/-- Release an object. -/
def release (release : Release) (device : Device) : Device :=
  { device with
    releases := device.releases ++ [release]
    liveTextures := match release with
      | .texture _ => device.liveTextures - 1
      | _ => device.liveTextures }

/-! ## What a call that succeeds did -/

section

variable {device device' : Device}

theorem eq_of_unless_ok {α : Type} {fails : Bool} {error : PlatformError} {done given : α}
    (hact : (if fails = true then Except.error error else .ok done) = .ok given) :
    fails = false ∧ given = done := by
  cases fails with
  | true => cases hact
  | false =>
      cases hact
      exact ⟨rfl, rfl⟩

theorem enumOutput_ok {index : UInt32} {found : Option Output}
    (hact : enumOutput index device = .ok (found, device')) :
    device.enumerationFailsAt ≠ some index ∧
      found = (device.outputs[index.toNat]?).map (fun config => ⟨index, config⟩) ∧
      device' = device := by
  unfold enumOutput at hact
  split at hact
  · cases hact
  · next hfails =>
    cases hact
    exact ⟨hfails, rfl, rfl⟩

theorem describe_ok {output : Output} {description : OutputDescription}
    (hact : describe output device = .ok (description, device')) :
    output.config.describable = true ∧ description = output.config.description ∧
      device' = device := by
  unfold describe at hact
  split at hact
  · next hdescribable =>
    cases hact
    exact ⟨hdescribable, rfl, rfl⟩
  · cases hact

/-- An output that does not negotiate gives no duplication; one that does is
duplicated. -/
theorem duplicateWithFormats_ok {output : Output} {formats : List NativeFormat}
    {duplication : Option Duplication}
    (hact : duplicateWithFormats output formats device = .ok (duplication, device')) :
    (output.config.negotiates = false ∧ duplication = none ∧ device' = device) ∨
      (output.config.negotiates = true ∧ device.fails .duplication = false ∧
        duplication = some ⟨output.index⟩ ∧
        device' = { device with offeredFormats := formats }) := by
  unfold duplicateWithFormats at hact
  split at hact
  · next hbaseline =>
    cases hact
    exact .inl ⟨by simpa using hbaseline, rfl, rfl⟩
  · next hnegotiates =>
    split at hact
    · cases hact
    · next hfails =>
      cases hact
      exact .inr ⟨by simpa using hnegotiates, by simpa using hfails, rfl, rfl⟩

theorem duplicate_ok {output : Output} {duplication : Duplication}
    (hact : duplicate output device = .ok (duplication, device')) :
    device.fails .duplication = false ∧ duplication = ⟨output.index⟩ ∧
      device' = { device with
        baselineDuplications := device.baselineDuplications + 1 } := by
  obtain ⟨hfails, hdone⟩ := eq_of_unless_ok hact
  cases hdone
  exact ⟨hfails, rfl, rfl⟩

theorem colorInfo_ok {output : Output} {color : ColorInfo}
    (hact : colorInfo output device = .ok (color, device')) :
    device.fails .colorInfo = false ∧ color = output.config.color ∧ device' = device := by
  obtain ⟨hfails, hdone⟩ := eq_of_unless_ok hact
  cases hdone
  exact ⟨hfails, rfl, rfl⟩

/-- Whatever an acquisition delivers, it is counted and uses up an outcome. -/
theorem acquire_device (duplication : Duplication) (device : Device) :
    ∃ heldFrames, (device.acquire duplication).2 = { device with
      acquires := device.acquires + 1
      frames := fun other =>
        if other = duplication.output then (device.frames other).tail
        else device.frames other
      heldFrames } := by
  unfold acquire
  dsimp only
  split <;> exact ⟨_, rfl⟩

theorem frameTexture_ok {resource : FrameResource} {texture : Texture}
    (hact : frameTexture resource device = .ok (texture, device')) :
    ∃ size format, resource = .texture size format ∧
      texture = ⟨device.nextId, size, format⟩ ∧
      device' = { device with lastId := device.nextId } := by
  unfold frameTexture at hact
  split at hact
  · next size format =>
    cases hact
    exact ⟨size, format, rfl, rfl, rfl⟩
  · cases hact

theorem createTexture_ok {size : Size} {format : ColorFormat} {texture : Texture}
    (hact : createTexture size format device = .ok (texture, device')) :
    device.fails .createTexture = false ∧
      texture = ⟨device.nextId, size, format.native⟩ ∧
      device' = { device with
        texturesCreated := device.texturesCreated + 1
        liveTextures := device.liveTextures + 1
        lastId := device.nextId } := by
  obtain ⟨hfails, hdone⟩ := eq_of_unless_ok hact
  cases hdone
  exact ⟨hfails, rfl, rfl⟩

theorem createWindow_ok {title : String} {size : Size} {window : Window}
    (hact : createWindow title size device = .ok (window, device')) :
    device.fails .createWindow = false ∧ window = ⟨device.nextId, false, size⟩ ∧
      device' = { device with
        windowTitles := device.windowTitles ++ [title]
        lastId := device.nextId } := by
  obtain ⟨hfails, hdone⟩ := eq_of_unless_ok hact
  cases hdone
  exact ⟨hfails, rfl, rfl⟩

theorem createSwapChain_ok {size : Size} {swapChain : SwapChain}
    (hact : createSwapChain size device = .ok (swapChain, device')) :
    device.fails .createSwapChain = false ∧
      swapChain = ⟨device.nextId, size, !device.noFrameLatencyWaitable, []⟩ ∧
      device' = { device with lastId := device.nextId } := by
  obtain ⟨hfails, hdone⟩ := eq_of_unless_ok hact
  cases hdone
  exact ⟨hfails, rfl, rfl⟩

theorem resize_ok {swapChain resized : SwapChain} {size : Size}
    (hact : resize swapChain size device = .ok (resized, device')) :
    device.fails .resize = false ∧
      resized = { swapChain with size, resizes := swapChain.resizes ++ [size] } ∧
      device' = device := by
  obtain ⟨hfails, hdone⟩ := eq_of_unless_ok hact
  cases hdone
  exact ⟨hfails, rfl, rfl⟩

theorem bindSwapChain_ok {swapChain : SwapChain} {value : Unit}
    (hact : bindSwapChain swapChain device = .ok (value, device')) :
    device.fails .bind = false ∧ device' = { device with boundTarget := swapChain.id } := by
  obtain ⟨hfails, hdone⟩ := eq_of_unless_ok hact
  cases hdone
  exact ⟨hfails, rfl⟩

theorem present_ok {swapChain : SwapChain} {interval : UInt32} {value : Unit}
    (hact : present swapChain interval device = .ok (value, device')) :
    device.fails .present = false ∧ device' = { device with
      presents := device.presents ++ [⟨swapChain.id, interval, device.boundTarget⟩] } := by
  obtain ⟨hfails, hdone⟩ := eq_of_unless_ok hact
  cases hdone
  exact ⟨hfails, rfl⟩

end

end Device
end DesktopCapture
