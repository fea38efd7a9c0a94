import DesktopCapture.Proofs.Aside
import DesktopCapture.Proofs.Composed
import DesktopCapture.Proofs.Ledger

/-!
# The device replayed

While no fault is queued, a journal says all that happens to the device: the device
that an operation leaves is the one it found, taken through the entries that the
operation wrote.  What two operations did to the device can so be compared by their
journals alone.

An entry is replayed as it is seen between present cycles.  Within one a target is
bound and returned, and the swap chain that is presented is the one that is bound.
-/

namespace DesktopCapture

open Capture

/-! ## What entries say -/

namespace Entry

/-- The monitor that an entry polls for a frame. -/
def polled? : Entry → Option UInt32
  | .call (.acquire output _) _ => some output
  | _ => none

/-- The monitor whose frame an entry takes or hands back. -/
def handled? : Entry → Option UInt32
  | .call (.acquire output _) _ | .call (.releaseFrame output) _ => some output
  | _ => none

theorem handled?_of_polled? {entry : Entry} {monitor : UInt32}
    (hpolled : entry.polled? = some monitor) : entry.handled? = some monitor := by
  unfold polled? at hpolled
  split at hpolled
  · exact hpolled
  · cases hpolled

/-- The entries that give out a number. -/
def isNumbering : Entry → Bool
  | .call .frameTexture (.texture _) | .call (.createTexture ..) (.texture _) => true
  | .call (.createWindow ..) (.number _) | .call (.createSwapChain ..) (.number _) => true
  | _ => false

/-- The duplications that were offered formats. -/
def isNegotiation : Entry → Bool
  | .call (.duplicateWithFormats ..) .done => true
  | _ => false

/-- The duplications in the baseline mode. -/
def isBaseline : Entry → Bool
  | .call (.duplicate _) .done => true
  | _ => false

/-- The allocations of textures. -/
def isAllocation : Entry → Bool
  | .call (.createTexture ..) (.texture _) => true
  | _ => false

def isPoll : Entry → Bool
  | .call (.acquire ..) _ => true
  | _ => false

def isRestore : Entry → Bool
  | .call (.restoreTarget _) _ => true
  | _ => false

def isClear : Entry → Bool
  | .call (.clear ..) _ => true
  | _ => false

/-- The destination and the source of a texture copy. -/
def copied? : Entry → Option (Nat × Nat)
  | .call (.copyTexture destination source) _ => some (destination, source)
  | _ => none

/-- What was copied into a swap chain. -/
def drawn? : Entry → Option (Nat × Nat × Region)
  | .call (.copyToSwapChain swapChain source region) _ => some (swapChain, source, region)
  | _ => none

/-- The present that the device saw. -/
def presented? : Entry → Option Present
  | .call (.present swapChain interval) .done => some ⟨swapChain, interval, swapChain⟩
  | _ => none

/-- The title of a window that was made. -/
def titled? : Entry → Option String
  | .call (.createWindow title _) (.number _) => some title
  | _ => none

end Entry

/-! ## The replay -/

namespace Device

/-- Two devices with the same outputs, the same failing calls, the same queued faults and
the same bound target. -/
structure SameSetting (device device' : Device) : Prop where
  outputs : device'.outputs = device.outputs
  enumerationFailsAt : device'.enumerationFailsAt = device.enumerationFailsAt
  fails : device'.fails = device.fails
  noFrameLatencyWaitable : device'.noFrameLatencyWaitable = device.noFrameLatencyWaitable
  faults : device'.faults = device.faults
  boundTarget : device'.boundTarget = device.boundTarget

namespace SameSetting

theorem symm {device device' : Device} (hsetting : device.SameSetting device') :
    device'.SameSetting device where
  outputs := hsetting.outputs.symm
  enumerationFailsAt := hsetting.enumerationFailsAt.symm
  fails := hsetting.fails.symm
  noFrameLatencyWaitable := hsetting.noFrameLatencyWaitable.symm
  faults := hsetting.faults.symm
  boundTarget := hsetting.boundTarget.symm

theorem trans {first second third : Device} (hbefore : first.SameSetting second)
    (hafter : second.SameSetting third) : first.SameSetting third where
  outputs := hafter.outputs.trans hbefore.outputs
  enumerationFailsAt := hafter.enumerationFailsAt.trans hbefore.enumerationFailsAt
  fails := hafter.fails.trans hbefore.fails
  noFrameLatencyWaitable :=
    hafter.noFrameLatencyWaitable.trans hbefore.noFrameLatencyWaitable
  faults := hafter.faults.trans hbefore.faults
  boundTarget := hafter.boundTarget.trans hbefore.boundTarget

end SameSetting

/-- The device after an entry. -/
def replay (device : Device) : Entry → Device
  | .call (.duplicateWithFormats ..) .done =>
    { device with offeredFormats := DesktopCapture.offeredFormats }
  | .call (.duplicate _) .done =>
    { device with baselineDuplications := device.baselineDuplications + 1 }
  | .call (.acquire output _) answer =>
    { device with
      acquires := device.acquires + 1
      frames := fun other =>
        if other = output then (device.frames other).tail else device.frames other
      heldFrames := if answer = .done then device.heldFrames + 1 else device.heldFrames }
  | .call (.releaseFrame _) .done => { device with heldFrames := device.heldFrames - 1 }
  | .call .frameTexture (.texture _) => { device with lastId := device.nextId }
  | .call (.createTexture ..) (.texture _) =>
    { device with
      texturesCreated := device.texturesCreated + 1
      liveTextures := device.liveTextures + 1
      lastId := device.nextId }
  | .call (.copyTexture destination source) _ =>
    { device with copies := device.copies ++ [(destination, source)] }
  | .call (.createWindow title _) (.number _) =>
    { device with windowTitles := device.windowTitles ++ [title], lastId := device.nextId }
  | .call (.createSwapChain ..) (.number _) => { device with lastId := device.nextId }
  | .call (.clear ..) _ => { device with clears := device.clears + 1 }
  | .call (.copyToSwapChain swapChain source region) _ =>
    { device with
      swapChainCopies := device.swapChainCopies ++ [(swapChain, source, region)] }
  | .call (.present swapChain interval) .done =>
    { device with presents := device.presents ++ [⟨swapChain, interval, swapChain⟩] }
  | .call (.restoreTarget _) _ => { device with restores := device.restores + 1 }
  | .release object => device.release object
  | _ => device

/-- What an entry does to each field of the device. -/
theorem replay_eq (device : Device) (entry : Entry) : device.replay entry =
    { device with
      frames := fun other =>
        if entry.polled? = some other then (device.frames other).tail else device.frames other
      releases := device.releases ++ entry.released?.toList
      offeredFormats :=
        if entry.isNegotiation then DesktopCapture.offeredFormats else device.offeredFormats
      baselineDuplications := device.baselineDuplications + entry.isBaseline.toNat
      acquires := device.acquires + entry.isPoll.toNat
      heldFrames := (device.replay entry).heldFrames
      texturesCreated := device.texturesCreated + entry.isAllocation.toNat
      liveTextures := (device.replay entry).liveTextures
      copies := device.copies ++ entry.copied?.toList
      swapChainCopies := device.swapChainCopies ++ entry.drawn?.toList
      restores := device.restores + entry.isRestore.toNat
      clears := device.clears + entry.isClear.toNat
      presents := device.presents ++ entry.presented?.toList
      windowTitles := device.windowTitles ++ entry.titled?.toList
      lastId := device.lastId + entry.isNumbering.toNat } := by
  rcases entry with ⟨call, answer⟩ | object | _ | _
  · cases call <;> cases answer <;> simp [replay, nextId, eq_comm, Entry.polled?,
      Entry.released?, Entry.isNegotiation, Entry.isBaseline, Entry.isPoll, Entry.isAllocation,
      Entry.copied?, Entry.drawn?, Entry.isRestore, Entry.isClear, Entry.presented?,
      Entry.titled?, Entry.isNumbering]
  all_goals simp [replay, release, Entry.polled?, Entry.released?, Entry.isNegotiation,
    Entry.isBaseline, Entry.isPoll, Entry.isAllocation, Entry.copied?, Entry.drawn?,
    Entry.isRestore, Entry.isClear, Entry.presented?, Entry.titled?, Entry.isNumbering]

/-- A field that no entry changes. -/
theorem foldl_replay_same {β : Type} (field : Device → β)
    (hentry : ∀ device entry, field (device.replay entry) = field device)
    (journal : List Entry) (device : Device) :
    field (journal.foldl replay device) = field device := by
  induction journal generalizing device with
  | nil => rfl
  | cons entry rest ih => rw [List.foldl_cons, ih, hentry]

/-- A field that counts entries of a kind. -/
theorem foldl_replay_count (field : Device → Nat) (counted : Entry → Bool)
    (hentry : ∀ device entry,
      field (device.replay entry) = field device + (counted entry).toNat)
    (journal : List Entry) (device : Device) :
    field (journal.foldl replay device) = field device + journal.countP counted := by
  induction journal generalizing device with
  | nil => rfl
  | cons entry rest ih =>
      rw [List.foldl_cons, ih, hentry, List.countP_cons]
      cases counted entry with
      | true => exact Nat.add_right_comm _ _ _
      | false => rfl

/-- A field that lists what entries say. -/
theorem foldl_replay_list {β : Type} (field : Device → List β) (listed : Entry → Option β)
    (hentry : ∀ device entry,
      field (device.replay entry) = field device ++ (listed entry).toList)
    (journal : List Entry) (device : Device) :
    field (journal.foldl replay device) = field device ++ journal.filterMap listed := by
  induction journal generalizing device with
  | nil => simp
  | cons entry rest ih =>
      rw [List.foldl_cons, ih, hentry, List.append_assoc]
      cases hlisted : listed entry <;> simp [hlisted]

/-- No entry changes the setting of a device. -/
theorem sameSetting_replay (journal : List Entry) (device : Device) :
    device.SameSetting (journal.foldl replay device) where
  outputs := foldl_replay_same Device.outputs (fun _ _ => by rw [replay_eq]) journal device
  enumerationFailsAt :=
    foldl_replay_same Device.enumerationFailsAt (fun _ _ => by rw [replay_eq]) journal device
  fails := foldl_replay_same Device.fails (fun _ _ => by rw [replay_eq]) journal device
  noFrameLatencyWaitable :=
    foldl_replay_same Device.noFrameLatencyWaitable (fun _ _ => by rw [replay_eq]) journal device
  faults := foldl_replay_same Device.faults (fun _ _ => by rw [replay_eq]) journal device
  boundTarget :=
    foldl_replay_same Device.boundTarget (fun _ _ => by rw [replay_eq]) journal device

theorem foldl_replay_lastId (journal : List Entry) (device : Device) :
    (journal.foldl replay device).lastId =
      device.lastId + journal.countP Entry.isNumbering :=
  foldl_replay_count Device.lastId Entry.isNumbering (fun _ _ => by rw [replay_eq])
    journal device

/-- Every poll of a monitor uses up one of its outcomes. -/
theorem foldl_replay_frames (journal : List Entry) (device : Device) (index : UInt32) :
    (journal.foldl replay device).frames index =
      (device.frames index).drop (journal.countP fun entry => entry.polled? = some index) := by
  induction journal generalizing device with
  | nil => rfl
  | cons entry rest ih =>
      rw [List.foldl_cons, ih, replay_eq, List.countP_cons]
      by_cases hpolled : entry.polled? = some index
      · simp [hpolled, ← List.drop_one, List.drop_drop, Nat.add_comm]
      · simp [hpolled]

theorem foldl_replay_offeredFormats (journal : List Entry) (device : Device) :
    (journal.foldl replay device).offeredFormats =
      if journal.any Entry.isNegotiation then DesktopCapture.offeredFormats
      else device.offeredFormats := by
  induction journal generalizing device with
  | nil => rfl
  | cons entry rest ih =>
      rw [List.foldl_cons, ih, replay_eq, List.any_cons]
      cases entry.isNegotiation <;> simp

end Device

/-- An acquisition that reaches the device uses up an outcome, and holds a frame if one
arrives. -/
theorem Device.acquire_replay (duplication : Duplication) (timeoutMs : UInt32)
    (device : Device) :
    (∃ resource, device.acquire duplication = (.ok resource,
      device.replay (.call (.acquire duplication.output timeoutMs) .done))) ∨
    ∃ error, device.acquire duplication = (.error error,
      device.replay (.call (.acquire duplication.output timeoutMs) (.failed error))) := by
  unfold acquire
  dsimp only
  split
  · exact .inl ⟨_, rfl⟩
  · exact .inl ⟨_, rfl⟩
  · exact .inr ⟨_, rfl⟩
  · exact .inr ⟨_, rfl⟩
  · exact .inr ⟨_, rfl⟩
  · exact .inr ⟨_, rfl⟩

namespace Capture

variable {α β : Type} {monitors : UInt32 → Prop}

/-- Without queued faults the device answers a call itself. -/
theorem fallible_of_none (point : FaultPoint) (call : Call) (answer : α → Answer)
    (act : Device → Except PlatformError (α × Device)) {device : Device}
    (hfaults : device.faults = .none) :
    fallible point call answer act device =
      match act device with
      | .ok (value, device') => ⟨.ok value, device', [.call call (answer value)]⟩
      | .error error => ⟨.error error, device, [.call call (.failed (.platform error))]⟩ := by
  cases hact : act device with
  | ok done => simp [fallible, hfaults, hact]
  | error error => simp [fallible, hfaults, hact]

/-- An action whose journal says all that it does to the device, and which handles the
frames of these monitors only. -/
structure Replays (monitors : UInt32 → Prop) (action : Capture α) : Prop where
  device : ∀ device, device.faults = .none →
    (action device).device = (action device).journal.foldl Device.replay device
  handles : ∀ device, ∀ entry ∈ (action device).journal, ∀ output,
    entry.handled? = some output → monitors output

namespace Replays

theorem faults {action : Capture α} (hreplays : Replays monitors action) {device : Device}
    (hfaults : device.faults = .none) : (action device).device.faults = .none := by
  rw [hreplays.device device hfaults, (Device.sameSetting_replay _ device).faults, hfaults]

/-- All that comes of the action, given its value and its journal. -/
theorem apply_eq {action : Capture α} (hreplays : Replays monitors action) {device : Device}
    (hfaults : device.faults = .none) {value : α} {journal : List Entry}
    (hvalue : (action device).value = value) (hjournal : (action device).journal = journal) :
    action device = ⟨value, journal.foldl Device.replay device, journal⟩ := by
  subst hvalue
  subst hjournal
  rw [← hreplays.device device hfaults]

theorem pure (value : α) : Replays monitors (pure value) where
  device := fun _ _ => rfl
  handles := fun _ => List.forall_mem_nil _

theorem bind {first : Capture α} {next : α → Capture β} (hfirst : Replays monitors first)
    (hnext : ∀ value, Replays monitors (next value)) : Replays monitors (first >>= next) where
  device := by
    intro device hfaults
    rw [bind_apply, (hnext _).device _ (hfirst.faults hfaults), hfirst.device device hfaults,
      List.foldl_append]
  handles := by
    intro device entry hentry
    rcases List.mem_append.mp hentry with hbefore | hafter
    · exact hfirst.handles device entry hbefore
    · exact (hnext _).handles _ entry hafter

theorem of_entry {action : Capture α}
    (hentry : ∀ device : Device, ∃ entry, (action device).journal = [entry] ∧
      (∀ output, entry.handled? = some output → monitors output) ∧
      (device.faults = .none → (action device).device = device.replay entry)) :
    Replays monitors action where
  device := by
    intro device hfaults
    obtain ⟨entry, hjournal, -, hdevice⟩ := hentry device
    rw [hdevice hfaults, hjournal]
    rfl
  handles := by
    intro device written hwritten
    obtain ⟨entry, hjournal, hhandled, -⟩ := hentry device
    rw [hjournal] at hwritten
    rw [List.mem_singleton.mp hwritten]
    exact hhandled

theorem fallible {point : FaultPoint} {call : Call} {answer : α → Answer}
    {act : Device → Except PlatformError (α × Device)}
    (hhandled : ∀ given output, (Entry.call call given).handled? = some output →
      monitors output)
    (hfailed : ∀ (device : Device) error,
      device.replay (.call call (.failed error)) = device)
    (hact : ∀ device value device', act device = .ok (value, device') →
      device' = device.replay (.call call (answer value))) :
    Replays monitors (Capture.fallible point call answer act) := by
  refine of_entry fun device => ?_
  rcases fallible_cases point call answer act device with
    ⟨error, faults, hresult⟩ | ⟨value, device', hdone, hresult⟩
  · refine ⟨.call call (.failed (.platform error)), by rw [hresult], hhandled _, ?_⟩
    intro hfaults
    rw [hfailed]
    rw [fallible_of_none point call answer act hfaults] at hresult ⊢
    split at hresult
    · cases hresult
    · rfl
  · refine ⟨.call call (answer value), by rw [hresult], hhandled _, ?_⟩
    intro _
    rw [hresult]
    exact hact device value device' hdone

theorem acquire {duplication : Duplication} {timeoutMs : UInt32}
    (hmonitor : monitors duplication.output) :
    Replays monitors (acquire duplication timeoutMs) := by
  have hhandled : ∀ answer output,
      (Entry.call (.acquire duplication.output timeoutMs) answer).handled? = some output →
        monitors output := by
    rintro answer output ⟨⟩
    exact hmonitor
  refine of_entry fun device => ?_
  unfold Capture.acquire
  dsimp only
  split
  · next hfault =>
    refine ⟨_, rfl, hhandled _, ?_⟩
    intro hfaults
    rw [hfaults, Faults.takeAcquire?_none] at hfault
    cases hfault
  · rcases device.acquire_replay duplication timeoutMs with
      ⟨resource, hacquired⟩ | ⟨error, hacquired⟩
    · rw [hacquired]
      exact ⟨_, rfl, hhandled _, fun _ => rfl⟩
    · rw [hacquired]
      exact ⟨_, rfl, hhandled _, fun _ => rfl⟩

end Replays
end Capture

/-! ## Present cycles -/

namespace Preview

/-- The answer to a draw and its present cycle over a target, if no fault is queued and
these calls are scripted to fail. -/
def cycle (preview : Preview) (texture : Texture) (target : Nat)
    (fails : FailingCall → Bool) : Except PlatformError Unit × List Entry :=
  let id := preview.swapChain.id
  let unbound := scriptedFailure "MockContext::OMSetRenderTargets"
  let unshown := scriptedFailure "MockSwapChain::Present"
  let shown : Answer := if fails .present then .failed (.platform unshown) else .done
  if fails .bind then
    (.error unbound,
      [.call .saveTarget (.number target), .call (.bind id) (.failed (.platform unbound)),
        .call (.restoreTarget target) .done])
  else
    (if fails .present then .error unshown else .ok (),
      [.call .saveTarget (.number target), .call (.bind id) .done,
        .call (.clear id clearColor) .done,
        .call (.copyToSwapChain id texture.id (.ofSize texture.size)) .done,
        .call (.present id preview.syncInterval) shown, .call (.restoreTarget target) .done])

theorem draw_of_none (preview : Preview) (texture : Texture) {device : Device}
    (hfaults : device.faults = .none) :
    let cycle := preview.cycle texture device.boundTarget device.fails
    preview.draw texture device = ⟨cycle.1, cycle.2.foldl Device.replay device, cycle.2⟩ := by
  have hbind := fallible_of_none .bind (.bind preview.swapChain.id) (fun _ : Unit => .done)
    (Device.bindSwapChain preview.swapChain) hfaults
  rw [draw_apply]
  cases hunbound : device.fails .bind with
  | true =>
      rw [Device.bindSwapChain, hunbound] at hbind
      rw [drawBound_unbound hbind, cycle, hunbound]
      rfl
  | false =>
      have hpresent := fallible_of_none .present
        (.present preview.swapChain.id preview.syncInterval) (fun _ : Unit => .done)
        (Device.present preview.swapChain preview.syncInterval)
        (show (preview.drawnOn texture device).faults = .none from hfaults)
      have hfails : (preview.drawnOn texture device).fails = device.fails := rfl
      rw [Device.bindSwapChain, hunbound] at hbind
      rw [drawBound_bound hbind, Capture.present, hpresent, Device.present, cycle, hunbound,
        hfails]
      cases device.fails .present with
      | true => rfl
      | false => rfl

end Preview

/-! ## Operations -/

theorem Entry.handled?_of_isAside {entry : Entry} (haside : entry.isAside = true) :
    entry.handled? = none := by
  unfold handled?
  split
  · cases haside
  · cases haside
  · rfl

/-- Without queued faults the journal of an operation says all. -/
theorem replayed (monitors : UInt32 → Prop) : Polling monitors (Replays monitors) where
  pure := Replays.pure
  bind := Replays.bind
  notify := fun _ _ => .of_entry fun _ => ⟨_, rfl, nofun, fun _ => rfl⟩
  endSpan := fun _ => .of_entry fun _ => ⟨_, rfl, nofun, fun _ => rfl⟩
  release := fun _ => .of_entry fun _ => ⟨_, rfl, nofun, fun _ => rfl⟩
  enumOutput := by
    intro index
    refine .fallible (fun _ => nofun) (fun _ _ => rfl) fun device found device' hact => ?_
    obtain ⟨-, -, rfl⟩ := Device.enumOutput_ok hact
    rfl
  describe := by
    intro output
    refine .fallible (fun _ => nofun) (fun _ _ => rfl) fun device description device' hact => ?_
    obtain ⟨-, -, rfl⟩ := Device.describe_ok hact
    rfl
  duplicateWithFormats := by
    intro output
    refine .fallible (fun _ => nofun) (fun _ _ => rfl) fun device duplication device' hact => ?_
    obtain ⟨-, rfl, rfl⟩ | ⟨-, -, rfl, rfl⟩ := Device.duplicateWithFormats_ok hact
    · rfl
    · rfl
  duplicate := by
    intro output
    refine .fallible (fun _ => nofun) (fun _ _ => rfl) fun device duplication device' hact => ?_
    obtain ⟨-, -, rfl⟩ := Device.duplicate_ok hact
    rfl
  colorInfo := by
    intro output
    refine .fallible (fun _ => nofun) (fun _ _ => rfl) fun device color device' hact => ?_
    obtain ⟨-, -, rfl⟩ := Device.colorInfo_ok hact
    rfl
  frameTexture := by
    intro resource
    refine .fallible (fun _ => nofun) (fun _ _ => rfl) fun device texture device' hact => ?_
    obtain ⟨size, format, -, -, rfl⟩ := Device.frameTexture_ok hact
    rfl
  createTexture := by
    intro size format
    refine .fallible (fun _ => nofun) (fun _ _ => rfl) fun device texture device' hact => ?_
    obtain ⟨-, -, rfl⟩ := Device.createTexture_ok hact
    rfl
  copyTexture := fun _ _ => .of_entry fun _ => ⟨_, rfl, nofun, fun _ => rfl⟩
  createWindow := by
    intro title size
    refine .fallible (fun _ => nofun) (fun _ _ => rfl) fun device window device' hact => ?_
    obtain ⟨-, -, rfl⟩ := Device.createWindow_ok hact
    rfl
  createSwapChain := by
    intro window size
    refine .fallible (fun _ => nofun) (fun _ _ => rfl) fun device swapChain device' hact => ?_
    obtain ⟨-, -, rfl⟩ := Device.createSwapChain_ok hact
    rfl
  setVisible := fun _ _ =>
    Replays.bind (.of_entry fun _ => ⟨_, rfl, nofun, fun _ => rfl⟩) fun _ => .pure _
  resize := by
    intro swapChain size
    refine .fallible (fun _ => nofun) (fun _ _ => rfl) fun device resized device' hact => ?_
    obtain ⟨-, -, rfl⟩ := Device.resize_ok hact
    rfl
  draw := by
    intro preview texture
    constructor
    · intro device hfaults
      rw [preview.draw_of_none texture hfaults]
    · intro device entry hentry output hhandled
      have haside := (preview.aside_draw texture).entries device entry hentry
      rw [Entry.handled?_of_isAside haside] at hhandled
      cases hhandled
  acquire := fun duplication hmonitor => .acquire hmonitor
  releaseFrame := by
    intro duplication hmonitor
    refine .fallible ?_ (fun _ _ => rfl) fun device value device' hact => ?_
    · rintro answer output ⟨⟩
      exact hmonitor
    · cases hact
      rfl

end DesktopCapture
