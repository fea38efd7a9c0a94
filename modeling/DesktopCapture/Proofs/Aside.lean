import DesktopCapture.Proofs.Triple
import DesktopCapture.Session

/-!
# Beside the capturing

Previews have calls, faults and objects of their own.  What capturing reads from the
device is out of their reach, apart from the numbers that are given out, and what
they write to the journal is told apart from the entries of capturing.  An action of
that kind is aside.
-/

namespace DesktopCapture

/-- The calls that are made for a preview. -/
def FaultPoint.isAside : FaultPoint → Bool
  | .describe | .createWindow | .createSwapChain | .resize | .bind | .present => true
  | _ => false

/-- The entries that are made for a preview. -/
def Entry.isAside : Entry → Bool
  | .call (.describe ..) _ | .call (.createWindow ..) _ | .call (.createSwapChain ..) _ => true
  | .call (.setVisible ..) _ | .call (.resize ..) _ | .call (.bind ..) _ => true
  | .call .saveTarget _ | .call (.restoreTarget ..) _ | .call (.clear ..) _ => true
  | .call (.copyToSwapChain ..) _ | .call (.present ..) _ => true
  | .release (.swapChain _) | .release (.window _) => true
  | .notice _ (.previewDescriptorUnreadable _) | .notice _ (.previewFailed _) => true
  | .notice _ (.previewCreationEnded _) | .notice _ (.presentFailed _) => true
  | .spanEnd _ => true
  | _ => false

namespace Faults

theorem take?_platform {faults rest : Faults} {point other : FaultPoint}
    {error : PlatformError} (htake : faults.take? point = some (error, rest))
    (hother : other ≠ point) : rest.platform other = faults.platform other := by
  unfold take? at htake
  split at htake
  · cases htake
  · cases htake
    exact if_neg hother

theorem take?_acquire {faults rest : Faults} {point : FaultPoint} {error : PlatformError}
    (htake : faults.take? point = some (error, rest)) : rest.acquire = faults.acquire := by
  unfold take? at htake
  split at htake
  · cases htake
  · cases htake
    rfl

/-- A queued fault that is taken is one of those of its call. -/
theorem take?_length {faults rest : Faults} {point : FaultPoint} {error : PlatformError}
    (htake : faults.take? point = some (error, rest)) :
    (faults.platform point).length = (rest.platform point).length + 1 := by
  unfold take? at htake
  split at htake
  · cases htake
  · next hqueue =>
    cases htake
    simp [hqueue]

theorem takeAcquire?_platform {faults rest : Faults} {error : CaptureError}
    (htake : faults.takeAcquire? = some (error, rest)) : rest.platform = faults.platform := by
  unfold takeAcquire? at htake
  split at htake
  · cases htake
  · cases htake
    rfl

end Faults

namespace Device

/-- Two devices with the same script, as far as captures follow it. -/
structure SameScript (device device' : Device) : Prop where
  outputs : device'.outputs = device.outputs
  enumerationFailsAt : device'.enumerationFailsAt = device.enumerationFailsAt
  frames : device'.frames = device.frames
  fails : device'.fails = device.fails
  platformFaults : ∀ point, point.isAside = false →
    device'.faults.platform point = device.faults.platform point
  acquireFaults : device'.faults.acquire = device.faults.acquire

namespace SameScript

theorem refl (device : Device) : device.SameScript device :=
  ⟨rfl, rfl, rfl, rfl, fun _ _ => rfl, rfl⟩

theorem fails_eq {device device' : Device} (hscript : device.SameScript device')
    (call : FailingCall) : device'.fails call = device.fails call := by
  rw [hscript.fails]

theorem symm {device device' : Device} (hscript : device.SameScript device') :
    device'.SameScript device where
  outputs := hscript.outputs.symm
  enumerationFailsAt := hscript.enumerationFailsAt.symm
  frames := hscript.frames.symm
  fails := hscript.fails.symm
  platformFaults := fun point hpoint => (hscript.platformFaults point hpoint).symm
  acquireFaults := hscript.acquireFaults.symm

theorem trans {first second third : Device} (hbefore : first.SameScript second)
    (hafter : second.SameScript third) : first.SameScript third where
  outputs := hafter.outputs.trans hbefore.outputs
  enumerationFailsAt := hafter.enumerationFailsAt.trans hbefore.enumerationFailsAt
  frames := hafter.frames.trans hbefore.frames
  fails := hafter.fails.trans hbefore.fails
  platformFaults := fun point hpoint =>
    (hafter.platformFaults point hpoint).trans (hbefore.platformFaults point hpoint)
  acquireFaults := hafter.acquireFaults.trans hbefore.acquireFaults

end SameScript

/-- The second device differs from the first only in what captures do not see, and
may have given out more numbers. -/
structure Beside (device device' : Device) : Prop where
  script : device.SameScript device'
  copies : device'.copies = device.copies
  lastId : device.lastId ≤ device'.lastId

theorem Beside.refl (device : Device) : device.Beside device :=
  ⟨.refl device, rfl, Nat.le_refl _⟩

theorem Beside.trans {first second third : Device} (hbefore : first.Beside second)
    (hafter : second.Beside third) : first.Beside third where
  script := hbefore.script.trans hafter.script
  copies := hafter.copies.trans hbefore.copies
  lastId := Nat.le_trans hbefore.lastId hafter.lastId

end Device

namespace Capture

variable {α β : Type}

/-- An action that has nothing to do with capturing. -/
structure IsAside (action : Capture α) : Prop where
  beside : ∀ device : Device, device.Beside (action device).device
  entries : ∀ device, ∀ entry ∈ (action device).journal, entry.isAside = true

namespace IsAside

theorem pure (value : α) : IsAside (pure value) where
  beside := .refl
  entries := fun _ => List.forall_mem_nil _

theorem bind {first : Capture α} {next : α → Capture β} (hfirst : first.IsAside)
    (hnext : ∀ value, (next value).IsAside) : (first >>= next).IsAside where
  beside := fun device => (hfirst.beside device).trans ((hnext _).beside _)
  entries := by
    intro device entry hentry
    rw [bind_apply, List.mem_append] at hentry
    rcases hentry with hbefore | hafter
    · exact hfirst.entries device entry hbefore
    · exact (hnext _).entries _ entry hafter

theorem note {entry : Entry} (hentry : entry.isAside = true) : (note entry).IsAside where
  beside := .refl
  entries := by
    intro device written hwritten
    rwa [List.mem_singleton.mp hwritten]

theorem always {call : Call} {answer : Device → Answer} {act : Device → Device}
    (hentry : ∀ answer, (Entry.call call answer).isAside = true)
    (hact : ∀ device : Device, device.Beside (act device)) :
    (always call answer act).IsAside where
  beside := hact
  entries := by
    intro device written hwritten
    rw [List.mem_singleton.mp hwritten]
    exact hentry _

theorem fallible {point : FaultPoint} {call : Call} {answer : α → Answer}
    {act : Device → Except PlatformError (α × Device)} (hpoint : point.isAside = true)
    (hentry : ∀ answer, (Entry.call call answer).isAside = true)
    (hact : ∀ device value device', act device = .ok (value, device') →
      device.Beside device') :
    (fallible point call answer act).IsAside := by
  have hsplit : ∀ device : Device,
      device.Beside (Capture.fallible point call answer act device).device ∧
        ∃ given, (Capture.fallible point call answer act device).journal =
          [.call call given] := by
    intro device
    unfold Capture.fallible
    cases htake : device.faults.take? point with
    | some taken =>
        obtain ⟨error, faults⟩ := taken
        refine ⟨?_, _, rfl⟩
        refine ⟨⟨rfl, rfl, rfl, rfl, ?_, Faults.take?_acquire htake⟩, rfl, Nat.le_refl _⟩
        intro other hother
        apply Faults.take?_platform htake
        rintro rfl
        rw [hpoint] at hother
        cases hother
    | none =>
        cases hresult : act device with
        | error error => exact ⟨.refl device, _, rfl⟩
        | ok done =>
            obtain ⟨value, device'⟩ := done
            exact ⟨hact device value device' hresult, _, rfl⟩
  constructor
  · intro device
    exact (hsplit device).1
  · intro device written hwritten
    obtain ⟨-, given, hjournal⟩ := hsplit device
    rw [hjournal] at hwritten
    rw [List.mem_singleton.mp hwritten]
    exact hentry given

/-- A window or a swap chain is nothing that captures hold. -/
theorem release {object : Release} (hobject : (Entry.release object).isAside = true) :
    (release object).IsAside where
  beside := fun device => ⟨⟨rfl, rfl, rfl, rfl, fun _ _ => rfl, rfl⟩, rfl, Nat.le_refl _⟩
  entries := by
    intro device written hwritten
    rwa [List.mem_singleton.mp hwritten]

end IsAside
end Capture

/-! ## Previews are aside -/

open Capture

namespace Preview

theorem aside_setVisible (window : Window) (visible : Bool) :
    (Capture.setVisible window visible).IsAside :=
  IsAside.bind (IsAside.always (fun _ => rfl) .refl) fun _ => .pure _

theorem aside_create (outer : List Span) (monitor : MonitorInfo) (title : String) :
    (create outer monitor title).IsAside := by
  have hwindow : ∀ size, (createWindow title size).IsAside := by
    intro size
    apply IsAside.fallible rfl (fun _ => rfl)
    intro device window device' hact
    obtain ⟨-, -, rfl⟩ := Device.createWindow_ok hact
    exact ⟨⟨rfl, rfl, rfl, rfl, fun _ _ => rfl, rfl⟩, rfl, Nat.le_succ _⟩
  have hswapChain : ∀ window size, (createSwapChain window size).IsAside := by
    intro window size
    apply IsAside.fallible rfl (fun _ => rfl)
    intro device swapChain device' hact
    obtain ⟨-, -, rfl⟩ := Device.createSwapChain_ok hact
    exact ⟨⟨rfl, rfl, rfl, rfl, fun _ _ => rfl, rfl⟩, rfl, Nat.le_succ _⟩
  have hassembled : (assemble monitor.size.half title).IsAside := by
    refine IsAside.bind (hwindow _) fun window => ?_
    cases window with
    | error error => exact .pure _
    | ok window =>
        refine IsAside.bind (hswapChain window _) fun swapChain => ?_
        cases swapChain with
        | error error => exact IsAside.bind (IsAside.release rfl) fun _ => .pure _
        | ok swapChain => exact IsAside.bind (aside_setVisible window true) fun _ => .pure _
  refine IsAside.bind hassembled fun made => ?_
  have hended : IsAside (do endSpan (outer ++ [.previewCreation]); pure made) :=
    IsAside.bind (IsAside.note rfl) fun _ => .pure _
  cases made with
  | ok preview => exact hended
  | error error => exact IsAside.bind (IsAside.note rfl) fun _ => hended

theorem aside_fitSurface (preview : Preview) : preview.fitSurface.IsAside := by
  have hresized : (resize preview.swapChain preview.window.clientSize).IsAside := by
    apply IsAside.fallible rfl (fun _ => rfl)
    intro device swapChain device' hact
    obtain ⟨-, -, rfl⟩ := Device.resize_ok hact
    exact .refl device'
  unfold fitSurface
  split
  · exact .pure _
  · refine IsAside.bind hresized fun resized => ?_
    cases resized with
    | error error => exact .pure _
    | ok swapChain => exact .pure _

theorem aside_draw (preview : Preview) (texture : Texture) :
    (preview.draw texture).IsAside := by
  have hbind : (bindSwapChain preview.swapChain).IsAside := by
    apply IsAside.fallible rfl (fun _ => rfl)
    intro device value device' hact
    obtain ⟨-, rfl⟩ := Device.bindSwapChain_ok hact
    exact ⟨⟨rfl, rfl, rfl, rfl, fun _ _ => rfl, rfl⟩, rfl, Nat.le_refl _⟩
  have hpresent : (Capture.present preview.swapChain preview.syncInterval).IsAside := by
    apply IsAside.fallible rfl (fun _ => rfl)
    intro device value device' hact
    obtain ⟨-, rfl⟩ := Device.present_ok hact
    exact ⟨⟨rfl, rfl, rfl, rfl, fun _ _ => rfl, rfl⟩, rfl, Nat.le_refl _⟩
  have hbound : (preview.drawBound texture).IsAside := by
    refine IsAside.bind hbind fun bound => ?_
    cases bound with
    | error error => exact .pure _
    | ok _ =>
        refine IsAside.bind (IsAside.always (fun _ => rfl) fun _ =>
          ⟨⟨rfl, rfl, rfl, rfl, fun _ _ => rfl, rfl⟩, rfl, Nat.le_refl _⟩) fun _ => ?_
        refine IsAside.bind (IsAside.always (fun _ => rfl) fun _ =>
          ⟨⟨rfl, rfl, rfl, rfl, fun _ _ => rfl, rfl⟩, rfl, Nat.le_refl _⟩) fun _ => ?_
        exact hpresent
  have hsaved : saveTarget.IsAside := by
    constructor
    · exact .refl
    · intro device written hwritten
      rw [List.mem_singleton.mp hwritten]
      rfl
  refine IsAside.bind hsaved fun target => ?_
  refine IsAside.bind hbound fun drawn => ?_
  exact IsAside.bind (IsAside.always (fun _ => rfl) fun _ =>
    ⟨⟨rfl, rfl, rfl, rfl, fun _ _ => rfl, rfl⟩, rfl, Nat.le_refl _⟩) fun _ => .pure _

theorem aside_present (preview : Preview) (texture : Option Texture) :
    (preview.present texture).IsAside := by
  unfold present
  cases texture with
  | none => exact .pure _
  | some texture =>
      dsimp only
      split
      · refine IsAside.bind preview.aside_fitSurface fun fitted => ?_
        cases fitted with
        | error error => exact .pure _
        | ok fitted => exact IsAside.bind (fitted.aside_draw texture) fun _ => .pure _
      · exact .pure _

theorem aside_release (preview : Preview) : preview.release.IsAside :=
  IsAside.bind (IsAside.release rfl) fun _ => IsAside.release rfl

end Preview

namespace Session

theorem aside_openPreview (spans : List Span) (output : Output) (title : String) :
    (openPreview spans output title).IsAside := by
  have hdescribed : (describe output).IsAside := by
    apply IsAside.fallible rfl (fun _ => rfl)
    intro device description device' hact
    obtain ⟨-, -, rfl⟩ := Device.describe_ok hact
    exact .refl device'
  refine IsAside.bind hdescribed fun described => ?_
  cases described with
  | error error => exact IsAside.bind (IsAside.note rfl) fun _ => .pure _
  | ok description =>
      refine IsAside.bind (Preview.aside_create spans _ title) fun made => ?_
      cases made with
      | error error => exact IsAside.bind (IsAside.note rfl) fun _ => .pure _
      | ok preview => exact .pure _

theorem aside_present (session : Session) : session.present.IsAside := by
  unfold present
  rcases session.preview with _ | preview
  · exact .pure _
  · refine IsAside.bind (preview.aside_present session.texture) fun result => ?_
    obtain ⟨shown, preview'⟩ := result
    cases shown with
    | ok _ => exact .pure _
    | error error => exact IsAside.bind (IsAside.note rfl) fun _ => .pure _

theorem aside_setPreviewVisible (session : Session) (visible : Bool) :
    (session.setPreviewVisible visible).IsAside := by
  unfold setPreviewVisible
  rcases session.preview with _ | preview
  · exact .pure _
  · exact IsAside.bind
      (IsAside.bind (Preview.aside_setVisible preview.window visible) fun _ => .pure _)
      fun _ => .pure _

/-- Presenting changes a session in nothing but its preview. -/
theorem present_value (session : Session) (device : Device) :
    ∃ preview, (session.present device).value = { session with preview } := by
  unfold present
  rcases hpreview : session.preview with _ | preview
  · exact ⟨session.preview, rfl⟩
  · dsimp only
    rw [bind_apply]
    rcases (preview.present session.texture device).value with ⟨error | _, preview'⟩
    · exact ⟨some preview', rfl⟩
    · exact ⟨some preview', rfl⟩

/-- Showing or hiding the preview changes a session in nothing else. -/
theorem setPreviewVisible_value (session : Session) (visible : Bool) (device : Device) :
    ∃ preview, (session.setPreviewVisible visible device).value = { session with preview } := by
  unfold setPreviewVisible
  rcases hpreview : session.preview with _ | preview
  · exact ⟨session.preview, rfl⟩
  · exact ⟨_, rfl⟩

end Session
end DesktopCapture
