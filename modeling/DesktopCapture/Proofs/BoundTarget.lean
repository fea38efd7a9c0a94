import DesktopCapture.Proofs.Composed

/-!
# The borrowed target

The bound target belongs to whoever drives the duplicator.  Presenting a preview
borrows it: the target is saved, drawn over, and bound again as the last call of the
same cycle, also when the drawing fails.  No other call touches the target, so it is
between any two calls of an operation what it was before the operation, and the only
presents the device ever sees are those of the swap chain that is bound.
-/

namespace DesktopCapture

open Capture Scenario

namespace Entry

/-- The calls that save the bound target, bind another, draw on it or restore it. -/
def isTargeted : Entry → Bool
  | .call .saveTarget _ | .call (.bind _) _ | .call (.clear ..) _ => true
  | .call (.copyToSwapChain ..) _ | .call (.present ..) _ | .call (.restoreTarget _) _ => true
  | _ => false

/-- The calls that save the bound target. -/
def isSave : Entry → Bool
  | .call .saveTarget _ => true
  | _ => false

theorem isSave_eq_false {entry : Entry} (huntargeted : entry.isTargeted = false) :
    entry.isSave = false := by
  unfold isSave
  split
  · cases huntargeted
  · rfl

theorem isTargeted_eq_false {entry : Entry} (hplain : entry.isPlain = true) :
    entry.isTargeted = false := by
  unfold isTargeted
  split
  all_goals first | rfl | cases hplain

end Entry

/-- The calls of one present, from the save of a target to its return. -/
inductive PresentCycle (target : Nat) : List Entry → Prop
  | unbound (swapChain : Nat) (error : CaptureError) :
      PresentCycle target [.call .saveTarget (.number target),
        .call (.bind swapChain) (.failed error), .call (.restoreTarget target) .done]
  | bound (swapChain source : Nat) (region : Region) (interval : UInt32) (answer : Answer) :
      PresentCycle target [.call .saveTarget (.number target),
        .call (.bind swapChain) .done, .call (.clear swapChain Preview.clearColor) .done,
        .call (.copyToSwapChain swapChain source region) .done,
        .call (.present swapChain interval) answer, .call (.restoreTarget target) .done]

/-- A journal that touches a target only in present cycles that return it. -/
inductive Borrows (target : Nat) : List Entry → Prop
  | nil : Borrows target []
  | untargeted {entry : Entry} {rest : List Entry} (hentry : entry.isTargeted = false)
      (hrest : Borrows target rest) : Borrows target (entry :: rest)
  | cycle {cycle rest : List Entry} (hcycle : PresentCycle target cycle)
      (hrest : Borrows target rest) : Borrows target (cycle ++ rest)

theorem Borrows.append {target : Nat} {before after : List Entry}
    (hbefore : Borrows target before) (hafter : Borrows target after) :
    Borrows target (before ++ after) := by
  induction hbefore with
  | nil => exact hafter
  | untargeted hentry _ ih => exact .untargeted hentry ih
  | cycle hcycle _ ih =>
      rw [List.append_assoc]
      exact .cycle hcycle ih

/-- The presents a device saw are of the swap chains that were bound. -/
def Device.PresentsBound (device : Device) : Prop :=
  ∀ present ∈ device.presents, present.boundTarget = present.swapChain

/-- Two devices with the same target, of which as much was seen. -/
structure Device.SameTarget (device device' : Device) : Prop where
  boundTarget : device'.boundTarget = device.boundTarget
  restores : device'.restores = device.restores
  presents : device'.presents = device.presents

namespace Capture

variable {α β : Type}

/-- An action of one entry that is not about the target. -/
def IsUntargeted (action : Capture α) : Prop := ∀ device : Device,
  (∃ entry, (action device).journal = [entry] ∧ entry.isTargeted = false) ∧
    device.SameTarget (action device).device

namespace IsUntargeted

theorem of_plain {action : Capture α} (hplain : action.IsPlain) : IsUntargeted action := by
  intro device
  obtain ⟨⟨entry, hjournal, hentry⟩, hspares⟩ := hplain device
  exact ⟨⟨entry, hjournal, Entry.isTargeted_eq_false hentry⟩,
    hspares.boundTarget, hspares.restores, hspares.presents⟩

theorem acquire (duplication : Duplication) (timeoutMs : UInt32) :
    IsUntargeted (acquire duplication timeoutMs) := by
  intro device
  obtain ⟨heldFrames, hdevice⟩ := Device.acquire_device duplication device
  unfold Capture.acquire
  dsimp only
  split
  · exact ⟨⟨_, rfl, rfl⟩, rfl, rfl, rfl⟩
  · split <;> next hacquired =>
      rw [hacquired] at hdevice
      cases hdevice
      exact ⟨⟨_, rfl, rfl⟩, rfl, rfl, rfl⟩

theorem releaseFrame (duplication : Duplication) :
    IsUntargeted (releaseFrame duplication) := by
  intro device
  rcases fallible_cases .releaseFrame (.releaseFrame duplication.output) (fun _ : Unit => .done)
      Device.releaseFrame device with
    ⟨error, faults, hresult⟩ | ⟨value, device', hact, hresult⟩
  · rw [Capture.releaseFrame, hresult]
    exact ⟨⟨_, rfl, rfl⟩, rfl, rfl, rfl⟩
  · cases hact
    rw [Capture.releaseFrame, hresult]
    exact ⟨⟨_, rfl, rfl⟩, rfl, rfl, rfl⟩

end IsUntargeted

/-- An action that leaves the bound target as it found it: it is only borrowed on the
way, every save is matched by a restore, and only what is bound is presented. -/
structure LeavesTarget (action : Capture α) : Prop where
  boundTarget : ∀ device, (action device).device.boundTarget = device.boundTarget
  borrows : ∀ device : Device, Borrows device.boundTarget (action device).journal
  restores : ∀ device, (action device).device.restores =
    device.restores + (action device).journal.countP Entry.isSave
  presents : ∀ device : Device, device.PresentsBound →
    (action device).device.PresentsBound

namespace LeavesTarget

theorem pure (value : α) : LeavesTarget (pure value) where
  boundTarget := fun _ => rfl
  borrows := fun _ => .nil
  restores := fun _ => rfl
  presents := fun _ h => h

theorem bind {first : Capture α} {next : α → Capture β} (hfirst : LeavesTarget first)
    (hnext : ∀ value, LeavesTarget (next value)) : LeavesTarget (first >>= next) where
  boundTarget := by
    intro device
    exact ((hnext _).boundTarget _).trans (hfirst.boundTarget device)
  borrows := by
    intro device
    have hafter := (hnext (first device).value).borrows (first device).device
    rw [hfirst.boundTarget device] at hafter
    exact (hfirst.borrows device).append hafter
  restores := by
    intro device
    rw [bind_apply, (hnext _).restores, hfirst.restores, List.countP_append, Nat.add_assoc]
  presents := fun device h => (hnext _).presents _ (hfirst.presents device h)

/-- A single entry that is not about the target. -/
theorem of_untargeted {action : Capture α} (huntargeted : action.IsUntargeted) :
    LeavesTarget action where
  boundTarget := fun device => (huntargeted device).2.boundTarget
  borrows := by
    intro device
    obtain ⟨entry, hjournal, hentry⟩ := (huntargeted device).1
    rw [hjournal]
    exact .untargeted hentry .nil
  restores := by
    intro device
    obtain ⟨⟨entry, hjournal, hentry⟩, hsame⟩ := huntargeted device
    rw [hjournal, hsame.restores]
    simp [Entry.isSave_eq_false hentry]
  presents := by
    intro device h
    unfold Device.PresentsBound
    rwa [(huntargeted device).2.presents]

end LeavesTarget
end Capture

/-! ## Drawing -/

namespace Preview

/-- A swap chain that is not bound is not drawn on; one that is bound is cleared,
drawn on and presented, which may fail.  Either way the target is returned. -/
theorem draw_cases (preview : Preview) (texture : Texture) (device : Device) :
    (∃ error faults, preview.draw texture device =
      ⟨.error error, { device with faults, restores := device.restores + 1 },
        [.call .saveTarget (.number device.boundTarget),
          .call (.bind preview.swapChain.id) (.failed (.platform error)),
          .call (.restoreTarget device.boundTarget) .done]⟩) ∨
    ∃ shown faults presents answer,
      (presents = device.presents ∨ presents = device.presents ++
        [⟨preview.swapChain.id, preview.syncInterval, preview.swapChain.id⟩]) ∧
      preview.draw texture device =
        ⟨shown, { device with
            faults
            clears := device.clears + 1
            swapChainCopies := device.swapChainCopies ++
              [(preview.swapChain.id, texture.id, .ofSize texture.size)]
            presents
            restores := device.restores + 1 },
          [.call .saveTarget (.number device.boundTarget),
            .call (.bind preview.swapChain.id) .done,
            .call (.clear preview.swapChain.id clearColor) .done,
            .call (.copyToSwapChain preview.swapChain.id texture.id
              (.ofSize texture.size)) .done,
            .call (.present preview.swapChain.id preview.syncInterval) answer,
            .call (.restoreTarget device.boundTarget) .done]⟩ := by
  rw [draw_apply]
  rcases fallible_cases .bind (.bind preview.swapChain.id) (fun _ : Unit => .done)
      (Device.bindSwapChain preview.swapChain) device with
    ⟨error, faults, hbind⟩ | ⟨value, bound, hact, hbind⟩
  · rw [drawBound_unbound hbind]
    exact .inl ⟨error, faults, rfl⟩
  · obtain ⟨-, rfl⟩ := Device.bindSwapChain_ok hact
    rw [drawBound_bound hbind]
    rcases fallible_cases .present (.present preview.swapChain.id preview.syncInterval)
        (fun _ : Unit => .done) (Device.present preview.swapChain preview.syncInterval)
        (preview.drawnOn texture device) with
      ⟨error, faults, hpresent⟩ | ⟨value, presented, hact, hpresent⟩
    · rw [Capture.present, hpresent]
      exact .inr ⟨_, _, _, _, .inl rfl, rfl⟩
    · obtain ⟨-, rfl⟩ := Device.present_ok hact
      rw [Capture.present, hpresent]
      exact .inr ⟨_, _, _, _, .inr rfl, rfl⟩

theorem leavesTarget_draw (preview : Preview) (texture : Texture) :
    LeavesTarget (preview.draw texture) := by
  constructor
  · intro device
    rcases preview.draw_cases texture device with
      ⟨error, faults, hdraw⟩ | ⟨shown, faults, presents, answer, -, hdraw⟩
    · rw [hdraw]
    · rw [hdraw]
  · intro device
    rcases preview.draw_cases texture device with
      ⟨error, faults, hdraw⟩ | ⟨shown, faults, presents, answer, -, hdraw⟩
    · rw [hdraw]
      exact .cycle (.unbound _ _) .nil
    · rw [hdraw]
      exact .cycle (.bound _ _ _ _ _) .nil
  · intro device
    rcases preview.draw_cases texture device with
      ⟨error, faults, hdraw⟩ | ⟨shown, faults, presents, answer, -, hdraw⟩
    · rw [hdraw]
      rfl
    · rw [hdraw]
      rfl
  · intro device h
    rcases preview.draw_cases texture device with
      ⟨error, faults, hdraw⟩ | ⟨shown, faults, presents, answer, hpresents, hdraw⟩
    · rw [hdraw]
      exact h
    · rw [hdraw]
      unfold Device.PresentsBound
      dsimp only
      rcases hpresents with rfl | rfl
      · exact h
      · intro present hmember
        rcases List.mem_append.mp hmember with hold | hnew
        · exact h present hold
        · rw [List.mem_singleton.mp hnew]

end Preview

/-! ## Operations and runs -/

/-- All that operations are composed of leaves the bound target. -/
theorem leavesTarget : Polling (fun _ => True) LeavesTarget where
  toComposed := .of_plain LeavesTarget.pure LeavesTarget.bind
    (fun hplain => .of_untargeted (.of_plain hplain)) Preview.leavesTarget_draw
  acquire := fun duplication _ => .of_untargeted (.acquire duplication 0)
  releaseFrame := fun duplication _ => .of_untargeted (.releaseFrame duplication)

namespace Scenario

/-- The target that a step of the world binds. -/
def DuplicatorStep.newTarget? : DuplicatorStep → Option Nat
  | .world (.setTarget target) => some target
  | _ => none

namespace DuplicatorState

/-- What the device counts and lists of present cycles is what happened. -/
structure Returned (past : List Entry) (state : DuplicatorState) : Prop where
  restores : state.device.restores = past.countP Entry.isSave
  presents : state.device.PresentsBound

/-- A step of the world leaves no journal, and only one of them binds a target. -/
theorem step_world (state : DuplicatorState) (change : DeviceStep) :
    (state.step (.world change)).1.journal = [] ∧
      (state.step (.world change)).2.device.boundTarget =
        (DuplicatorStep.newTarget? (.world change)).getD state.device.boundTarget ∧
      (state.step (.world change)).2.device.restores = state.device.restores ∧
      (state.step (.world change)).2.device.presents = state.device.presents := by
  cases change <;> exact ⟨rfl, rfl, rfl, rfl⟩

theorem returned_step {past : List Entry} {state : DuplicatorState}
    (hreturned : Returned past state) (taken : DuplicatorStep) :
    Returned (past ++ (state.step taken).1.journal) (state.step taken).2 := by
  by_cases hworld : ∃ change, taken = .world change
  · obtain ⟨change, rfl⟩ := hworld
    obtain ⟨hjournal, -, hrestores, hpresents⟩ := state.step_world change
    rw [hjournal, List.append_nil]
    refine ⟨hrestores.trans hreturned.restores, ?_⟩
    unfold Device.PresentsBound
    rw [hpresents]
    exact hreturned.presents
  · obtain ⟨α, action, haction, hjournal, hdevice⟩ :=
      leavesTarget.step state fun change htaken => hworld ⟨change, htaken⟩
    rw [hjournal]
    constructor
    · rw [hdevice, haction.restores, hreturned.restores, List.countP_append]
    · rw [hdevice]
      exact haction.presents _ hreturned.presents

/-- Every step leaves the bound target as it found it, if it is not the one that binds
another; what the step does to the target is to borrow it for whole present cycles.
As many targets were restored as were saved, and every swap chain that was presented
was bound at that moment. -/
theorem targets_are_returned (outputs : List OutputConfig) (config : SessionConfig)
    (before : List DuplicatorStep) (taken : DuplicatorStep) :
    let state := after outputs config before
    let done := state.step taken
    done.2.device.boundTarget = taken.newTarget?.getD state.device.boundTarget ∧
    Borrows state.device.boundTarget done.1.journal ∧
    done.2.device.restores =
      (history outputs config (before ++ [taken])).countP Entry.isSave ∧
    ∀ present ∈ done.2.device.presents, present.boundTarget = present.swapChain := by
  intro state done
  have hreturned : Returned (history outputs config before) state :=
    @run_induction outputs config Returned ⟨rfl, List.forall_mem_nil _⟩
      (fun _ _ taken h => returned_step h taken) before
  have hnext := returned_step hreturned taken
  have hhistory : history outputs config (before ++ [taken]) =
      history outputs config before ++ done.1.journal := by
    rw [history_append]
    simp [journal, state, done]
  have htarget : done.2.device.boundTarget =
      taken.newTarget?.getD state.device.boundTarget ∧
        Borrows state.device.boundTarget done.1.journal := by
    by_cases hworld : ∃ change, taken = .world change
    · obtain ⟨change, rfl⟩ := hworld
      obtain ⟨hjournal, hbound, -⟩ := state.step_world change
      refine ⟨hbound, ?_⟩
      rw [show done.1.journal = [] from hjournal]
      exact .nil
    · obtain ⟨α, action, haction, hjournal, hdevice⟩ :=
        leavesTarget.step state fun change htaken => hworld ⟨change, htaken⟩
      have hnone : taken.newTarget? = none := by
        unfold DuplicatorStep.newTarget?
        split
        · exact absurd ⟨_, rfl⟩ hworld
        · rfl
      rw [hnone, show done.2.device = _ from hdevice, show done.1.journal = _ from hjournal]
      exact ⟨haction.boundTarget state.device, haction.borrows state.device⟩
  refine ⟨htarget.1, htarget.2, ?_, hnext.presents⟩
  rw [hhistory]
  exact hnext.restores

/-- A frame is presented over the target that the caller bound. -/
example :
    let steps : List DuplicatorStep := [.create 0, .world (.setTarget 77),
      .world (.pushFrames 0 [.frame ⟨640, 480⟩ .bgra8]), .use 0 .update]
    let device := (after singleOutputDevice.outputs .standard steps).device
    device.presents.length = 1 ∧ device.restores = 1 ∧ device.boundTarget = 77 := by
  decide +kernel

end DuplicatorState
end Scenario
end DesktopCapture
