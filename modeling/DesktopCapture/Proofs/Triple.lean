import DesktopCapture.Device.Capture

/-!
# Triples of actions on the device

An assertion speaks of the journal written so far and of the device.  A triple
says that an action leads from one assertion to another, which may also speak of
the action's value.  Triples compose as actions do, so a fact about a whole
operation is put together from facts about single calls, and a fact about a run
from facts about operations.
-/

namespace DesktopCapture

/-- What is said of the journal so far and of the device. -/
abbrev Assertion := List Entry → Device → Prop

namespace Device

/-- The device fails a call: by a queued fault, which is used up, or because the script
says so. -/
def Refuses (device : Device) (point : FaultPoint) (scripted : Prop) (faults : Faults) : Prop :=
  (∃ error, device.faults.take? point = some (error, faults)) ∨
    device.faults.take? point = none ∧ scripted ∧ faults = device.faults

/-- A call that meets no fault is refused only as it is scripted. -/
theorem Refuses.scripted {device : Device} {point : FaultPoint} {scripted : Prop}
    {faults : Faults} (hrefused : device.Refuses point scripted faults)
    (hasked : device.faults.take? point = none) : scripted := by
  rcases hrefused with ⟨error, htake⟩ | ⟨-, hscripted, -⟩
  · rw [hasked] at htake
    cases htake
  · exact hscripted

end Device

namespace Capture

variable {α β : Type}

/-- Whenever `before` holds, the action leads to `after`: of its value, of the
journal with the entries of the action behind it, and of the device it leaves. -/
def Triple (before : Assertion) (action : Capture α) (after : α → Assertion) : Prop :=
  ∀ past device, before past device →
    after (action device).value (past ++ (action device).journal) (action device).device

theorem Triple.pure {before : Assertion} {after : α → Assertion} {value : α}
    (hafter : ∀ past device, before past device → after value past device) :
    Triple before (pure value) after := by
  intro past device hbefore
  simpa using hafter past device hbefore

theorem Triple.bind {before : Assertion} {middle : α → Assertion} {after : β → Assertion}
    {first : Capture α} {next : α → Capture β}
    (hfirst : Triple before first middle)
    (hnext : ∀ value, Triple (middle value) (next value) after) :
    Triple before (first >>= next) after := by
  intro past device hbefore
  have hmiddle := hfirst past device hbefore
  have hafter := hnext _ _ _ hmiddle
  simpa [List.append_assoc] using hafter

theorem Triple.pure_bind {before : Assertion} {after : β → Assertion} {value : α}
    {next : α → Capture β} (hnext : Triple before (next value) after) :
    Triple before (Pure.pure value >>= next) after := by
  intro past device hbefore
  simpa using hnext past device hbefore

theorem Triple.weaken {before before' : Assertion} {after after' : α → Assertion}
    {action : Capture α} (htriple : Triple before action after)
    (hbefore : ∀ past device, before' past device → before past device)
    (hafter : ∀ value past device, after value past device → after' value past device) :
    Triple before' action after' := by
  intro past device h
  exact hafter _ _ _ (htriple past device (hbefore past device h))

/-- A fact that is no matter of the journal or the device can be had before the
action is taken. -/
theorem Triple.of_and {fact : Prop} {before : Assertion} {after : α → Assertion}
    {action : Capture α} (htriple : fact → Triple before action after) :
    Triple (fun past device => before past device ∧ fact) action after := by
  intro past device h
  exact htriple h.2 past device h.1

/-- A call that can fail does so by a queued fault or as the device is scripted, or it
meets no fault and is done. -/
theorem fallible_outcomes {scripted : Prop} {point : FaultPoint} {call : Call}
    {answer : α → Answer} {act : Device → Except PlatformError (α × Device)} (device : Device)
    (hscripted : ∀ error, act device = .error error → scripted) :
    (∃ error faults, device.Refuses point scripted faults ∧
      fallible point call answer act device =
        ⟨.error error, { device with faults }, [.call call (.failed (.platform error))]⟩) ∨
    ∃ value device', device.faults.take? point = none ∧ act device = .ok (value, device') ∧
      fallible point call answer act device =
        ⟨.ok value, device', [.call call (answer value)]⟩ := by
  unfold fallible
  cases htake : device.faults.take? point with
  | some taken => exact .inl ⟨taken.1, taken.2, .inl ⟨taken.1, htake⟩, rfl⟩
  | none =>
      cases hact : act device with
      | error error =>
          have hrefused := hscripted error hact
          exact .inl ⟨error, device.faults, .inr ⟨htake, hrefused, rfl⟩, rfl⟩
      | ok done => exact .inr ⟨done.1, done.2, rfl, rfl, rfl⟩

/-- A call that can fail ends in one of two ways: it fails and at most uses up a
queued fault, or the device does what was asked of it. -/
theorem fallible_cases (point : FaultPoint) (call : Call) (answer : α → Answer)
    (act : Device → Except PlatformError (α × Device)) (device : Device) :
    (∃ error faults, fallible point call answer act device =
      ⟨.error error, { device with faults }, [.call call (.failed (.platform error))]⟩) ∨
    ∃ value device', act device = .ok (value, device') ∧
      fallible point call answer act device =
        ⟨.ok value, device', [.call call (answer value)]⟩ := by
  have hany : ∀ error, act device = .error error → True := fun _ _ => trivial
  rcases fallible_outcomes device hany with
    ⟨error, faults, -, hfailed⟩ | ⟨value, device', -, hact, hdone⟩
  · exact .inl ⟨error, faults, hfailed⟩
  · exact .inr ⟨value, device', hact, hdone⟩

/-- An acquisition fails or delivers a resource, and writes which. -/
theorem acquire_cases (duplication : Duplication) (timeoutMs : UInt32) (device : Device) :
    (∃ error device', acquire duplication timeoutMs device =
      ⟨.error error, device', [.call (.acquire duplication.output timeoutMs) (.failed error)]⟩) ∨
    ∃ resource device', acquire duplication timeoutMs device =
      ⟨.ok resource, device', [.call (.acquire duplication.output timeoutMs) .done]⟩ := by
  unfold acquire
  dsimp only
  split
  · exact .inl ⟨_, _, rfl⟩
  · split
    · exact .inr ⟨_, _, rfl⟩
    · exact .inl ⟨_, _, rfl⟩

theorem Triple.fallible {before : Assertion} {after : Except PlatformError α → Assertion}
    {point : FaultPoint} {call : Call} {answer : α → Answer}
    {act : Device → Except PlatformError (α × Device)}
    (hfailed : ∀ past device faults error, before past device →
      after (.error error) (past ++ [.call call (.failed (.platform error))])
        { device with faults })
    (hdone : ∀ past device value device', before past device →
      act device = .ok (value, device') →
        after (.ok value) (past ++ [.call call (answer value)]) device') :
    Triple before (fallible point call answer act) after := by
  intro past device hbefore
  rcases fallible_cases point call answer act device with
    ⟨error, faults, hresult⟩ | ⟨value, device', hact, hresult⟩
  · rw [hresult]
    exact hfailed past device faults error hbefore
  · rw [hresult]
    exact hdone past device value device' hbefore hact

end Capture
end DesktopCapture
