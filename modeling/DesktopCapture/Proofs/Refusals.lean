import DesktopCapture.Proofs.Locality

/-!
# Refused sessions

A session is refused when its output is missing or cannot be enumerated, or when its
duplication fails; after that nothing can keep it from starting.  What can refuse it so
comes before anything is made, and a refusal leaves no trace but the queued fault that
it met, if it met one.
-/

namespace DesktopCapture

open Capture Scenario

namespace Device

/-- The duplication of an output fails: its negotiation does, or the output does not
negotiate and the duplication in the baseline mode fails. -/
inductive RefusesDuplication (device : Device) (config : OutputConfig) (faults : Faults) : Prop
  | negotiated (hfails : device.Refuses .duplicateWithFormats
      (config.negotiates = true ∧ device.fails .duplication = true) faults)
  | baseline (hasked : device.faults.take? .duplicateWithFormats = none)
      (hbaseline : config.negotiates = false)
      (hfails : device.Refuses .duplicate (device.fails .duplication = true) faults)

/-- A session cannot be started on an index: the enumeration of the output fails, there
is no output, or its duplication fails. -/
inductive RefusesSession (device : Device) (index : UInt32) (faults : Faults) : Prop
  | unenumerated (hfails : device.Refuses .enumOutput
      (device.enumerationFailsAt = some index) faults)
  | missing (hasked : device.faults.take? .enumOutput = none)
      (henumerated : device.enumerationFailsAt ≠ some index)
      (hmissing : device.outputs[index.toNat]? = none) (hfaults : faults = device.faults)
  | unduplicated {config : OutputConfig} (hasked : device.faults.take? .enumOutput = none)
      (henumerated : device.enumerationFailsAt ≠ some index)
      (hfound : device.outputs[index.toNat]? = some config)
      (hfails : device.RefusesDuplication config faults)

end Device

/-- The entries of a start that comes to nothing: what is asked of the output, the
duplications that are not made, and the log. -/
def Entry.isFruitless : Entry → Bool
  | .call (.enumOutput _) _ | .call (.duplicateWithFormats ..) .absent => true
  | .call (.duplicateWithFormats ..) (.failed _) | .call (.duplicate _) (.failed _) => true
  | .notice .. | .spanEnd _ => true
  | _ => false

namespace Capture

variable {ε α : Type}

/-- What was done came to nothing: it took some faults from the device and wrote
entries to that effect. -/
structure Fruitless (device : Device) (faults : Faults) (done : Traced α) : Prop where
  device : done.device = { device with faults }
  journal : ∀ entry ∈ done.journal, entry.isFruitless = true

/-- An attempt is refused and comes to nothing, or it is not refused and succeeds. -/
def Attempts (refused : Faults → Prop) (device : Device) (done : Traced (Except ε α)) : Prop :=
  (∃ error faults, refused faults ∧ done.value = .error error ∧ Fruitless device faults done) ∨
    (∀ faults, ¬refused faults) ∧ ∃ value, done.value = .ok value

end Capture

namespace Session

/-- An output is duplicated unless its duplication is refused. -/
theorem attempts_openDuplication (spans : List Span) (output : Output) (device : Device) :
    Attempts (device.RefusesDuplication output.config) device
      (openDuplication spans output device) := by
  have hnegotiation : ∀ error,
      Device.duplicateWithFormats output offeredFormats device = .error error →
        output.config.negotiates = true ∧ device.fails .duplication = true := by
    intro error hact
    unfold Device.duplicateWithFormats at hact
    split at hact
    · cases hact
    · next hnegotiates =>
      split at hact
      · next hfails => exact ⟨by simpa using hnegotiates, hfails⟩
      · cases hact
  have hduplication : ∀ error, Device.duplicate output device = .error error →
      device.fails .duplication = true := by
    intro error hact
    unfold Device.duplicate at hact
    split at hact
    · next hfails => exact hfails
    · cases hact
  simp only [openDuplication, bind_apply]
  rcases fallible_outcomes device hnegotiation with
    ⟨error, faults, hrefused, hasked⟩ | ⟨negotiated, device', hnone, hact, hasked⟩
  · rw [duplicateWithFormats, hasked]
    exact .inl ⟨error, faults, .negotiated hrefused, rfl, rfl, List.forall_mem_singleton.mpr rfl⟩
  · rw [duplicateWithFormats, hasked]
    rcases Device.duplicateWithFormats_ok hact with
      ⟨hbaseline, rfl, rfl⟩ | ⟨hnegotiates, hunfailing, rfl, rfl⟩
    · simp only [bind_apply, notify, note]
      rcases fallible_outcomes device' hduplication with
        ⟨error, faults, hrefused, hduplicated⟩ | ⟨duplication, device', hnone', hact', hduplicated⟩
      · rw [duplicate, hduplicated]
        refine .inl ⟨error, faults, .baseline hnone hbaseline hrefused, rfl, rfl, ?_⟩
        simp [Entry.isFruitless]
      · rw [duplicate, hduplicated]
        refine .inr ⟨?_, _, rfl⟩
        rintro faults (hrefused | ⟨-, -, hrefused⟩)
        · have hnegotiates := (hrefused.scripted hnone).1
          rw [hbaseline] at hnegotiates
          cases hnegotiates
        · have hunfailing := (Device.duplicate_ok hact').1
          rw [hrefused.scripted hnone'] at hunfailing
          cases hunfailing
    · refine .inr ⟨?_, ?_⟩
      · rintro faults (hrefused | ⟨-, hbaseline, -⟩)
        · have hfails := (hrefused.scripted hnone).2
          rw [hunfailing] at hfails
          cases hfails
        · rw [hnegotiates] at hbaseline
          cases hbaseline
      · simp only [bind_apply]
        cases (colorInfo output { device with offeredFormats := offeredFormats }).value with
        | ok color => exact ⟨_, rfl⟩
        | error error => exact ⟨_, rfl⟩

theorem attempts_startWithin (spans : List Span) (index : UInt32) (config : SessionConfig)
    (device : Device) :
    Attempts (device.RefusesSession index) device (startWithin spans index config device) := by
  have henumeration : ∀ error, Device.enumOutput index device = .error error →
      device.enumerationFailsAt = some index := by
    intro error hact
    unfold Device.enumOutput at hact
    split at hact
    · next hfails => exact hfails
    · cases hact
  simp only [startWithin, Adapter.output, bind_apply]
  rcases fallible_outcomes device henumeration with
    ⟨error, faults, hrefused, hasked⟩ | ⟨found, device', hnone, hact, hasked⟩
  · rw [enumOutput, hasked]
    exact .inl ⟨_, faults, .unenumerated hrefused, rfl, rfl, List.forall_mem_singleton.mpr rfl⟩
  · rw [enumOutput, hasked]
    obtain ⟨henumerated, rfl, rfl⟩ := Device.enumOutput_ok hact
    cases hfound : device'.outputs[index.toNat]? with
    | none =>
        refine .inl ⟨.notFound index, device'.faults, ?_, rfl, rfl, ?_⟩
        · exact .missing hnone henumerated hfound rfl
        · exact List.forall_mem_singleton.mpr rfl
    | some described =>
        simp only [Option.map_some, pure_apply, bind_apply]
        rcases attempts_openDuplication spans ⟨index, described⟩ device' with
          ⟨error, faults, hrefused, hopened, hfruitless⟩ | ⟨hunrefused, opened, hopened⟩
        · rw [hopened]
          refine .inl ⟨.platform error, faults, ?_, rfl, hfruitless.device, ?_⟩
          · exact .unduplicated hnone henumerated hfound hrefused
          · simpa [Entry.isFruitless] using hfruitless.journal
        · rw [hopened]
          refine .inr ⟨?_, ?_⟩
          · rintro faults (hrefused | ⟨-, -, hmissing, -⟩ | ⟨-, -, hfound', hrefused⟩)
            · exact henumerated (hrefused.scripted hnone)
            · rw [hfound] at hmissing
              cases hmissing
            · cases hfound.symm.trans hfound'
              exact hunrefused faults hrefused
          · dsimp only
            split
            · exact ⟨_, rfl⟩
            · exact ⟨_, rfl⟩

/-- A session is started on an index unless it is refused there. -/
theorem attempts_start (index : UInt32) (config : SessionConfig) (device : Device) :
    Attempts (device.RefusesSession index) device (start index config device) := by
  simp only [start, bind_apply]
  rcases attempts_startWithin [.sessionStart index] index config device with
    ⟨error, faults, hrefused, hvalue, hfruitless⟩ | ⟨hunrefused, session, hvalue⟩
  · rw [hvalue]
    refine .inl ⟨error, faults, hrefused, rfl, hfruitless.device, ?_⟩
    simpa [notify, endSpan, note, Entry.isFruitless, or_imp, forall_and] using hfruitless.journal
  · rw [hvalue]
    exact .inr ⟨hunrefused, session, rfl⟩

end Session

/-- Where no session is, a handle is got unless the session is refused. -/
theorem Seat.create_cases (config : SessionConfig) (index : UInt32) (device : Device) :
    (∃ faults, device.RefusesSession index faults ∧
      (Seat.create config index none device).value = (none, none) ∧
      Fruitless device faults (Seat.create config index none device)) ∨
    (∀ faults, ¬device.RefusesSession index faults) ∧
      ∃ session, (Seat.create config index none device).value = (some ⟨index⟩, some session) := by
  simp only [Seat.create, bind_apply]
  rcases Session.attempts_start index config device with
    ⟨error, faults, hrefused, hvalue, hfruitless⟩ | ⟨hunrefused, session, hvalue⟩
  · have htold : ∀ notice : Notice, ∀ entry ∈
        (Session.start index config device).journal ++ [.notice [] notice],
          entry.isFruitless = true := by
      intro notice
      exact List.forall_mem_append.mpr ⟨hfruitless.journal, List.forall_mem_singleton.mpr rfl⟩
    rw [hvalue]
    cases error with
    | notFound other => exact .inl ⟨faults, hrefused, rfl, hfruitless.device, htold _⟩
    | platform error => exact .inl ⟨faults, hrefused, rfl, hfruitless.device, htold _⟩
    | accessLost => exact .inl ⟨faults, hrefused, rfl, hfruitless.device, htold _⟩
    | timeout => exact .inl ⟨faults, hrefused, rfl, hfruitless.device, htold _⟩
  · rw [hvalue]
    exact .inr ⟨hunrefused, session, rfl⟩

namespace Scenario.DuplicatorState

/-- A creation comes to nothing where no session is and the device refuses one; otherwise
it yields a handle. -/
theorem create_cases {state : DuplicatorState} {duplicator : Duplicator}
    (hduplicator : state.duplicator = some duplicator) (index : UInt32) :
    let done := state.step (.create index)
    (∃ faults, state.sessions.get? index = none ∧ state.device.RefusesSession index faults ∧
      done.1.reply = .nothing ∧
      done.2 = { state with device := { state.device with faults } } ∧
      ∀ entry ∈ done.1.journal, entry.isFruitless = true) ∨
    (state.sessions.get? index = none → ∀ faults, ¬state.device.RefusesSession index faults) ∧
      done.1.reply = .handle ⟨index⟩ := by
  obtain ⟨device, _, handles⟩ := state
  cases hduplicator
  simp only [step, DuplicatorState.create, duplicator.createSession_eq, Duplicator.withSeat,
    sessions]
  cases hseat : duplicator.session? ⟨index⟩ with
  | some session =>
      have hlive : duplicator.registry.sessions.get? index = some session := hseat
      refine .inr ⟨fun hvacant => ?_, rfl⟩
      cases hlive.symm.trans hvacant
  | none =>
      rcases Seat.create_cases duplicator.registry.config index device with
        ⟨faults, hrefused, hvalue, hfruitless⟩ | ⟨hunrefused, session, hvalue⟩
      · have hsame := Duplicator.setSeat_of_session? hseat
        rw [hvalue, hfruitless.device]
        refine .inl ⟨faults, hseat, hrefused, rfl, ?_, hfruitless.journal⟩
        dsimp only
        rw [hsame]
      · rw [hvalue]
        exact .inr ⟨fun _ => hunrefused, rfl⟩

/-- A creation yields no handle exactly where no session is and the device refuses one:
the output is missing or cannot be enumerated, its negotiation fails, or it does not
negotiate and its duplication in the baseline mode fails.  All is then as it was, but for
the queued fault that the refusal used up, and nothing was made meanwhile. -/
theorem refused_creations_leave_no_trace (state : DuplicatorState) (index : UInt32) :
    let done := state.step (.create index)
    (done.1.reply = .nothing ↔ state.duplicator ≠ none ∧ state.sessions.get? index = none ∧
      ∃ faults, state.device.RefusesSession index faults) ∧
    (done.1.reply = .nothing → ∃ faults, state.device.RefusesSession index faults ∧
      done.2 = { state with device := { state.device with faults } } ∧
      ∀ entry ∈ done.1.journal, entry.isFruitless = true) := by
  intro done
  cases hduplicator : state.duplicator with
  | none =>
      have hreply : done.1.reply = .dropped := by
        simp only [done, step, hduplicator]
      rw [hreply]
      refine ⟨⟨fun h => ?_, fun h => absurd rfl h.1⟩, fun h => ?_⟩
      · cases h
      · cases h
  | some duplicator =>
      rcases create_cases hduplicator index with
        ⟨faults, hvacant, hrefused, hreply, hstate, hfruitless⟩ | ⟨hunrefused, hreply⟩
      · rw [hduplicator] at hstate
        have hsome : some duplicator ≠ none := Option.some_ne_none duplicator
        refine ⟨⟨fun _ => ⟨hsome, hvacant, faults, hrefused⟩, fun _ => hreply⟩, fun _ => ?_⟩
        exact ⟨faults, hrefused, hstate, hfruitless⟩
      · rw [show done.1.reply = _ from hreply]
        refine ⟨⟨fun h => ?_, ?_⟩, fun h => ?_⟩
        · cases h
        · rintro ⟨-, hvacant, faults, hrefused⟩
          exact absurd hrefused (hunrefused hvacant faults)
        · cases h

/-- An output that negotiates is refused by a fault, and not by the next start. -/
example :
    let state := after singleOutputDevice.outputs .standard
      [.world (.queueFault .duplicateWithFormats 7)]
    let refused := state.step (.create 0)
    (refused.1.reply matches .nothing) = true ∧ refused.2.sessions.get? 0 = none ∧
      ((refused.2.step (.create 0)).1.reply matches .handle _) = true := by
  decide +kernel

end Scenario.DuplicatorState
end DesktopCapture
