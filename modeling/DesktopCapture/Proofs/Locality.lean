import DesktopCapture.Proofs.Run

/-!
# One monitor at a time

Getting a handle and using one are about one monitor.  Of all that a scenario keeps
they read and write the cell of that monitor, its handle and its session, and apart
from it the device.  Here is what each of them does to a cell, and that a step does
no more than this.

The other steps ask, reset or drop; what they do to the sessions does not depend on
any one of them.
-/

namespace DesktopCapture

open Capture

/-- The session of a monitor, if there is one. -/
abbrev Seat := Option Session

namespace Seat

/-- Get a handle to the session of a monitor, starting it if there is none. -/
def create (config : SessionConfig) (index : UInt32) : Seat → Capture (Option Handle × Seat)
  | some session => pure (some ⟨index⟩, some { session with refs := session.refs + 1 })
  | none => do
    match ← Session.start index config with
    | .ok session => pure (some ⟨index⟩, some session)
    | .error (.notFound _) =>
      notify [] (.noMonitor index)
      pure (none, none)
    | .error error =>
      notify [] (.createFailed index error)
      pure (none, none)

/-- Release a handle of a monitor. -/
def destroy (index : UInt32) : Seat → Capture Seat
  | none => do
    notify [] (.unregisteredRelease index)
    pure none
  | some session =>
    if session.refs - 1 = 0 then do
      notify [] (.destroyingSession index)
      session.release
      pure none
    else pure (some { session with refs := session.refs - 1 })

/-- Poll the session of a monitor. -/
def update : Seat → Capture (Bool × Seat)
  | none => pure (false, none)
  | some session => do
    let (alive, session) ← session.update
    pure (alive, some session)

/-- Show or hide the preview of a monitor's session. -/
def setVisible (visible : Bool) : Seat → Capture Seat
  | none => pure none
  | some session => do
    let session ← session.setPreviewVisible visible
    pure (some session)

/-- Use a handle of a monitor. -/
def use (index : UInt32) (seat : Seat) : Scenario.HandleUse → Capture (Scenario.Reply × Seat)
  | .destroy => do
    let seat ← seat.destroy index
    pure (.nothing, seat)
  | .update => do
    let (alive, seat) ← seat.update
    pure (.flag alive, seat)
  | .setVisible visible => do
    let seat ← seat.setVisible visible
    pure (.nothing, seat)
  | .window step =>
    match seat.bind fun session => Scenario.WindowStep.onSession? session step with
    | none => pure (.noPreview, seat)
    | some session => pure (.nothing, some session)
  | .texture => pure (.ofOption .texture (seat.bind Session.texture), seat)
  | .colorSpace => pure (.ofOption .colorSpace (seat.map (·.cache.colorSpace)), seat)
  | .sdrWhite => pure (.ofOption .white (seat.map (·.color.sdrWhite)), seat)
  | .isHdr => pure (.ofOption .flag (seat.map (·.color.hdr)), seat)
  | .frameAvailable => pure (.ofOption .flag (seat.map (·.frameAvailable)), seat)
  | .session => pure (.ofOption .session seat, seat)

end Seat

namespace Duplicator

/-- Put what is to be at a monitor in its place. -/
def setSeat (duplicator : Duplicator) (index : UInt32) (seat : Seat) : Duplicator :=
  ⟨{ duplicator.registry with sessions := duplicator.registry.sessions.set index seat }⟩

theorem setSeat_self (duplicator : Duplicator) (handle : Handle) :
    duplicator.setSeat handle.monitor (duplicator.session? handle) = duplicator := by
  unfold setSeat session? Registry.get?
  rw [MonitorTable.set_get?]

theorem setSeat_of_session? {duplicator : Duplicator} {handle : Handle} {seat : Seat}
    (hseat : duplicator.session? handle = seat) :
    duplicator.setSeat handle.monitor seat = duplicator := by
  rw [← hseat, setSeat_self]

/-- What an action on the seat of a monitor leaves of the duplicator. -/
def withSeat (duplicator : Duplicator) (index : UInt32) (done : Traced (α × Seat)) :
    Traced (α × Duplicator) :=
  ⟨(done.value.1, duplicator.setSeat index done.value.2), done.device, done.journal⟩

theorem createSession_eq (duplicator : Duplicator) (index : UInt32) (device : Device) :
    duplicator.createSession index device = duplicator.withSeat index
      (Seat.create duplicator.registry.config index (duplicator.session? ⟨index⟩) device) := by
  cases hseat : duplicator.session? ⟨index⟩ with
  | some session =>
      have hlive : duplicator.registry.get? ⟨index⟩ = some session := hseat
      simp only [createSession, Registry.acquire, hlive]
      rfl
  | none =>
      have hvacant : duplicator.registry.get? ⟨index⟩ = none := hseat
      have hsame := setSeat_of_session? hseat
      simp only [createSession, Registry.acquire, hvacant, Seat.create, bind_apply, withSeat]
      rcases (Session.start index duplicator.registry.config device).value with
        (other | error | _ | _) | session
      all_goals simp [hsame]
      rfl

theorem destroySession_eq (duplicator : Duplicator) (handle : Handle) (device : Device) :
    let done := Seat.destroy handle.monitor (duplicator.session? handle) device
    duplicator.destroySession handle device =
      ⟨duplicator.setSeat handle.monitor done.value, done.device, done.journal⟩ := by
  cases hseat : duplicator.session? handle with
  | none =>
      have hvacant : duplicator.registry.get? handle = none := hseat
      simp [destroySession, Registry.release, hvacant, Seat.destroy,
        setSeat_of_session? hseat]
  | some session =>
      have hlive : duplicator.registry.get? handle = some session := hseat
      by_cases hlast : session.refs - 1 = 0
      · simp [destroySession, Registry.release, hlive, Seat.destroy, hlast]
        rfl
      · simp [destroySession, Registry.release, hlive, Seat.destroy, hlast]
        rfl

theorem updateFrame_eq (duplicator : Duplicator) (handle : Handle) (device : Device) :
    duplicator.updateFrame handle device = duplicator.withSeat handle.monitor
      (Seat.update (duplicator.session? handle) device) := by
  cases hseat : duplicator.session? handle with
  | none =>
      have hvacant : duplicator.registry.get? handle = none := hseat
      simp [updateFrame, Registry.update, hvacant, Seat.update, withSeat,
        setSeat_of_session? hseat]
  | some session =>
      have hlive : duplicator.registry.get? handle = some session := hseat
      simp [updateFrame, Registry.update, hlive, Seat.update, withSeat]
      rfl

theorem setPreviewVisible_eq (duplicator : Duplicator) (handle : Handle) (visible : Bool)
    (device : Device) :
    let done := Seat.setVisible visible (duplicator.session? handle) device
    duplicator.setPreviewVisible handle visible device =
      ⟨duplicator.setSeat handle.monitor done.value, done.device, done.journal⟩ := by
  cases hseat : duplicator.session? handle with
  | none =>
      have hvacant : duplicator.registry.get? handle = none := hseat
      simp [setPreviewVisible, Registry.update, hvacant, Seat.setVisible,
        setSeat_of_session? hseat]
  | some session =>
      have hlive : duplicator.registry.get? handle = some session := hseat
      simp [setPreviewVisible, Registry.update, hlive, Seat.setVisible]
      rfl

end Duplicator

namespace Scenario.DuplicatorState

/-- Using a handle is using it on the seat of its monitor. -/
theorem useHandle_eq (duplicator : Duplicator) (handle : Handle) (use : HandleUse)
    (device : Device) :
    useHandle duplicator handle use device = duplicator.withSeat handle.monitor
      (Seat.use handle.monitor (duplicator.session? handle) use device) := by
  have hself := duplicator.setSeat_self handle
  cases use with
  | destroy => simp [useHandle, Seat.use, Duplicator.withSeat, duplicator.destroySession_eq]
  | update => simp [useHandle, Seat.use, Duplicator.withSeat, duplicator.updateFrame_eq]
  | setVisible visible =>
      simp [useHandle, Seat.use, Duplicator.withSeat, duplicator.setPreviewVisible_eq]
  | window step =>
      rcases hwindow : (duplicator.session? handle).bind
        fun session => WindowStep.onSession? session step with _ | session'
      · simp [useHandle, Seat.use, hwindow, Duplicator.withSeat, hself]
      · simp [useHandle, Seat.use, hwindow, Duplicator.withSeat]
        rfl
  | texture => simp [useHandle, Seat.use, Duplicator.withSeat, hself, Duplicator.texture?]
  | colorSpace => simp [useHandle, Seat.use, Duplicator.withSeat, hself, Duplicator.colorSpace?]
  | sdrWhite => simp [useHandle, Seat.use, Duplicator.withSeat, hself, Duplicator.sdrWhite?]
  | isHdr => simp [useHandle, Seat.use, Duplicator.withSeat, hself, Duplicator.isHdr?]
  | frameAvailable =>
      simp [useHandle, Seat.use, Duplicator.withSeat, hself, Duplicator.frameAvailable?]
  | session => simp [useHandle, Seat.use, Duplicator.withSeat, hself]

end Scenario.DuplicatorState

/-! ## Cells -/

/-- A start ends with a handle and a session, or with neither. -/
theorem Seat.create_value (config : SessionConfig) (index : UInt32) (seat : Seat)
    (device : Device) :
    (∃ session, (Seat.create config index seat device).value = (some ⟨index⟩, some session)) ∨
      seat = none ∧ (Seat.create config index seat device).value = (none, none) := by
  cases seat with
  | some session => exact .inl ⟨_, rfl⟩
  | none =>
      simp only [Seat.create, bind_apply]
      rcases (Session.start index config device).value with (other | error | _ | _) | session
      · exact .inr ⟨trivial, rfl⟩
      · exact .inr ⟨trivial, rfl⟩
      · exact .inr ⟨trivial, rfl⟩
      · exact .inr ⟨trivial, rfl⟩
      · exact .inl ⟨session, rfl⟩

namespace Scenario

/-- What can be done about one monitor. -/
inductive Operation
  | create
  | use (usage : HandleUse)

/-- The step that does it. -/
def Operation.toStep (index : UInt32) : Operation → DuplicatorStep
  | .create => .create index
  | .use usage => .use index usage

/-- What a scenario keeps of one monitor. -/
structure Cell where
  handle : Option Handle
  session : Seat

namespace Cell

/-- Do something about a monitor.  Without a handle there is nothing to use. -/
def perform (config : SessionConfig) (index : UInt32) (cell : Cell) :
    Operation → Capture (Reply × Cell)
  | .create => do
    let (handle, session) ← Seat.create config index cell.session
    pure (.ofOption .handle handle, ⟨handle.or cell.handle, session⟩)
  | .use usage =>
    match cell.handle with
    | none => pure (.noHandle, cell)
    | some _ => do
      let (reply, session) ← cell.session.use index usage
      pure (reply, { cell with session })

/-- The handle of a cell is its monitor's, and a session comes with a handle. -/
structure IsSound (index : UInt32) (cell : Cell) : Prop where
  handle : ∀ handle, cell.handle = some handle → handle = ⟨index⟩
  session : cell.handle = none → cell.session = none

theorem IsSound.perform {index : UInt32} {cell : Cell} (hsound : cell.IsSound index)
    (config : SessionConfig) (operation : Operation) (device : Device) :
    (cell.perform config index operation device).value.2.IsSound index := by
  cases operation with
  | create =>
      rcases Seat.create_value config index cell.session device with
        ⟨session, hvalue⟩ | ⟨hvacant, hvalue⟩
      · simp only [Cell.perform, bind_apply, pure_apply, hvalue]
        refine ⟨?_, nofun⟩
        rintro handle ⟨⟩
        rfl
      · simp only [Cell.perform, bind_apply, pure_apply, hvalue]
        exact ⟨hsound.handle, fun _ => rfl⟩
  | use usage =>
      cases hhandle : cell.handle with
      | none =>
          simp only [Cell.perform, hhandle, pure_apply]
          exact hsound
      | some handle =>
          have hmonitor := hsound.handle handle hhandle
          simp only [Cell.perform, hhandle, bind_apply, pure_apply]
          refine ⟨?_, nofun⟩
          rintro handle' ⟨⟩
          exact hmonitor

end Cell

namespace DuplicatorState

/-- What a state keeps of a monitor. -/
def cell (state : DuplicatorState) (index : UInt32) : Cell :=
  ⟨state.handles.get? index, state.sessions.get? index⟩

/-- The state with another cell of a monitor and another device. -/
def putCell (state : DuplicatorState) (index : UInt32) (cell : Cell) (device : Device) :
    DuplicatorState :=
  { device
    duplicator := state.duplicator.map fun duplicator => duplicator.setSeat index cell.session
    handles := state.handles.set index cell.handle }

theorem cell_putCell {state : DuplicatorState} {duplicator : Duplicator}
    (hduplicator : state.duplicator = some duplicator) (index other : UInt32) (cell : Cell)
    (device : Device) : (state.putCell index cell device).cell other =
      if other = index then cell else state.cell other := by
  have hsessions : (state.putCell index cell device).sessions =
      state.sessions.set index cell.session := by
    simp only [sessions, putCell, hduplicator]
    rfl
  rw [DuplicatorState.cell, hsessions, MonitorTable.get?_set]
  simp only [putCell, MonitorTable.get?_set]
  split
  · rfl
  · rfl

theorem duplicator_putCell {state : DuplicatorState} {duplicator : Duplicator}
    (hduplicator : state.duplicator = some duplicator) (index : UInt32) (cell : Cell)
    (device : Device) : (state.putCell index cell device).duplicator =
      some (duplicator.setSeat index cell.session) := by
  rw [putCell, hduplicator, Option.map_some]

theorem config_putCell (state : DuplicatorState) (index : UInt32) (cell : Cell)
    (device : Device) : (state.putCell index cell device).duplicator.map (·.registry.config) =
      state.duplicator.map (·.registry.config) := by
  rw [putCell, Option.map_map]
  rfl

/-- States with the same device, the same configuration and the same cells are the
same. -/
theorem ext_cell {state state' : DuplicatorState} (hdevice : state'.device = state.device)
    (hconfig : state'.duplicator.map (·.registry.config) =
      state.duplicator.map (·.registry.config))
    (hcell : ∀ index, state'.cell index = state.cell index) : state' = state := by
  have hhandles : state'.handles = state.handles :=
    MonitorTable.ext_get? fun index => congrArg Cell.handle (hcell index)
  have hsessions : state'.sessions = state.sessions :=
    MonitorTable.ext_get? fun index => congrArg Cell.session (hcell index)
  obtain ⟨device, duplicator, handles⟩ := state
  obtain ⟨device', duplicator', handles'⟩ := state'
  cases hdevice
  cases hhandles
  congr 1
  rcases duplicator with _ | ⟨⟨registered, config⟩⟩ <;>
    rcases duplicator' with _ | ⟨⟨registered', config'⟩⟩
  · rfl
  · cases hconfig
  · cases hconfig
  · have hsame : registered' = registered := hsessions
    cases hsame
    cases hconfig
    rfl

theorem putCell_self (state : DuplicatorState) (index : UInt32) :
    state.putCell index (state.cell index) state.device = state := by
  obtain ⟨device, _ | duplicator, handles⟩ := state
  · simp [putCell, DuplicatorState.cell, MonitorTable.set_get?]
  · have hself := duplicator.setSeat_self ⟨index⟩
    simp only [putCell, DuplicatorState.cell, MonitorTable.set_get?, Option.map_some]
    congr 2

/-- A step about one monitor does something to its cell and to the device, and no
more. -/
theorem step_toStep {state : DuplicatorState} {duplicator : Duplicator}
    (hduplicator : state.duplicator = some duplicator) {index : UInt32}
    (hsound : (state.cell index).IsSound index) (operation : Operation) :
    let done := (state.cell index).perform duplicator.registry.config index operation
      state.device
    state.step (operation.toStep index) =
      (⟨done.value.1, done.journal⟩, state.putCell index done.value.2 done.device) := by
  obtain ⟨device, _, handles⟩ := state
  cases hduplicator
  have hseat : ∀ handle : Handle, handle = ⟨index⟩ →
      duplicator.session? handle = duplicator.registry.sessions.get? index := by
    rintro handle rfl
    rfl
  have hkept : handles.set index (handles.get? index) = handles :=
    handles.set_get? index
  cases operation with
  | create =>
      simp only [Operation.toStep, step, DuplicatorState.create, Cell.perform, bind_apply,
        pure_apply, List.append_nil, duplicator.createSession_eq, hseat ⟨index⟩ rfl,
        DuplicatorState.cell, sessions, Duplicator.withSeat, putCell, Option.map_some]
      rcases Seat.create_value duplicator.registry.config index
        (duplicator.registry.sessions.get? index) device with
        ⟨session, hvalue⟩ | ⟨-, hvalue⟩
      · rw [hvalue]
        rfl
      · rw [hvalue, Option.none_or, hkept]
  | use usage =>
      have hself : duplicator.setSeat index (duplicator.registry.sessions.get? index) =
          duplicator := duplicator.setSeat_self ⟨index⟩
      cases hhandle : handles.get? index with
      | none =>
          simp only [Operation.toStep, step, hhandle, Cell.perform, DuplicatorState.cell,
            pure_apply, putCell, Option.map_some, sessions]
          rw [← hhandle, hkept, hself]
      | some handle =>
          have hmonitor := hsound.handle handle hhandle
          subst hmonitor
          simp only [Operation.toStep, step, hhandle, Cell.perform, DuplicatorState.cell,
            perform, useHandle_eq, hseat ⟨index⟩ rfl, Duplicator.withSeat, bind_apply,
            pure_apply, List.append_nil, putCell, Option.map_some, sessions]
          rw [← hhandle, hkept]

theorem cell_toStep {state : DuplicatorState} {duplicator : Duplicator}
    (hduplicator : state.duplicator = some duplicator) {index : UInt32}
    (hsound : (state.cell index).IsSound index) (operation : Operation) (other : UInt32) :
    (state.step (operation.toStep index)).2.cell other =
      if other = index then
        ((state.cell index).perform duplicator.registry.config index operation
          state.device).value.2
      else state.cell other := by
  rw [step_toStep hduplicator hsound operation]
  exact cell_putCell hduplicator index other _ _

/-- Any other step leaves the handles alone, and the sessions but for their marks,
unless it drops them all. -/
theorem step_elsewhere {state : DuplicatorState} {duplicator : Duplicator}
    (hduplicator : state.duplicator = some duplicator) {taken : DuplicatorStep}
    (helsewhere : ∀ index operation, taken ≠ Operation.toStep index operation) :
    (state.step taken).2.handles = state.handles ∧
      ((state.step taken).2.sessions = state.sessions ∨
        taken = .resetAll ∧
          (state.step taken).2.sessions = state.sessions.map Session.reset ∨
        (state.step taken).2.sessions = .empty) := by
  obtain ⟨device, _, handles⟩ := state
  cases hduplicator
  cases taken with
  | create index => exact absurd rfl (helsewhere index .create)
  | use index use => exact absurd rfl (helsewhere index (.use use))
  | resetAll => exact ⟨rfl, .inr (.inl ⟨rfl, rfl⟩)⟩
  | drop => exact ⟨rfl, .inr (.inr rfl)⟩
  | _ => exact ⟨rfl, .inl rfl⟩

/-- Once the duplicator is dropped, there are no sessions and no more handles. -/
theorem step_dropped {state : DuplicatorState} (hduplicator : state.duplicator = none)
    (taken : DuplicatorStep) :
    (state.step taken).2.duplicator = none ∧
      (state.step taken).2.handles = state.handles := by
  obtain ⟨device, _, handles⟩ := state
  cases hduplicator
  cases taken <;> exact ⟨rfl, rfl⟩

theorem toStep_dropped {state : DuplicatorState} (hduplicator : state.duplicator = none)
    (index : UInt32) (operation : Operation) :
    state.step (operation.toStep index) = (⟨.dropped, []⟩, state) := by
  cases operation <;> simp [Operation.toStep, step, hduplicator]

/-- Every cell is sound. -/
def Sound (state : DuplicatorState) : Prop := ∀ index, (state.cell index).IsSound index

/-- The cell of a live session. -/
theorem Sound.cell_live {state : DuplicatorState} (hsound : state.Sound) {index : UInt32}
    {session : Session} (hlive : state.sessions.get? index = some session) :
    state.cell index = ⟨some ⟨index⟩, some session⟩ := by
  have hhandle : (state.cell index).handle = some ⟨index⟩ := by
    cases hhandle : (state.cell index).handle with
    | none =>
        have hvacant : state.sessions.get? index = none := (hsound index).session hhandle
        rw [hvacant] at hlive
        cases hlive
    | some handle => rw [(hsound index).handle handle hhandle]
  rw [← hhandle, ← hlive]
  rfl

/-- Sessions live in a duplicator only. -/
theorem exists_duplicator {state : DuplicatorState} {index : UInt32}
    (hlive : state.sessions.get? index ≠ none) :
    ∃ duplicator, state.duplicator = some duplicator := by
  cases hduplicator : state.duplicator with
  | none => exact absurd (by rw [sessions, hduplicator]; rfl) hlive
  | some duplicator => exact ⟨duplicator, rfl⟩

/-- To use a handle of a live session is to use it on the session. -/
theorem Sound.use_live {state : DuplicatorState} (hsound : state.Sound) {index : UInt32}
    {session : Session} (hlive : state.sessions.get? index = some session) (usage : HandleUse) :
    let done := state.step (.use index usage)
    let used := Seat.use index (some session) usage state.device
    done.1 = ⟨used.value.1, used.journal⟩ ∧ done.2.sessions.get? index = used.value.2 ∧
      done.2.device = used.device := by
  intro done used
  have hsome : state.sessions.get? index ≠ none := by simp [hlive]
  obtain ⟨duplicator, hduplicator⟩ := exists_duplicator hsome
  have hcell := hsound.cell_live hlive
  have hstep : done = _ := step_toStep hduplicator (hsound index) (.use usage)
  have hafter : done.2.cell index = _ :=
    cell_toStep hduplicator (hsound index) (.use usage) index
  rw [if_pos rfl, hcell] at hafter
  rw [hcell] at hstep
  refine ⟨?_, (congrArg Cell.session hafter).trans ?_, ?_⟩
  · rw [hstep]
    simp [Cell.perform, used]
  · simp [Cell.perform, used]
  · rw [hstep]
    simp [Cell.perform, putCell, used]

/-- An update of a live session writes, answers and leaves what the update of the session
does. -/
theorem Sound.update_live {state : DuplicatorState} (hsound : state.Sound) {index : UInt32}
    {session : Session} (hlive : state.sessions.get? index = some session) :
    let done := state.step (.use index .update)
    let updated := session.update state.device
    done.1 = ⟨.flag updated.value.1, updated.journal⟩ ∧
      done.2.sessions.get? index = some updated.value.2 := by
  intro done updated
  obtain ⟨hrecord, hsession, -⟩ := hsound.use_live hlive .update
  refine ⟨hrecord.trans ?_, hsession.trans ?_⟩
  · simp [Seat.use, Seat.update, updated]
  · simp [Seat.use, Seat.update, updated]

theorem Sound.step {state : DuplicatorState} (hsound : state.Sound) (taken : DuplicatorStep) :
    (state.step taken).2.Sound := by
  rcases hduplicator : state.duplicator with _ | duplicator
  · obtain ⟨hdropped, hhandles⟩ := step_dropped hduplicator taken
    intro index
    have hcell : (state.step taken).2.cell index = ⟨state.handles.get? index, none⟩ := by
      simp [DuplicatorState.cell, sessions, hdropped, hhandles]
    rw [hcell]
    exact ⟨(hsound index).handle, fun _ => rfl⟩
  · by_cases hlocal : ∃ index operation, taken = Operation.toStep index operation
    · obtain ⟨index, operation, rfl⟩ := hlocal
      intro other
      rw [cell_toStep hduplicator (hsound index) operation]
      by_cases hother : other = index
      · rw [if_pos hother, hother]
        exact (hsound index).perform _ operation _
      · rw [if_neg hother]
        exact hsound other
    · obtain ⟨hhandles, hsessions⟩ := step_elsewhere hduplicator
        fun index operation htaken => hlocal ⟨index, operation, htaken⟩
      intro index
      refine ⟨?_, ?_⟩
      · simp only [DuplicatorState.cell, hhandles]
        exact (hsound index).handle
      · intro hhandle
        simp only [DuplicatorState.cell, hhandles] at hhandle ⊢
        have hvacant : state.sessions.get? index = none := (hsound index).session hhandle
        rcases hsessions with hsame | ⟨-, hreset⟩ | hempty
        · rw [hsame, hvacant]
        · rw [hreset, MonitorTable.get?_map, hvacant]
          rfl
        · rw [hempty]
          rfl

/-- A session that is live after a step was touched by an operation on its monitor, was
live as it is, or was reset. -/
theorem Sound.step_session {state : DuplicatorState} (hsound : state.Sound)
    {taken : DuplicatorStep} {index : UInt32} {session' : Session}
    (hlive : (state.step taken).2.sessions.get? index = some session') :
    (∃ config operation, taken = Operation.toStep index operation ∧
      let done := (state.cell index).perform config index operation state.device
      (state.step taken).1 = ⟨done.value.1, done.journal⟩ ∧
        done.value.2.session = some session') ∨
    state.sessions.get? index = some session' ∨
    ∃ session, state.sessions.get? index = some session ∧ taken = .resetAll ∧
      session' = session.reset := by
  obtain ⟨duplicator', hduplicator'⟩ := exists_duplicator (Option.ne_none_iff_exists'.mpr
    ⟨session', hlive⟩)
  rcases hduplicator : state.duplicator with _ | duplicator
  · rw [(step_dropped hduplicator taken).1] at hduplicator'
    cases hduplicator'
  · by_cases hlocal : ∃ other operation, taken = Operation.toStep other operation
    · obtain ⟨other, operation, rfl⟩ := hlocal
      have hcell := cell_toStep hduplicator (hsound other) operation index
      have hput := (congrArg Cell.session hcell).symm.trans hlive
      split at hput
      · next hindex =>
        subst hindex
        rw [step_toStep hduplicator (hsound index) operation]
        exact .inl ⟨duplicator.registry.config, operation, rfl, rfl, hput⟩
      · exact .inr (.inl hput)
    · obtain ⟨-, hsame | ⟨hreset, hsessions⟩ | hempty⟩ := step_elsewhere hduplicator
        fun other operation htaken => hlocal ⟨other, operation, htaken⟩
      · rw [hsame] at hlive
        exact .inr (.inl hlive)
      · rw [hsessions, MonitorTable.get?_map] at hlive
        obtain ⟨session, hsession, rfl⟩ := Option.map_eq_some_iff.mp hlive
        exact .inr (.inr ⟨session, hsession, hreset, rfl⟩)
      · rw [hempty] at hlive
        cases hlive

theorem Sound.run {state : DuplicatorState} (hsound : state.Sound)
    (steps : List DuplicatorStep) : (runFrom DuplicatorState.step state steps).2.Sound := by
  induction steps generalizing state with
  | nil => exact hsound
  | cons taken rest ih => exact ih (hsound.step taken)

theorem sound_after (outputs : List OutputConfig) (config : SessionConfig)
    (steps : List DuplicatorStep) : (after outputs config steps).Sound := by
  have hinitial : (initial outputs config).Sound := fun index => ⟨nofun, fun _ => rfl⟩
  exact hinitial.run steps

end DuplicatorState
end Scenario
end DesktopCapture
