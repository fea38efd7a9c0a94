import DesktopCapture.Proofs.Triple
import DesktopCapture.Scenario.Duplicator
import Mathlib.Data.List.Induction

/-!
# Runs of a duplicator

A run takes steps from the beginning: consumers use the duplicator and the world
around it changes the device or the windows, in any order.  This module says once
what can happen to the sessions in a step.  An assertion about the live sessions
that is kept by everything that can happen to one session, by the world and by
what only asks or says something, holds at the end of every run.
-/

namespace DesktopCapture

namespace Entry

/-- What is asked of the outputs, and what the log is told of it. -/
def isQuestion : Entry → Bool
  | .call (.enumOutput _) _ | .call (.describe _) _ => true
  | .notice _ (.outputUnavailable ..) | .notice _ (.descriptorUnreadable ..) => true
  | _ => false

/-- Entries of no consequence: the log, and what is asked of the outputs. -/
def isQuiet : Entry → Bool
  | .notice .. | .spanEnd .. => true
  | entry => entry.isQuestion

theorem isQuiet_of_isQuestion {entry : Entry} (hquestion : entry.isQuestion = true) :
    entry.isQuiet = true := by
  unfold isQuiet
  split
  · rfl
  · rfl
  · exact hquestion

end Entry

namespace Scenario

/-- The journals of records, one behind the other. -/
def journal (records : List Record) : List Entry := records.flatMap Record.journal

namespace DuplicatorState

/-- The live sessions; there are none once the duplicator was dropped. -/
def sessions (state : DuplicatorState) : MonitorTable Session :=
  match state.duplicator with
  | some duplicator => duplicator.registry.sessions
  | none => .empty

/-- The state after steps from the beginning. -/
def after (outputs : List OutputConfig) (config : SessionConfig)
    (steps : List DuplicatorStep) : DuplicatorState :=
  (runFrom step (initial outputs config) steps).2

/-- Everything that happens in steps from the beginning. -/
def history (outputs : List OutputConfig) (config : SessionConfig)
    (steps : List DuplicatorStep) : List Entry :=
  journal (runFrom step (initial outputs config) steps).1

variable {outputs : List OutputConfig} {config : SessionConfig}

theorem after_append (before steps : List DuplicatorStep) :
    after outputs config (before ++ steps) =
      (runFrom step (after outputs config before) steps).2 := by
  rw [after, runFrom_append]
  rfl

theorem history_append (before steps : List DuplicatorStep) :
    history outputs config (before ++ steps) = history outputs config before ++
      journal (runFrom step (after outputs config before) steps).1 := by
  rw [history, runFrom_append, journal, List.flatMap_append]
  rfl

theorem after_concat (before : List DuplicatorStep) (taken : DuplicatorStep) :
    after outputs config (before ++ [taken]) =
      (step (after outputs config before) taken).2 := by
  rw [after_append]
  rfl

theorem history_concat (before : List DuplicatorStep) (taken : DuplicatorStep) :
    history outputs config (before ++ [taken]) = history outputs config before ++
      (step (after outputs config before) taken).1.journal := by
  rw [history_append]
  simp [journal]

/-- What holds at the beginning and is kept by every step holds after every run. -/
theorem run_induction {holds : List Entry → DuplicatorState → Prop}
    (hinitial : holds [] (initial outputs config))
    (hstep : ∀ past state taken, holds past state →
      holds (past ++ (step state taken).1.journal) (step state taken).2)
    (steps : List DuplicatorStep) :
    holds (history outputs config steps) (after outputs config steps) := by
  induction steps using List.reverseRecOn with
  | nil => exact hinitial
  | append_singleton before taken ih =>
      rw [history_concat, after_concat]
      exact hstep _ _ taken ih

end DuplicatorState
end Scenario

open Capture Scenario

/-- What is asserted once a session was to be started. -/
def whenStarted (kept : MonitorTable Session → Assertion) (sessions : MonitorTable Session)
    (index : UInt32) : Except CaptureError Session → Assertion
  | .ok session => kept (sessions.insert index session)
  | .error _ => kept sessions

/-- Given what else is known of the live sessions, an assertion about them is kept
by everything that can happen to them short of a drop of the duplicator. -/
structure Kept (given kept : MonitorTable Session → Assertion) : Prop where
  world : ∀ {sessions past device} (step : DeviceStep),
    given sessions past device → kept sessions past device →
      kept sessions past (DeviceStep.apply device step)
  quiet : ∀ {sessions past device entry} (faults : Faults), entry.isQuiet = true →
    given sessions past device → kept sessions past device →
      kept sessions (past ++ [entry]) { device with faults }
  start : ∀ {sessions index} (config : SessionConfig), sessions.get? index = none →
    Triple (fun past device => given sessions past device ∧ kept sessions past device)
      (Session.start index config) (whenStarted kept sessions index)
  update : ∀ {sessions index session}, sessions.get? index = some session →
    Triple (fun past device => given sessions past device ∧ kept sessions past device)
      session.update (fun result => kept (sessions.insert index result.2))
  setVisible : ∀ {sessions index session} (visible : Bool),
    sessions.get? index = some session →
      Triple (fun past device => given sessions past device ∧ kept sessions past device)
        (session.setPreviewVisible visible)
        (fun session' => kept (sessions.insert index session'))
  release : ∀ {sessions index session}, sessions.get? index = some session →
    Triple (fun past device => given sessions past device ∧ kept sessions past device)
      session.release (fun _ => kept (sessions.erase index))
  recount : ∀ {sessions index session past device} (refs : Nat), 0 < refs →
    sessions.get? index = some session → given sessions past device →
      kept sessions past device →
        kept (sessions.insert index { session with refs }) past device
  window : ∀ {sessions index session session' past device} (step : WindowStep),
    sessions.get? index = some session →
      WindowStep.onSession? session step = some session' →
        given sessions past device → kept sessions past device →
          kept (sessions.insert index session') past device
  reset : ∀ {sessions past device}, given sessions past device →
    kept sessions past device → kept (sessions.map Session.reset) past device

/-- An assertion that is kept whatever else is known. -/
abbrev Invariant (kept : MonitorTable Session → Assertion) : Prop :=
  Kept (fun _ _ _ => True) kept

/-- What is kept given an invariant is an invariant together with it. -/
theorem Kept.and {given kept : MonitorTable Session → Assertion}
    (hgiven : Invariant given) (hkept : Kept given kept) :
    Invariant (fun sessions past device =>
      given sessions past device ∧ kept sessions past device) where
  world := fun step _ h =>
    ⟨hgiven.world step trivial h.1, hkept.world step h.1 h.2⟩
  quiet := fun faults hquiet _ h =>
    ⟨hgiven.quiet faults hquiet trivial h.1, hkept.quiet faults hquiet h.1 h.2⟩
  start := by
    intro sessions index config hvacant past device h
    have hfirst := hgiven.start config hvacant past device ⟨trivial, h.2.1⟩
    have hsecond := hkept.start config hvacant past device h.2
    cases hstarted : (Session.start index config device).value with
    | ok session =>
        rw [hstarted] at hfirst hsecond
        exact ⟨hfirst, hsecond⟩
    | error error =>
        rw [hstarted] at hfirst hsecond
        exact ⟨hfirst, hsecond⟩
  update := fun hlive past device h =>
    ⟨hgiven.update hlive past device ⟨trivial, h.2.1⟩, hkept.update hlive past device h.2⟩
  setVisible := fun visible hlive past device h =>
    ⟨hgiven.setVisible visible hlive past device ⟨trivial, h.2.1⟩,
      hkept.setVisible visible hlive past device h.2⟩
  release := fun hlive past device h =>
    ⟨hgiven.release hlive past device ⟨trivial, h.2.1⟩,
      hkept.release hlive past device h.2⟩
  recount := fun refs hpositive hlive _ h =>
    ⟨hgiven.recount refs hpositive hlive trivial h.1,
      hkept.recount refs hpositive hlive h.1 h.2⟩
  window := fun step hlive hstep _ h =>
    ⟨hgiven.window step hlive hstep trivial h.1, hkept.window step hlive hstep h.1 h.2⟩
  reset := fun _ h => ⟨hgiven.reset trivial h.1, hkept.reset h.1 h.2⟩

/-- An invariant is kept whatever is given. -/
theorem Invariant.given {given kept : MonitorTable Session → Assertion}
    (hkept : Invariant kept) : Kept given kept where
  world := fun step _ h => hkept.world step trivial h
  quiet := fun faults hquiet _ h => hkept.quiet faults hquiet trivial h
  start := fun config hvacant past device h =>
    hkept.start config hvacant past device ⟨trivial, h.2⟩
  update := fun hlive past device h => hkept.update hlive past device ⟨trivial, h.2⟩
  setVisible := fun visible hlive past device h =>
    hkept.setVisible visible hlive past device ⟨trivial, h.2⟩
  release := fun hlive past device h => hkept.release hlive past device ⟨trivial, h.2⟩
  recount := fun refs hpositive hlive _ h => hkept.recount refs hpositive hlive trivial h
  window := fun step hlive hstep _ h => hkept.window step hlive hstep trivial h
  reset := fun _ h => hkept.reset trivial h

/-! ## Questions about the outputs -/

/-- An assertion that is kept by questions about the outputs and the faults they use
up. -/
structure Assertion.Quiet (kept : Assertion) : Prop where
  append : ∀ {past device entry} (faults : Faults), entry.isQuestion = true →
    kept past device → kept (past ++ [entry]) { device with faults }

namespace Assertion.Quiet

variable {kept : Assertion}

theorem notify (hquiet : kept.Quiet) {spans : List Span} {notice : Notice}
    (hquestion : (Entry.notice spans notice).isQuestion = true) :
    Triple kept (Capture.notify spans notice) (fun _ => kept) := by
  intro past device h
  exact hquiet.append device.faults hquestion h

theorem enumOutput (hquiet : kept.Quiet) (index : UInt32) :
    Triple kept (Capture.enumOutput index) (fun _ => kept) := by
  apply Triple.fallible
  · intro past device faults error h
    exact hquiet.append faults rfl h
  · intro past device output device' h hact
    obtain ⟨-, -, rfl⟩ := Device.enumOutput_ok hact
    exact hquiet.append device'.faults rfl h

theorem describe (hquiet : kept.Quiet) (output : Output) :
    Triple kept (Capture.describe output) (fun _ => kept) := by
  apply Triple.fallible
  · intro past device faults error h
    exact hquiet.append faults rfl h
  · intro past device description device' h hact
    obtain ⟨-, -, rfl⟩ := Device.describe_ok hact
    exact hquiet.append device'.faults rfl h

theorem monitorsFrom (hquiet : kept.Quiet) (limit : Nat) (index : UInt32) :
    Triple kept (Adapter.monitorsFrom limit index) (fun _ => kept) := by
  induction limit generalizing index with
  | zero => exact Triple.pure fun _ _ h => h
  | succ limit ih =>
      unfold Adapter.monitorsFrom
      refine Triple.bind (hquiet.enumOutput index) ?_
      rintro (error | _ | output)
      · exact Triple.pure fun _ _ h => h
      · exact Triple.pure fun _ _ h => h
      · refine Triple.bind (hquiet.describe output) ?_
        rintro (error | description)
        · exact Triple.pure fun _ _ h => h
        · refine Triple.bind (ih (index + 1)) ?_
          intro others
          exact Triple.pure fun _ _ h => h

theorem indexFrom (hquiet : kept.Quiet) (monitor : MonitorHandle) (limit : Nat)
    (index : UInt32) :
    Triple kept (Adapter.indexFrom monitor limit index) (fun _ => kept) := by
  induction limit generalizing index with
  | zero => exact Triple.pure fun _ _ h => h
  | succ limit ih =>
      unfold Adapter.indexFrom
      refine Triple.bind (hquiet.enumOutput index) ?_
      rintro (error | _ | output)
      · refine Triple.bind (hquiet.notify rfl) ?_
        intro _
        exact Triple.pure fun _ _ h => h
      · exact Triple.pure fun _ _ h => h
      · refine Triple.bind (hquiet.describe output) ?_
        rintro (error | description)
        · exact Triple.bind (hquiet.notify rfl) fun _ => ih (index + 1)
        · dsimp only
          split
          · exact Triple.pure fun _ _ h => h
          · exact ih (index + 1)

theorem monitors (hquiet : kept.Quiet) :
    Triple kept Duplicator.monitors (fun _ => kept) := by
  have hlisted : Triple kept Adapter.monitors (fun _ => kept) := by
    intro past device h
    exact hquiet.monitorsFrom _ 0 past device h
  refine Triple.bind hlisted ?_
  intro listed
  exact Triple.pure fun _ _ h => h

theorem monitorIndex (hquiet : kept.Quiet) (monitor : MonitorHandle) :
    Triple kept (Duplicator.monitorIndex monitor) (fun _ => kept) := by
  intro past device h
  exact hquiet.indexFrom monitor _ 0 past device h

theorem monitorInfo (hquiet : kept.Quiet) (index : UInt32) :
    Triple kept (Duplicator.monitorInfo index) (fun _ => kept) := by
  have houtput : Triple kept (Adapter.output index) (fun _ => kept) := by
    refine Triple.bind (hquiet.enumOutput index) ?_
    rintro (error | _ | output)
    · exact Triple.pure fun _ _ h => h
    · exact Triple.pure fun _ _ h => h
    · exact Triple.pure fun _ _ h => h
  refine Triple.bind houtput ?_
  rintro (error | output)
  · exact Triple.pure fun _ _ h => h
  · refine Triple.bind (hquiet.describe output) ?_
    rintro (error | description)
    · exact Triple.pure fun _ _ h => h
    · exact Triple.pure fun _ _ h => h

end Assertion.Quiet

/-! ## The operations of a duplicator -/

namespace Invariant

variable {kept : MonitorTable Session → Assertion}

theorem quiet (hkept : Invariant kept) (sessions : MonitorTable Session) :
    Assertion.Quiet (kept sessions) where
  append := fun faults hquestion h =>
    Kept.quiet hkept faults (Entry.isQuiet_of_isQuestion hquestion) trivial h

theorem notify (hkept : Invariant kept) (sessions : MonitorTable Session)
    (spans : List Span) (notice : Notice) :
    Triple (kept sessions) (Capture.notify spans notice) (fun _ => kept sessions) := by
  intro past device h
  exact Kept.quiet hkept device.faults rfl trivial h

/-- What is asserted of the live sessions of a duplicator. -/
abbrev of (kept : MonitorTable Session → Assertion) (duplicator : Duplicator) : Assertion :=
  kept duplicator.registry.sessions

theorem createSession (hkept : Invariant kept) (duplicator : Duplicator) (index : UInt32) :
    Triple (of kept duplicator) (duplicator.createSession index)
      (fun result => of kept result.2) := by
  have hacquired : Triple (of kept duplicator) (duplicator.registry.acquire index)
      (fun
        | .ok acquired => kept acquired.2.sessions
        | .error _ => of kept duplicator) := by
    unfold Registry.acquire Registry.get?
    dsimp only
    rcases hlive : duplicator.registry.sessions.get? index with _ | session
    · refine Triple.bind ((hkept.start duplicator.registry.config hlive).weaken
        (fun _ _ h => ⟨trivial, h⟩) (fun _ _ _ h => h)) ?_
      rintro (error | session)
      · exact Triple.pure fun _ _ h => h
      · exact Triple.pure fun _ _ h => h
    · apply Triple.pure
      intro past device h
      exact hkept.recount (session.refs + 1) (Nat.succ_pos _) hlive trivial h
  refine Triple.bind hacquired ?_
  rintro ((index | error | _ | _) | acquired)
  · exact Triple.bind (hkept.notify _ _ _) fun _ => Triple.pure fun _ _ h => h
  · exact Triple.bind (hkept.notify _ _ _) fun _ => Triple.pure fun _ _ h => h
  · exact Triple.bind (hkept.notify _ _ _) fun _ => Triple.pure fun _ _ h => h
  · exact Triple.bind (hkept.notify _ _ _) fun _ => Triple.pure fun _ _ h => h
  · exact Triple.pure fun _ _ h => h

theorem destroySession (hkept : Invariant kept) (duplicator : Duplicator) (handle : Handle) :
    Triple (of kept duplicator) (duplicator.destroySession handle)
      (fun duplicator' => of kept duplicator') := by
  have hreleased : Triple (of kept duplicator) (duplicator.registry.release handle)
      (fun registry => kept registry.sessions) := by
    unfold Registry.release Registry.get?
    rcases hlive : duplicator.registry.sessions.get? handle.monitor with _ | session
    · exact Triple.bind (hkept.notify _ _ _) fun _ => Triple.pure fun _ _ h => h
    · dsimp only
      split
      · refine Triple.bind (hkept.notify _ _ _) ?_
        intro _
        refine Triple.bind ((hkept.release hlive).weaken
          (fun _ _ h => ⟨trivial, h⟩) (fun _ _ _ h => h)) ?_
        intro _
        exact Triple.pure fun _ _ h => h
      · next hrefs =>
        apply Triple.pure
        intro past device h
        exact hkept.recount (session.refs - 1) (Nat.pos_of_ne_zero hrefs) hlive trivial h
  refine Triple.bind hreleased ?_
  intro registry
  exact Triple.pure fun _ _ h => h

/-- A handle's session is changed by an action that keeps the assertion; without a
session there is nothing to change. -/
theorem updateSession {α : Type} {registry : Registry} {handle : Handle}
    {action : Session → Capture (α × Session)}
    (haction : ∀ session, registry.sessions.get? handle.monitor = some session →
      Triple (kept registry.sessions) (action session)
        (fun result => kept (registry.sessions.insert handle.monitor result.2))) :
    Triple (kept registry.sessions) (registry.update handle action)
      (fun result => kept result.2.sessions) := by
  unfold Registry.update Registry.get?
  rcases hlive : registry.sessions.get? handle.monitor with _ | session
  · exact Triple.pure fun _ _ h => h
  · refine Triple.bind (haction session hlive) ?_
    intro result
    exact Triple.pure fun _ _ h => h

theorem updateFrame (hkept : Invariant kept) (duplicator : Duplicator) (handle : Handle) :
    Triple (of kept duplicator) (duplicator.updateFrame handle)
      (fun result => of kept result.2) := by
  refine Triple.bind (updateSession fun session hlive => (hkept.update hlive).weaken
    (fun _ _ h => ⟨trivial, h⟩) (fun _ _ _ h => h)) ?_
  intro result
  exact Triple.pure fun _ _ h => h

theorem setPreviewVisible (hkept : Invariant kept) (duplicator : Duplicator)
    (handle : Handle) (visible : Bool) :
    Triple (of kept duplicator) (duplicator.setPreviewVisible handle visible)
      (fun duplicator' => of kept duplicator') := by
  refine Triple.bind (updateSession fun session hlive => ?_) ?_
  · refine Triple.bind ((hkept.setVisible visible hlive).weaken
      (fun _ _ h => ⟨trivial, h⟩) (fun _ _ _ h => h)) ?_
    intro session'
    exact Triple.pure fun _ _ h => h
  · intro result
    exact Triple.pure fun _ _ h => h

/-- A drop destroys the sessions in order, until none is left. -/
theorem releaseSessions (hkept : Invariant kept) (sessions : MonitorTable Session) :
    Triple (kept sessions) (Registry.releaseSessions sessions.values)
      (fun _ => kept .empty) := by
  rcases hentries : sessions.entries with _ | ⟨⟨index, session⟩, rest⟩
  · have hempty : sessions = .empty := by
      cases sessions
      cases hentries
      rfl
    subst hempty
    exact Triple.pure fun _ _ h => h
  · have hlive : sessions.get? index = some session :=
      MonitorTable.mem_entries_iff.mp (by simp [hentries])
    have hrest := MonitorTable.entries_erase_head hentries
    have hvalues : sessions.values = session :: (sessions.erase index).values := by
      rw [MonitorTable.values, MonitorTable.values, hrest, hentries, List.map_cons]
    rw [hvalues]
    refine Triple.bind ((hkept.release hlive).weaken
      (fun _ _ h => ⟨trivial, h⟩) (fun _ _ _ h => h)) ?_
    intro _
    exact hkept.releaseSessions (sessions.erase index)
  termination_by sessions.entries.length
  decreasing_by simp [hrest, hentries]

theorem useHandle (hkept : Invariant kept) (duplicator : Duplicator) (handle : Handle)
    (use : HandleUse) :
    Triple (of kept duplicator) (DuplicatorState.useHandle duplicator handle use)
      (fun result => of kept result.2) := by
  cases use with
  | destroy =>
      refine Triple.bind (hkept.destroySession duplicator handle) ?_
      intro duplicator'
      exact Triple.pure fun _ _ h => h
  | update =>
      refine Triple.bind (hkept.updateFrame duplicator handle) ?_
      intro result
      exact Triple.pure fun _ _ h => h
  | setVisible visible =>
      refine Triple.bind (hkept.setPreviewVisible duplicator handle visible) ?_
      intro duplicator'
      exact Triple.pure fun _ _ h => h
  | window step =>
      unfold DuplicatorState.useHandle Duplicator.session? Registry.get?
      rcases hlive : duplicator.registry.sessions.get? handle.monitor with _ | session
      · exact Triple.pure fun _ _ h => h
      · dsimp only [Option.bind_some]
        rcases hstep : WindowStep.onSession? session step with _ | session'
        · exact Triple.pure fun _ _ h => h
        · apply Triple.pure
          intro past device h
          exact hkept.window step hlive hstep trivial h
  | texture => exact Triple.pure fun _ _ h => h
  | colorSpace => exact Triple.pure fun _ _ h => h
  | sdrWhite => exact Triple.pure fun _ _ h => h
  | isHdr => exact Triple.pure fun _ _ h => h
  | frameAvailable => exact Triple.pure fun _ _ h => h
  | session => exact Triple.pure fun _ _ h => h

/-- The step that asks a question keeps what the question keeps. -/
theorem ask {α : Type} (hkept : Invariant kept) {duplicator : Duplicator}
    {question : Capture α} (reply : α → Reply)
    (hquestion : Assertion.Quiet (of kept duplicator) →
      Triple (of kept duplicator) question (fun _ => of kept duplicator)) :
    Triple (of kept duplicator)
      (do let answer ← question; pure (reply answer, duplicator))
      (fun result => of kept result.2) := by
  refine Triple.bind (hquestion (hkept.quiet _)) ?_
  intro answer
  exact Triple.pure fun _ _ h => h

theorem create (hkept : Invariant kept) {past : List Entry} (state : DuplicatorState)
    (duplicator : Duplicator) (index : UInt32) (h : of kept duplicator past state.device) :
    kept (state.create duplicator index).2.sessions
      (past ++ (state.create duplicator index).1.journal)
      (state.create duplicator index).2.device :=
  hkept.createSession duplicator index past state.device h

/-- Every step keeps an invariant of the live sessions. -/
theorem step (hkept : Invariant kept) (past : List Entry) (state : DuplicatorState)
    (taken : DuplicatorStep) (h : kept state.sessions past state.device) :
    kept (state.step taken).2.sessions (past ++ (state.step taken).1.journal)
      (state.step taken).2.device := by
  have hunchanged : kept state.sessions (past ++ []) state.device := by
    rwa [List.append_nil]
  rcases state with ⟨device, _ | duplicator, handles⟩
  · -- Once the duplicator is dropped, nothing but the world changes.
    cases taken with
    | world change => exact hkept.world change trivial hunchanged
    | _ => exact hunchanged
  · cases taken with
    | world change => exact hkept.world change trivial hunchanged
    | inspect => exact hunchanged
    | count => exact hunchanged
    | boundTarget => exact hunchanged
    | resetAll => exact hkept.reset trivial hunchanged
    | monitors => exact hkept.ask _ (fun hquiet => hquiet.monitors) past device h
    | monitorIndex monitor =>
        exact hkept.ask _ (fun hquiet => hquiet.monitorIndex monitor) past device h
    | monitorInfo index =>
        exact hkept.ask _ (fun hquiet => hquiet.monitorInfo index) past device h
    | create index => exact hkept.create _ duplicator index h
    | use index use =>
        rcases hhandle : handles.get? index with _ | handle
        · simpa only [DuplicatorState.step, hhandle] using hunchanged
        · simp only [DuplicatorState.step, hhandle]
          exact hkept.useHandle duplicator handle use past device h
    | drop => exact hkept.releaseSessions duplicator.registry.sessions past device h

/-- An invariant that holds without sessions holds after every run. -/
theorem after_steps (hkept : Invariant kept) (outputs : List OutputConfig)
    (config : SessionConfig) (hinitial : kept .empty [] (.ofOutputs outputs))
    (steps : List DuplicatorStep) :
    kept (DuplicatorState.after outputs config steps).sessions
      (DuplicatorState.history outputs config steps)
      (DuplicatorState.after outputs config steps).device :=
  @DuplicatorState.run_induction outputs config
    (fun past state => kept state.sessions past state.device)
    hinitial (fun past state taken => hkept.step past state taken) steps

end Invariant
end DesktopCapture
