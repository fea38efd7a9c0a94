import DesktopCapture.Proofs.Conduct
import DesktopCapture.Proofs.Run

/-!
# The turns of a run

A step of a duplicator that is not dropped takes one of few turns: it begins a
session, ends one, counts a handle more or less, or leaves all of this alone.  Each
turn says what becomes of the live sessions and what the journal can hold, so that
counting handles needs no more than a case for each turn.
-/

namespace DesktopCapture

open Capture Scenario

/-- What a step means for the handles: one is got, one is given back, or neither. -/
inductive Transfer
  | none
  | got (handle : Handle)
  | returned (handle : Handle)

/-- The transfer of a step, by its reply and by the handles remembered before it. -/
def Transfer.of (handles : MonitorTable Handle) : DuplicatorStep → Reply → Transfer
  | .create _, .handle handle => .got handle
  | .use index .destroy, _ => (handles.get? index).elim .none .returned
  | _, _ => .none

/-- The live sessions are the same ones at a later time. -/
def Steady (sessions sessions' : MonitorTable Session) : Prop :=
  ∀ index, Option.Rel Session.Continues (sessions.get? index) (sessions'.get? index)

/-- What a step can do to the live sessions, with the transfer and the journal that
go with it. -/
inductive Turn (sessions : MonitorTable Session) :
    Transfer → List Entry → MonitorTable Session → Prop
  | steady {journal : List Entry} {sessions' : MonitorTable Session}
      (hwithin : ∀ entry ∈ journal, entry.IsWithin) (hsteady : Steady sessions sessions') :
      Turn sessions .none journal sessions'
  | refused {index : UInt32} {journal : List Entry}
      (hvacant : sessions.get? index = none)
      (hstarting : ∀ entry ∈ journal, entry.IsStarting index) :
      Turn sessions .none journal sessions
  | started {index : UInt32} {journal : List Entry} {session : Session}
      (hvacant : sessions.get? index = none)
      (hstarting : ∀ entry ∈ journal, entry.IsStarting index)
      (hnew : session.IsNew index) :
      Turn sessions (.got ⟨index⟩) journal (sessions.insert index session)
  | joined {index : UInt32} {session : Session}
      (hlive : sessions.get? index = some session) :
      Turn sessions (.got ⟨index⟩) []
        (sessions.insert index { session with refs := session.refs + 1 })
  | left {handle : Handle} {session : Session}
      (hlive : sessions.get? handle.monitor = some session)
      (hrefs : session.refs - 1 ≠ 0) :
      Turn sessions (.returned handle) []
        (sessions.insert handle.monitor { session with refs := session.refs - 1 })
  | ended {handle : Handle} {session : Session} {journal : List Entry}
      (hlive : sessions.get? handle.monitor = some session)
      (hrefs : session.refs - 1 = 0) (hwithin : ∀ entry ∈ journal, entry.IsWithin) :
      Turn sessions (.returned handle)
        (.notice [] (.destroyingSession handle.monitor) :: journal)
        (sessions.erase handle.monitor)
  | missed {handle : Handle} (hvacant : sessions.get? handle.monitor = none) :
      Turn sessions (.returned handle)
        [.notice [] (.unregisteredRelease handle.monitor)] sessions

theorem Session.Continues.refl (session : Session) : session.Continues session :=
  ⟨rfl, rfl, rfl, .inl rfl⟩

namespace Steady

theorem refl (sessions : MonitorTable Session) : Steady sessions sessions := by
  intro index
  cases sessions.get? index with
  | none => exact .none
  | some session => exact .some (.refl session)

theorem insert {sessions : MonitorTable Session} {index : UInt32}
    {session session' : Session} (hlive : sessions.get? index = some session)
    (hcontinues : session.Continues session') :
    Steady sessions (sessions.insert index session') := by
  intro other
  rw [MonitorTable.get?_insert]
  by_cases hother : other = index
  · rw [if_pos hother, hother, hlive]
    exact .some hcontinues
  · rw [if_neg hother]
    exact refl sessions other

theorem reset (sessions : MonitorTable Session) :
    Steady sessions (sessions.map Session.reset) := by
  intro index
  rw [MonitorTable.get?_map]
  cases sessions.get? index with
  | none => exact .none
  | some session => exact .some ⟨rfl, rfl, rfl, .inl rfl⟩

end Steady

/-! ## Steps that leave the handles alone -/

/-- A question about the outputs writes what it asks. -/
theorem does_question {α : Type} {question : Capture α}
    (hquestion : ∀ kept : Assertion, kept.Quiet → Triple kept question (fun _ => kept)) :
    Does question (fun entry => entry.isQuestion = true) (fun _ => True) := by
  have hquiet : Assertion.Quiet (fun past _ => ∀ entry ∈ past, entry.isQuestion = true) := by
    constructor
    intro past device entry faults hentry hpast written hwritten
    rcases List.mem_append.mp hwritten with hold | hnew
    · exact hpast written hold
    · rwa [List.mem_singleton.mp hnew]
  constructor
  · intro device
    exact hquestion _ hquiet [] device (List.forall_mem_nil _)
  · exact fun _ => trivial

/-- Asking neither begins nor ends a session. -/
theorem Entry.isWithin_of_isQuestion {entry : Entry} (hquestion : entry.isQuestion = true) :
    entry.IsWithin := by
  unfold isQuestion at hquestion
  split at hquestion <;> first | exact ⟨rfl, rfl⟩ | cases hquestion

theorem does_updateSession {α : Type} {registry : Registry} {handle : Handle}
    {action : Session → Capture (α × Session)}
    (haction : ∀ session, Does (action session) Entry.IsWithin
      (fun result => session.Continues result.2)) :
    Does (registry.update handle action) Entry.IsWithin
      (fun result => Steady registry.sessions result.2.sessions) := by
  unfold Registry.update Registry.get?
  rcases hlive : registry.sessions.get? handle.monitor with _ | session
  · exact Does.pure (.refl _)
  · exact Does.bind (haction session) fun result hcontinues =>
      Does.pure (.insert hlive hcontinues)

/-- A session goes on when its preview is shown or hidden. -/
theorem does_setVisible (visible : Bool) (session : Session) :
    Does (do let session ← session.setPreviewVisible visible; pure ((), session))
      Entry.IsWithin (fun result => session.Continues result.2) := by
  refine Does.bind (session.does_setPreviewVisible visible) fun session' hpreview => ?_
  obtain ⟨preview, rfl⟩ := hpreview
  exact Does.pure ⟨rfl, rfl, rfl, .inl rfl⟩

/-- All that is done with a handle, short of giving it back, is steady. -/
theorem does_useHandle (duplicator : Duplicator) (handle : Handle) {use : HandleUse}
    (huse : use ≠ .destroy) :
    Does (DuplicatorState.useHandle duplicator handle use) Entry.IsWithin
      (fun result => Steady duplicator.registry.sessions result.2.registry.sessions) := by
  have hunchanged := Steady.refl duplicator.registry.sessions
  cases use with
  | destroy => exact absurd rfl huse
  | update =>
      have hupdated : Does (duplicator.updateFrame handle) Entry.IsWithin
          (fun result => Steady duplicator.registry.sessions result.2.registry.sessions) :=
        Does.bind (does_updateSession Session.does_update) fun result hsteady =>
          Does.pure hsteady
      exact Does.bind hupdated fun result hsteady => Does.pure hsteady
  | setVisible visible =>
      have hshown : Does (duplicator.setPreviewVisible handle visible) Entry.IsWithin
          (fun changed => Steady duplicator.registry.sessions changed.registry.sessions) :=
        Does.bind (does_updateSession (does_setVisible visible)) fun result hsteady =>
          Does.pure hsteady
      exact Does.bind hshown fun changed hsteady => Does.pure hsteady
  | window step =>
      unfold DuplicatorState.useHandle Duplicator.session? Registry.get?
      rcases hlive : duplicator.registry.sessions.get? handle.monitor with _ | session
      · exact Does.pure hunchanged
      · dsimp only [Option.bind_some]
        rcases hstep : WindowStep.onSession? session step with _ | session'
        · exact Does.pure hunchanged
        · obtain ⟨preview, -, rfl⟩ := Option.map_eq_some_iff.mp hstep
          exact Does.pure (.insert hlive ⟨rfl, rfl, rfl, .inl rfl⟩)
  | texture => exact Does.pure hunchanged
  | colorSpace => exact Does.pure hunchanged
  | sdrWhite => exact Does.pure hunchanged
  | isHdr => exact Does.pure hunchanged
  | frameAvailable => exact Does.pure hunchanged
  | session => exact Does.pure hunchanged

/-! ## Getting a handle and giving it back -/

theorem createSession_turn (duplicator : Duplicator) (index : UInt32) (device : Device) :
    let done := duplicator.createSession index device
    Turn duplicator.registry.sessions (done.value.1.elim .none .got) done.journal
      done.value.2.registry.sessions := by
  rcases hlive : duplicator.registry.sessions.get? index with _ | session
  · have hstarting := (Session.does_start index duplicator.registry.config).writes device
    have hnew := (Session.does_start index duplicator.registry.config).yields device
    rcases hstarted : (Session.start index duplicator.registry.config device).value with
      error | session
    · have htold : ∀ notice : Notice, (Entry.notice [] notice).ends? = none →
          ∀ entry ∈ (Session.start index duplicator.registry.config device).journal ++
            [.notice [] notice], entry.IsStarting index := by
        intro notice hends entry hentry
        rcases List.mem_append.mp hentry with hbefore | hlast
        · exact hstarting entry hbefore
        · rw [List.mem_singleton.mp hlast]
          exact Entry.isStarting_of_within rfl hends
      cases error with
      | _ =>
          simp only [Duplicator.createSession, Registry.acquire, Registry.get?, bind_apply,
            pure_apply, notify, note, hlive, hstarted, List.append_nil]
          exact .refused hlive (htold _ rfl)
    · rw [hstarted] at hnew
      simp only [Duplicator.createSession, Registry.acquire, Registry.get?, bind_apply,
        pure_apply, hlive, hstarted, List.append_nil]
      exact .started hlive hstarting hnew
  · simp only [Duplicator.createSession, Registry.acquire, Registry.get?, bind_apply,
      pure_apply, hlive, List.append_nil]
    exact .joined hlive

theorem destroySession_turn (duplicator : Duplicator) (handle : Handle) (device : Device) :
    let done := duplicator.destroySession handle device
    Turn duplicator.registry.sessions (.returned handle) done.journal
      done.value.registry.sessions := by
  rcases hlive : duplicator.registry.sessions.get? handle.monitor with _ | session
  · simp only [Duplicator.destroySession, Registry.release, Registry.get?, bind_apply,
      pure_apply, notify, note, hlive, List.append_nil]
    exact .missed hlive
  · by_cases hrefs : session.refs - 1 = 0
    · simp only [Duplicator.destroySession, Registry.release, Registry.get?, bind_apply,
        pure_apply, notify, note, hlive, hrefs, if_true, List.append_nil]
      exact .ended hlive hrefs (session.does_release.writes device)
    · simp only [Duplicator.destroySession, Registry.release, Registry.get?, bind_apply,
        pure_apply, hlive, hrefs, if_false, List.append_nil]
      exact .left hlive hrefs

/-! ## The turn of a step -/

/-- A step that does not drop the duplicator takes a turn and leaves a duplicator. -/
theorem step_turn {state : DuplicatorState} {duplicator : Duplicator}
    (hduplicator : state.duplicator = some duplicator) {taken : DuplicatorStep}
    (htaken : taken ≠ .drop) :
    (∃ duplicator', (state.step taken).2.duplicator = some duplicator') ∧
      Turn state.sessions (Transfer.of state.handles taken (state.step taken).1.reply)
        (state.step taken).1.journal (state.step taken).2.sessions := by
  obtain ⟨device, _, handles⟩ := state
  cases hduplicator
  have hunchanged : Turn duplicator.registry.sessions .none []
      duplicator.registry.sessions := .steady (List.forall_mem_nil _) (.refl _)
  have hperformed : ∀ action : Capture (Reply × Duplicator),
      Does action Entry.IsWithin
        (fun result => Steady duplicator.registry.sessions result.2.registry.sessions) →
      Turn duplicator.registry.sessions .none (action device).journal
        (action device).value.2.registry.sessions := by
    intro action hdoes
    exact .steady (hdoes.writes device) (hdoes.yields device)
  have hasked : ∀ {α : Type} (question : Capture α) (reply : α → Reply),
      (∀ kept : Assertion, kept.Quiet → Triple kept question (fun _ => kept)) →
      Does (do let answer ← question; pure (reply answer, duplicator)) Entry.IsWithin
        (fun result => Steady duplicator.registry.sessions result.2.registry.sessions) := by
    intro α question reply hquestion
    have hasking := (does_question hquestion).weaken
      (fun _ => Entry.isWithin_of_isQuestion) fun _ => id
    exact Does.bind hasking fun _ _ => Does.pure (.refl _)
  cases taken with
  | drop => exact absurd rfl htaken
  | world change => exact ⟨⟨_, rfl⟩, hunchanged⟩
  | inspect => exact ⟨⟨_, rfl⟩, hunchanged⟩
  | count => exact ⟨⟨_, rfl⟩, hunchanged⟩
  | boundTarget => exact ⟨⟨_, rfl⟩, hunchanged⟩
  | resetAll => exact ⟨⟨_, rfl⟩, .steady (List.forall_mem_nil _) (.reset _)⟩
  | monitors =>
      exact ⟨⟨_, rfl⟩, hperformed _ (hasked _ _ fun _ hquiet => hquiet.monitors)⟩
  | monitorIndex monitor =>
      exact ⟨⟨_, rfl⟩, hperformed _ (hasked _ _ fun _ hquiet => hquiet.monitorIndex monitor)⟩
  | monitorInfo index =>
      exact ⟨⟨_, rfl⟩, hperformed _ (hasked _ _ fun _ hquiet => hquiet.monitorInfo index)⟩
  | create index =>
      refine ⟨⟨_, rfl⟩, ?_⟩
      have hcreated := createSession_turn duplicator index device
      simp only [DuplicatorState.step, DuplicatorState.create]
      cases hhandle : (duplicator.createSession index device).value.1 with
      | none =>
          simp only [hhandle] at hcreated
          exact hcreated
      | some handle =>
          simp only [hhandle] at hcreated
          exact hcreated
  | use index use =>
      cases hhandle : handles.get? index with
      | none =>
          simp only [DuplicatorState.step, hhandle]
          refine ⟨⟨_, rfl⟩, ?_⟩
          cases use with
          | destroy =>
              simp only [Transfer.of, hhandle]
              exact hunchanged
          | _ => exact hunchanged
      | some handle =>
          simp only [DuplicatorState.step, hhandle]
          refine ⟨⟨_, rfl⟩, ?_⟩
          by_cases huse : use = .destroy
          · subst huse
            have hdestroyed := destroySession_turn duplicator handle device
            simp only [DuplicatorState.perform, DuplicatorState.useHandle, Transfer.of,
              hhandle, bind_apply, pure_apply, List.append_nil]
            exact hdestroyed
          · have hused := hperformed _ (does_useHandle duplicator handle huse)
            cases use with
            | destroy => exact absurd rfl huse
            | _ => exact hused

end DesktopCapture
