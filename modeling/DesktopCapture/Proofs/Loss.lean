import DesktopCapture.Proofs.Joining
import DesktopCapture.Proofs.Polls

/-!
# The loss of access

A session is lost once its duplication is invalidated.  Only an acquisition that says
so makes it lost, whatever else fails; a lost session rests until its last handle is
released, and a session that is started after that begins anew.
-/

namespace DesktopCapture

open Capture Scenario

namespace Session

theorem state_eq_lost {session : Session} : session.state = .lost ↔ session.duplication = none := by
  cases hduplication : session.duplication <;> simp [state, hduplication]

theorem state_eq_active {session : Session} :
    session.state = .active ↔ session.duplication ≠ none := by
  cases hduplication : session.duplication <;> simp [state, hduplication]

/-- An update finds the session lost and does nothing, or loses it because the
acquisition says so, or leaves it with its duplication. -/
theorem update_cases (session : Session) (device : Device) :
    (session.duplication = none ∧ session.update device = ⟨(false, session), device, []⟩) ∨
    (∃ duplication, session.duplication = some duplication ∧
      (session.update device).value = (false, { session with duplication := none }) ∧
      .call (.acquire duplication.output 0) (.failed .accessLost) ∈
        (session.update device).journal) ∨
    (session.duplication ≠ none ∧ (session.update device).value.1 = true ∧
      (session.update device).value.2.duplication = session.duplication) := by
  cases hduplication : session.duplication with
  | none =>
      refine .inl ⟨rfl, ?_⟩
      simp only [update, hduplication]
      rfl
  | some duplication =>
      have hsome : some duplication ≠ none := Option.some_ne_none duplication
      have hpolled := session.update_polled device
      generalize (session.update device).journal = journal,
        (session.update device).value = done at hpolled ⊢
      cases hpolled with
      | rested hlost => cases hduplication.symm.trans hlost
      | lost hown =>
          cases hduplication.symm.trans hown
          exact .inr (.inl ⟨duplication, rfl, rfl, List.mem_cons_self⟩)
      | missed hown herror hshown => exact .inr (.inr ⟨hsome, rfl, hduplication⟩)
      | took hown htakes =>
          cases htakes with
          | unreadable hcached hshown => exact .inr (.inr ⟨hsome, rfl, hduplication⟩)
          | obtained hcached hshown => exact .inr (.inr ⟨hsome, rfl, hduplication⟩)

end Session

/-- Where no session is, using a handle makes none. -/
theorem Seat.use_vacant (index : UInt32) (usage : HandleUse) (device : Device) :
    (Seat.use index none usage device).value.2 = none := by
  cases usage <;> rfl

/-- Using the handle of a session updates the session or leaves it but for its preview
and its handles. -/
theorem Seat.use_session {index : UInt32} {session session' : Session} {usage : HandleUse}
    {device : Device}
    (hused : (Seat.use index (some session) usage device).value.2 = some session') :
    (∃ preview refs, session' = { session with preview, refs }) ∨
    (usage = .update ∧ session' = (session.update device).value.2) := by
  have hsame : some session = some session' →
      ∃ preview refs, session' = { session with preview, refs } := by
    rintro ⟨⟩
    exact ⟨session.preview, session.refs, rfl⟩
  cases usage with
  | destroy =>
      by_cases hlast : session.refs - 1 = 0
      · simp [Seat.use, Seat.destroy, hlast] at hused
      · simp only [Seat.use, Seat.destroy, hlast, if_false, bind_apply, pure_apply] at hused
        cases hused
        exact .inl ⟨session.preview, session.refs - 1, rfl⟩
  | update =>
      cases hused
      exact .inr ⟨rfl, rfl⟩
  | setVisible visible =>
      obtain ⟨preview, hpreview⟩ := session.setPreviewVisible_value visible device
      cases hused
      exact .inl ⟨preview, session.refs, hpreview⟩
  | window step =>
      simp only [Seat.use, Option.bind_some, WindowStep.onSession?] at hused
      revert hused
      cases session.preview with
      | none => exact fun hused => .inl (hsame hused)
      | some preview =>
          rintro ⟨⟩
          exact .inl ⟨some (step.apply preview), session.refs, rfl⟩
  | texture => exact .inl (hsame hused)
  | colorSpace => exact .inl (hsame hused)
  | sdrWhite => exact .inl (hsame hused)
  | isHdr => exact .inl (hsame hused)
  | frameAvailable => exact .inl (hsame hused)
  | session => exact .inl (hsame hused)

/-- Where no session is, a creation starts one anew or makes none. -/
theorem Seat.create_vacant (config : SessionConfig) {index : UInt32} {device : Device}
    {session' : Session}
    (hcreated : (Seat.create config index none device).value.2 = some session') :
    session'.IsNew index := by
  have hnew := (Session.does_start index config).yields device
  simp only [Seat.create, bind_apply] at hcreated
  revert hcreated hnew
  cases (Session.start index config device).value with
  | error error =>
      intro hcreated
      cases error <;> cases hcreated
  | ok session =>
      rintro ⟨⟩ hnew
      exact hnew

namespace Scenario.Cell

/-- What is done about a monitor leaves its session but for its preview and its
handles, starts one, or updates it. -/
theorem perform_session (config : SessionConfig) {index : UInt32} {cell : Cell}
    {operation : Operation} {device : Device} {session' : Session}
    (hlive : (cell.perform config index operation device).value.2.session = some session') :
    (∃ session preview refs, cell.session = some session ∧
      session' = { session with preview, refs }) ∨
    (operation = .create ∧ cell.session = none ∧ session'.IsNew index) ∨
    (operation = .use .update ∧ ∃ session, cell.session = some session ∧
      session' = (session.update device).value.2 ∧
      (cell.perform config index operation device).journal = (session.update device).journal) := by
  obtain ⟨handle, seat⟩ := cell
  cases operation with
  | create =>
      cases seat with
      | none => exact .inr (.inl ⟨rfl, rfl, Seat.create_vacant config hlive⟩)
      | some session =>
          cases hlive
          exact .inl ⟨session, session.preview, session.refs + 1, rfl, rfl⟩
  | use usage =>
      cases handle with
      | none => exact .inl ⟨session', session'.preview, session'.refs, hlive, rfl⟩
      | some handle =>
          have hused : (Seat.use index seat usage device).value.2 = some session' := hlive
          cases seat with
          | none =>
              rw [Seat.use_vacant] at hused
              cases hused
          | some session =>
              rcases Seat.use_session hused with ⟨preview, refs, hkept⟩ | ⟨rfl, hupdated⟩
              · exact .inl ⟨session, preview, refs, rfl, hkept⟩
              · refine .inr (.inr ⟨rfl, session, rfl, hupdated, ?_⟩)
                simp [perform, Seat.use, Seat.update]

end Scenario.Cell

/-- A later state of a lost session, which differs in its preview, in its handles and
perhaps in its mark that a frame was captured. -/
structure Session.Rests (session session' : Session) : Prop where
  state : session'.state = .lost
  monitor : session'.monitor = session.monitor
  cache : session'.cache = session.cache
  color : session'.color = session.color

theorem Session.Rests.trans {first second third : Session} (hbefore : first.Rests second)
    (hafter : second.Rests third) : first.Rests third where
  state := hafter.state
  monitor := hafter.monitor.trans hbefore.monitor
  cache := hafter.cache.trans hbefore.cache
  color := hafter.color.trans hbefore.color

/-- Whether a step got a handle of a monitor. -/
def Scenario.DuplicatorStep.gets (index : UInt32) : DuplicatorStep → Reply → Bool
  | .create other, .handle _ => other = index
  | _, _ => false

namespace Scenario.DuplicatorState

section

variable {state : DuplicatorState} {index : UInt32} {taken : DuplicatorStep}

/-- A session that is lost after a step was lost before it, or the step polled it and
was told that access is lost. -/
theorem lost_of_step (hsound : state.Sound) (hplaced : state.sessions.All Session.IsAt)
    {session' : Session} (hlive : (state.step taken).2.sessions.get? index = some session')
    (hlost : session'.state = .lost) :
    (∃ session, state.sessions.get? index = some session ∧ session.state = .lost) ∨
      taken = .use index .update ∧
        .call (.acquire index 0) (.failed .accessLost) ∈ (state.step taken).1.journal := by
  rw [Session.state_eq_lost] at hlost
  rcases hsound.step_session hlive with
    ⟨config, operation, rfl, hrecord, hsession'⟩ | hsame | ⟨session, hsession, -, rfl⟩
  · rcases Cell.perform_session config hsession' with
      ⟨session, preview, refs, hsession, rfl⟩ | ⟨-, -, preview, color, rfl⟩ |
        ⟨rfl, session, hsession, rfl, hjournal⟩
    · exact .inl ⟨session, hsession, Session.state_eq_lost.mpr hlost⟩
    · cases hlost
    · rcases session.update_cases state.device with
        ⟨hnone, -⟩ | ⟨duplication, hduplication, -, hentry⟩ | ⟨hsome, -, hkept⟩
      · exact .inl ⟨session, hsession, Session.state_eq_lost.mpr hnone⟩
      · have hown := (hplaced index session hsession).duplication duplication hduplication
        rw [hown] at hentry
        rw [hrecord, hjournal]
        exact .inr ⟨rfl, hentry⟩
      · exact absurd (hkept.symm.trans hlost) hsome
  · exact .inl ⟨session', hsame, Session.state_eq_lost.mpr hlost⟩
  · exact .inl ⟨session, hsession, Session.state_eq_lost.mpr hlost⟩

/-- An update writes what the update of its session writes and leaves the session that
this leaves; without a session it does nothing. -/
theorem update_effect (hsound : state.Sound) (index : UInt32) :
    let done := state.step (.use index .update)
    (done.1.journal = (state.sessions.get? index).elim [] fun session =>
      (session.update state.device).journal) ∧
    done.2.sessions.get? index = (state.sessions.get? index).map fun session =>
      (session.update state.device).value.2 := by
  intro done
  cases hlive : state.sessions.get? index with
  | some session =>
      obtain ⟨hrecord, hsession⟩ := hsound.update_live hlive
      exact ⟨congrArg Record.journal hrecord, hsession⟩
  | none =>
      have hstep : done = state.step ((Operation.use .update).toStep index) := rfl
      have hseat : (state.cell index).session = none := hlive
      cases hduplicator : state.duplicator with
      | none =>
          rw [hstep, toStep_dropped hduplicator]
          exact ⟨rfl, hlive⟩
      | some duplicator =>
          have hsession : done.2.sessions.get? index = _ := congrArg Cell.session
            (cell_toStep hduplicator (hsound index) (.use .update) index)
          rw [hsession, hstep, step_toStep hduplicator (hsound index), if_pos rfl]
          unfold Cell.perform
          cases (state.cell index).handle with
          | none => exact ⟨rfl, hseat⟩
          | some handle =>
              rw [hseat]
              exact ⟨rfl, rfl⟩

/-- An update tells whether its handle has an active session afterwards. -/
theorem update_reply (hsound : state.Sound) {handle : Handle}
    (hhandle : state.handles.get? index = some handle) {duplicator : Duplicator}
    (hduplicator : state.duplicator = some duplicator) :
    (state.step (.use index .update)).1.reply = .flag
      (((state.step (.use index .update)).2.sessions.get? index).any
        fun session => session.state = .active) := by
  have hstep := step_toStep hduplicator (hsound index) (.use .update)
  have hcell := cell_toStep hduplicator (hsound index) (.use .update) index
  have hafter := congrArg Cell.session hcell
  have hstate : state.cell index = ⟨some handle, state.sessions.get? index⟩ := by
    rw [← hhandle]
    rfl
  rw [show DuplicatorStep.use index .update = (Operation.use .update).toStep index from rfl]
  rw [if_pos rfl] at hafter
  change (state.step _).2.sessions.get? index = _ at hafter
  rw [hafter, hstep, hstate]
  cases hseat : state.sessions.get? index with
  | none => rfl
  | some session =>
      simp only [Cell.perform, Seat.use, Seat.update, bind_apply, pure_apply,
        Option.any_some]
      congr 1
      rcases session.update_cases state.device with
        ⟨hnone, hupdate⟩ | ⟨duplication, hduplication, hupdate, -⟩ | ⟨hsome, hreply, hkept⟩
      · rw [hupdate]
        simp [Session.state, hnone]
      · rw [hupdate]
        rfl
      · rw [hreply, eq_comm, decide_eq_true_iff, Session.state_eq_active, hkept]
        exact hsome

/-! ## A lost session rests -/

theorem update_lost (hsound : state.Sound) {session : Session}
    (hlive : state.sessions.get? index = some session) (hlost : session.state = .lost) :
    state.step (.use index .update) = (⟨.flag false, []⟩, state) := by
  have hsome : state.sessions.get? index ≠ none := by simp [hlive]
  obtain ⟨duplicator, hduplicator⟩ := exists_duplicator hsome
  have hcell := hsound.cell_live hlive
  have hnone := Session.state_eq_lost.mp hlost
  have hperformed : (state.cell index).perform duplicator.registry.config index
      (.use .update) state.device = ⟨(.flag false, state.cell index), state.device, []⟩ := by
    rw [hcell]
    simp [Cell.perform, Seat.use, Seat.update, Session.update, hnone]
  rw [show DuplicatorStep.use index .update = (Operation.use .update).toStep index from rfl,
    step_toStep hduplicator (hsound index), hperformed, putCell_self]

theorem rests_step (hsound : state.Sound) {session session' : Session}
    (hlive : state.sessions.get? index = some session) (hlost : session.state = .lost)
    (hlive' : (state.step taken).2.sessions.get? index = some session') :
    session.Rests session' ∧
      (taken ≠ .resetAll → session'.frameAvailable = session.frameAvailable) := by
  rcases hsound.step_session hlive' with
    ⟨config, operation, rfl, -, hsession'⟩ | hsame | ⟨before, hbefore, hreset, rfl⟩
  · rcases Cell.perform_session config hsession' with
      ⟨before, preview, refs, hbefore, rfl⟩ | ⟨-, hvacant, -⟩ |
        ⟨-, before, hbefore, rfl, -⟩
    · cases hlive.symm.trans hbefore
      exact ⟨⟨hlost, rfl, rfl, rfl⟩, fun _ => rfl⟩
    · cases hlive.symm.trans hvacant
    · cases hlive.symm.trans hbefore
      have hnone := Session.state_eq_lost.mp hlost
      rcases session.update_cases state.device with
        ⟨-, hupdate⟩ | ⟨duplication, hduplication, -, -⟩ | ⟨hsome, -, -⟩
      · rw [hupdate]
        exact ⟨⟨hlost, rfl, rfl, rfl⟩, fun _ => rfl⟩
      · rw [hnone] at hduplication
        cases hduplication
      · exact absurd hnone hsome
  · cases hlive.symm.trans hsame
    exact ⟨⟨hlost, rfl, rfl, rfl⟩, fun _ => rfl⟩
  · cases hlive.symm.trans hbefore
    exact ⟨⟨hlost, rfl, rfl, rfl⟩, fun hnot => absurd hreset hnot⟩

/-! ## The next session begins anew -/

theorem destroy_last (hsound : state.Sound) {session : Session}
    (hlive : state.sessions.get? index = some session) (hrefs : session.refs = 1) :
    (state.step (.use index .destroy)).2.sessions.get? index = none := by
  have hsome : state.sessions.get? index ≠ none := by simp [hlive]
  obtain ⟨duplicator, hduplicator⟩ := exists_duplicator hsome
  have hcell := cell_toStep hduplicator (hsound index) (.use .destroy) index
  rw [if_pos rfl, hsound.cell_live hlive] at hcell
  have hperformed : (Cell.perform duplicator.registry.config index
      ⟨some ⟨index⟩, some session⟩ (.use .destroy) state.device).value.2.session = none := by
    simp [Cell.perform, Seat.use, Seat.destroy, hrefs]
  exact (congrArg Cell.session hcell).trans hperformed

theorem new_of_vacant (hsound : state.Sound) (hvacant : state.sessions.get? index = none)
    {session' : Session}
    (hlive : (state.step taken).2.sessions.get? index = some session') :
    taken = .create index ∧ (state.step taken).1.reply = .handle ⟨index⟩ ∧
      session'.IsNew index := by
  rcases hsound.step_session hlive with
    ⟨config, operation, rfl, hrecord, hsession'⟩ | hsame | ⟨before, hbefore, -, -⟩
  · rcases Cell.perform_session config hsession' with
      ⟨before, preview, refs, hbefore, rfl⟩ | ⟨rfl, -, hnew⟩ | ⟨-, before, hbefore, -, -⟩
    · cases hvacant.symm.trans hbefore
    · refine ⟨rfl, ?_, hnew⟩
      rw [hrecord]
      rcases Seat.create_value config index (state.cell index).session state.device with
        ⟨started, hvalue⟩ | ⟨-, hvalue⟩
      · simp only [Cell.perform, bind_apply, pure_apply, hvalue]
        rfl
      · simp only [Cell.perform, bind_apply, pure_apply, hvalue] at hsession'
        cases hsession'
    · cases hvacant.symm.trans hbefore
  · cases hvacant.symm.trans hsame
  · cases hvacant.symm.trans hbefore

theorem live_of_handle (hsound : state.Sound) {handle : Handle}
    (hreply : (state.step (.create index)).1.reply = .handle handle) :
    (state.step (.create index)).2.sessions.get? index ≠ none := by
  rw [show DuplicatorStep.create index = Operation.create.toStep index from rfl] at hreply ⊢
  cases hduplicator : state.duplicator with
  | none =>
      simp only [Operation.toStep, step, hduplicator] at hreply
      cases hreply
  | some duplicator =>
      have hcell := cell_toStep hduplicator (hsound index) .create index
      rw [if_pos rfl] at hcell
      have hafter := congrArg Cell.session hcell
      rw [step_toStep hduplicator (hsound index)] at hreply
      rcases Seat.create_value duplicator.registry.config index (state.cell index).session
        state.device with ⟨session, hvalue⟩ | ⟨-, hvalue⟩
      · simp only [Cell.perform, bind_apply, pure_apply, hvalue] at hafter
        exact Option.ne_none_iff_exists'.mpr ⟨session, hafter⟩
      · simp only [Cell.perform, bind_apply, pure_apply, hvalue] at hreply
        cases hreply

end

/-! ## Runs -/

/-- Whether a handle of a monitor is got in the course of steps. -/
def gets (index : UInt32) (state : DuplicatorState) : List DuplicatorStep → Bool
  | [] => false
  | taken :: rest => taken.gets index (state.step taken).1.reply ||
      gets index (state.step taken).2 rest

/-- Where no session is, there is none until a handle is got. -/
theorem vacant_run {state : DuplicatorState} (hsound : state.Sound) {index : UInt32}
    (hvacant : state.sessions.get? index = none) {idle : List DuplicatorStep}
    (hidle : state.gets index idle = false) :
    (runFrom step state idle).2.sessions.get? index = none := by
  induction idle generalizing state with
  | nil => exact hvacant
  | cons taken rest ih =>
      rw [gets, Bool.or_eq_false_iff] at hidle
      refine ih (hsound.step taken) ?_ hidle.2
      cases hlive : (state.step taken).2.sessions.get? index with
      | none => exact hlive
      | some session' =>
          obtain ⟨rfl, hreply, -⟩ := new_of_vacant hsound hvacant hlive
          rw [hreply] at hidle
          simp [DuplicatorStep.gets] at hidle

variable {outputs : List OutputConfig} {config : SessionConfig}

/-- As long as it lives, a lost session rests. -/
theorem rests_run {before : List DuplicatorStep} {index : UInt32} {session : Session}
    (hlive : (after outputs config before).sessions.get? index = some session)
    (hlost : session.state = .lost) (during : List DuplicatorStep)
    (hstays : ∀ taken, taken <+: during →
      (after outputs config (before ++ taken)).sessions.get? index ≠ none) :
    ∃ session', (after outputs config (before ++ during)).sessions.get? index =
      some session' ∧ session.Rests session' ∧
        (.resetAll ∉ during → session'.frameAvailable = session.frameAvailable) := by
  induction during using List.reverseRecOn with
  | nil =>
      rw [List.append_nil]
      exact ⟨session, hlive, ⟨hlost, rfl, rfl, rfl⟩, fun _ => rfl⟩
  | append_singleton during taken ih =>
      obtain ⟨middle, hmiddle, hrests, hmark⟩ := ih fun others hpart =>
        hstays others (hpart.trans (List.prefix_append during [taken]))
      obtain ⟨session', hsession'⟩ :=
        Option.ne_none_iff_exists'.mp (hstays (during ++ [taken]) List.prefix_rfl)
      have hstep : after outputs config (before ++ (during ++ [taken])) =
          ((after outputs config (before ++ during)).step taken).2 := by
        rw [← List.append_assoc, after_concat]
      rw [hstep] at hsession'
      obtain ⟨hnext, hunmarked⟩ := rests_step
        (sound_after outputs config (before ++ during)) hmiddle hrests.state hsession'
      rw [hstep]
      refine ⟨session', hsession', hrests.trans hnext, ?_⟩
      intro hreset
      rw [List.mem_append, not_or, List.mem_singleton] at hreset
      exact (hunmarked (Ne.symm hreset.2)).trans (hmark hreset.1)

/-- An update tells whether its handle has an active session afterwards, and only one
that is told so by the device makes a session lost.  A lost session rests while it
lives: updates and new handles find it as it is and leave the device alone.  Once its
last handle is released, the next one begins a session anew. -/
theorem lost_sessions_rest (outputs : List OutputConfig) (config : SessionConfig)
    (before : List DuplicatorStep) (index : UInt32) :
    let state := after outputs config before
    (∀ handle duplicator, state.handles.get? index = some handle →
      state.duplicator = some duplicator →
        (state.step (.use index .update)).1.reply = .flag
          (((state.step (.use index .update)).2.sessions.get? index).any
            fun session => session.state = .active)) ∧
    (∀ taken session', (state.step taken).2.sessions.get? index = some session' →
      session'.state = .lost →
        (∃ session, state.sessions.get? index = some session ∧ session.state = .lost) ∨
          taken = .use index .update ∧
            .call (.acquire index 0) (.failed .accessLost) ∈ (state.step taken).1.journal) ∧
    (∀ session, state.sessions.get? index = some session → session.state = .lost →
      state.step (.use index .update) = (⟨.flag false, []⟩, state) ∧
      state.step (.create index) = (⟨.handle ⟨index⟩, []⟩, state.joined index) ∧
      ∀ during, (∀ taken, taken <+: during →
        (after outputs config (before ++ taken)).sessions.get? index ≠ none) →
          ∃ session', (after outputs config (before ++ during)).sessions.get? index =
            some session' ∧ session.Rests session' ∧
              (.resetAll ∉ during → session'.frameAvailable = session.frameAvailable)) ∧
    ∀ session, state.sessions.get? index = some session → session.refs = 1 →
      let released := (state.step (.use index .destroy)).2
      ∀ idle, released.gets index idle = false →
        let last := (runFrom step released idle).2
        ∀ handle, (last.step (.create index)).1.reply = .handle handle →
          ∃ session', (last.step (.create index)).2.sessions.get? index = some session' ∧
            session'.state = .active ∧ session'.refs = 1 ∧ session'.cache = .empty ∧
              session'.frameAvailable = false := by
  intro state
  have hsound : state.Sound := sound_after outputs config before
  have hplaced : state.sessions.All Session.IsAt :=
    placed.after_steps outputs config .empty before
  refine ⟨?_, ?_, ?_, ?_⟩
  · intro handle duplicator hhandle hduplicator
    exact update_reply hsound hhandle hduplicator
  · intro taken session' hlive hlost
    exact lost_of_step hsound hplaced hlive hlost
  · intro session hlive hlost
    refine ⟨update_lost hsound hlive hlost, ?_, rests_run hlive hlost⟩
    exact create_live hsound (by simp [hlive])
  · intro session hlive hrefs released idle hidle last handle hreply
    have hreleased : released.sessions.get? index = none := destroy_last hsound hlive hrefs
    have hvacant : last.sessions.get? index = none :=
      vacant_run (hsound.step _) hreleased hidle
    have hlast : last.Sound := (hsound.step _).run idle
    obtain ⟨session', hsession'⟩ :=
      Option.ne_none_iff_exists'.mp (live_of_handle hlast hreply)
    obtain ⟨-, -, preview, color, rfl⟩ := new_of_vacant hlast hvacant hsession'
    exact ⟨_, hsession', rfl, rfl, rfl, rfl⟩

/-- A session loses access and is given back; the next one is active again. -/
example :
    let steps : List DuplicatorStep := [.create 0,
      .world (.pushFrames 0 [.failure, .accessLost, .timeout]), .use 0 .update,
      .use 0 .update, .use 0 .update, .use 0 .destroy, .create 0]
    let states := fun taken : Nat =>
      ((after singleOutputDevice.outputs .standard (steps.take taken)).sessions.get? 0).map
        Session.state
    states 3 = some .active ∧ states 4 = some .lost ∧ states 5 = some .lost ∧
      states 6 = none ∧ states 7 = some .active := by
  decide +kernel

end Scenario.DuplicatorState
end DesktopCapture
