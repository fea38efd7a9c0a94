import DesktopCapture.Proofs.BoundTarget
import DesktopCapture.Proofs.Endings
import DesktopCapture.Proofs.Replay
import DesktopCapture.Proofs.Starting
import DesktopCapture.Proofs.Surfaces
import DesktopCapture.Proofs.Turn

/-!
# The surfaces of a run

Of all that happens in a run, only an update of a session can draw.  So a surface keeps its
size through everything else, and through updates that do not resize it: what is true of one
update is true of whole runs by induction on their steps.
-/

namespace DesktopCapture

open Capture Scenario

/-! ## Presents that the device sees -/

namespace Capture

variable {α β : Type}

/-- The device sees the presents of an action as they are in its journal. -/
def ListsPresents (action : Capture α) : Prop :=
  ∀ device, (action device).device.presents =
    device.presents ++ (action device).journal.filterMap Entry.presented?

namespace ListsPresents

theorem bind {first : Capture α} {next : α → Capture β} (hfirst : ListsPresents first)
    (hnext : ∀ value, ListsPresents (next value)) : ListsPresents (first >>= next) := by
  intro device
  rw [bind_apply, hnext, hfirst, List.filterMap_append, List.append_assoc]

/-- A single entry that is no present. -/
theorem of_untargeted {action : Capture α} (huntargeted : action.IsUntargeted) :
    ListsPresents action := by
  intro device
  obtain ⟨⟨entry, hjournal, hentry⟩, hsame⟩ := huntargeted device
  have hnone : entry.presented? = none := by
    unfold Entry.presented?
    split
    · cases hentry
    · rfl
  rw [hsame.presents, hjournal, List.filterMap_cons_none hnone, List.filterMap_nil,
    List.append_nil]

end ListsPresents
end Capture

theorem Preview.listsPresents_draw (preview : Preview) (source : Texture) :
    ListsPresents (preview.draw source) := by
  intro device
  have hdraws := preview.draw_draws source device
  generalize preview.draw source device = drawn at hdraws
  cases hdraws with
  | unbound => exact (List.append_nil _).symm
  | unshown => exact (List.append_nil _).symm
  | shown => rfl

/-- All that operations are composed of lists its presents. -/
theorem listsPresents : Polling (fun _ => True) ListsPresents where
  toComposed := .of_plain (fun _ _ => (List.append_nil _).symm) ListsPresents.bind
    (fun hplain => .of_untargeted (.of_plain hplain)) Preview.listsPresents_draw
  acquire := fun duplication _ => .of_untargeted (.acquire duplication 0)
  releaseFrame := fun duplication _ => .of_untargeted (.releaseFrame duplication)

/-! ## Steps that draw nothing -/

namespace Session

variable {spans : List Span} {output : Output} {journal : List Entry}

theorem Opens.isDrawing {result : Except PlatformError (Duplication × ColorInfo)}
    (hopens : Opens spans output journal result) : ∀ entry ∈ journal, entry.isDrawing = false := by
  cases hopens <;> simp [Entry.isDrawing, Entry.isTargeted]

theorem Furnishes.isDrawing {config : SessionConfig} {preview : Option Preview}
    (hfurnishes : Furnishes spans output config journal preview) :
    ∀ entry ∈ journal, entry.isDrawing = false := by
  cases hfurnishes with
  | bare => exact List.forall_mem_nil _
  | asked _ hopens =>
      cases hopens with
      | undescribed => simp [Entry.isDrawing, Entry.isTargeted]
      | unassembled hmade => cases hmade <;> simp [Entry.isDrawing, Entry.isTargeted]
      | assembled hmade =>
          cases hmade
          simp [Entry.isDrawing, Entry.isTargeted]

theorem Starts.isDrawing {index : UInt32} {config : SessionConfig} {device : Device}
    {result : Except CaptureError Session} (hstarts : Starts index config device journal result) :
    ∀ entry ∈ journal, entry.isDrawing = false := by
  cases hstarts with
  | unenumerated => simp [Entry.isDrawing, Entry.isTargeted]
  | missing => simp [Entry.isDrawing, Entry.isTargeted]
  | refused _ hopens =>
      have hopened := hopens.isDrawing
      simp only [List.forall_mem_cons, List.forall_mem_append]
      simpa [Entry.isDrawing, Entry.isTargeted] using hopened
  | started _ hopens hfurnishes =>
      have hopened := hopens.isDrawing
      have hfurnished := hfurnishes.isDrawing
      simp only [startedEntries, List.forall_mem_cons, List.forall_mem_append]
      simpa [Entry.isDrawing, Entry.isTargeted] using And.intro hopened hfurnished

end Session

theorem Seat.isDrawing_create (config : SessionConfig) (index : UInt32) (seat : Seat)
    (device : Device) :
    ∀ entry ∈ (Seat.create config index seat device).journal, entry.isDrawing = false := by
  cases seat with
  | some session => exact List.forall_mem_nil _
  | none =>
      have hstarted := (Session.start_starts index config device).isDrawing
      have htold : ∀ notice : Notice,
          ∀ entry ∈ (Session.start index config device).journal ++ [.notice [] notice],
            entry.isDrawing = false := fun notice =>
        List.forall_mem_append.mpr ⟨hstarted, List.forall_mem_singleton.mpr rfl⟩
      simp only [Seat.create, bind_apply]
      rcases (Session.start index config device).value with (other | error | _ | _) | session
      · simpa [notify, note] using htold (.noMonitor index)
      · simpa [notify, note] using htold (.createFailed index (.platform error))
      · simpa [notify, note] using htold (.createFailed index .accessLost)
      · simpa [notify, note] using htold (.createFailed index .timeout)
      · simpa using hstarted

/-- Using a handle draws nothing, unless it updates a session. -/
theorem Seat.isDrawing_use (index : UInt32) (seat : Seat) {usage : HandleUse}
    (hother : usage = .update → seat = none) (device : Device) :
    ∀ entry ∈ (seat.use index usage device).journal, entry.isDrawing = false := by
  cases usage with
  | destroy =>
      cases seat with
      | none => exact List.forall_mem_singleton.mpr rfl
      | some session =>
          by_cases hlast : session.refs - 1 = 0
          · simp [Seat.use, Seat.destroy, hlast, notify, note, session.release_journal,
              Entry.isDrawing, Entry.isTargeted]
          · simp [Seat.use, Seat.destroy, hlast]
  | update =>
      rw [hother rfl]
      exact List.forall_mem_nil _
  | setVisible visible =>
      rcases seat with _ | ⟨duplication, cache, _ | preview, monitor, color, marked, refs⟩
      · exact List.forall_mem_nil _
      · exact List.forall_mem_nil _
      · exact List.forall_mem_singleton.mpr rfl
  | window step =>
      cases hwindow : seat.bind fun session => WindowStep.onSession? session step with
      | none => simp [Seat.use, hwindow]
      | some session' => simp [Seat.use, hwindow]
  | _ => exact List.forall_mem_nil _

namespace Scenario.DuplicatorState

variable {state : DuplicatorState}

/-- A step draws nothing, unless it updates a live session. -/
theorem isDrawing_step (hsound : state.Sound) {taken : DuplicatorStep}
    (hother : ∀ index, taken = .use index .update → state.sessions.get? index = none) :
    ∀ entry ∈ (state.step taken).1.journal, entry.isDrawing = false := by
  have hasked : ∀ {α : Type} (question : Capture α) (device : Device),
      (∀ kept : Assertion, kept.Quiet → Triple kept question (fun _ => kept)) →
      ∀ entry ∈ (question device).journal, entry.isDrawing = false := by
    intro α question device hquestion entry hentry
    exact Entry.isDrawing_of_isQuestion ((does_question hquestion).writes device entry hentry)
  rcases hduplicator : state.duplicator with _ | duplicator
  · cases taken <;> simp [step, hduplicator]
  · cases taken with
    | monitors =>
        simpa [step, hduplicator, perform] using
          hasked Duplicator.monitors state.device fun _ hquiet => hquiet.monitors
    | monitorIndex monitor =>
        simpa [step, hduplicator, perform] using
          hasked (Duplicator.monitorIndex monitor) state.device
            fun _ hquiet => hquiet.monitorIndex monitor
    | monitorInfo index =>
        simpa [step, hduplicator, perform] using
          hasked (Duplicator.monitorInfo index) state.device
            fun _ hquiet => hquiet.monitorInfo index
    | create index =>
        have hstep := step_toStep hduplicator (hsound index) .create
        rw [show DuplicatorStep.create index = Operation.create.toStep index from rfl, hstep]
        simpa [Cell.perform] using
          Seat.isDrawing_create duplicator.registry.config index (state.cell index).session
            state.device
    | use index usage =>
        have hstep := step_toStep hduplicator (hsound index) (.use usage)
        rw [show DuplicatorStep.use index usage = (Operation.use usage).toStep index from rfl,
          hstep]
        have hvacant : usage = .update → (state.cell index).session = none := by
          rintro rfl
          exact hother index rfl
        unfold Cell.perform
        cases (state.cell index).handle with
        | none => exact List.forall_mem_nil _
        | some handle =>
            simpa using Seat.isDrawing_use index (state.cell index).session hvacant state.device
    | drop =>
        rw [drop_journal, Registry.releaseSessions_journal]
        intro entry hentry
        obtain ⟨object, -, rfl⟩ := List.mem_map.mp hentry
        rfl
    | _ => simp [step, hduplicator]

/-- The device sees the presents of a step as they are in its journal. -/
theorem presents_step (state : DuplicatorState) (taken : DuplicatorStep) :
    let done := state.step taken
    done.2.device.presents =
      state.device.presents ++ done.1.journal.filterMap Entry.presented? := by
  intro done
  by_cases hworld : ∃ change, taken = .world change
  · obtain ⟨change, rfl⟩ := hworld
    obtain ⟨hjournal, -, -, hpresents⟩ := state.step_world change
    rw [show done.1.journal = [] from hjournal, List.filterMap_nil, List.append_nil]
    exact hpresents
  · obtain ⟨α, action, haction, hjournal, hdevice⟩ :=
      listsPresents.step state fun change htaken => hworld ⟨change, htaken⟩
    rw [show done.2.device = _ from hdevice, show done.1.journal = _ from hjournal]
    exact haction state.device

/-! ## What steps do to surfaces -/

/-- An update of a live session drives its preview and tells how it went. -/
theorem drives_update (hsound : state.Sound) {index : UInt32} {session : Session}
    (hlive : state.sessions.get? index = some session) :
    let done := state.step (.use index .update)
    ∃ alive session', done.1.reply = .flag alive ∧
      done.2.sessions.get? index = some session' ∧
      session.Drives done.1.journal (alive, session') := by
  intro done
  obtain ⟨hrecord, hsession⟩ := hsound.update_live hlive
  refine ⟨_, _, congrArg Record.reply hrecord, hsession, ?_⟩
  rw [show done.1 = _ from hrecord]
  exact (session.update_updates state.device).drives

/-- A step that draws updates a live session. -/
theorem drives_step (hsound : state.Sound) {taken : DuplicatorStep} {entry : Entry}
    (hentry : entry ∈ (state.step taken).1.journal) (hdrawing : entry.isDrawing = true) :
    ∃ index session alive session', taken = .use index .update ∧
      state.sessions.get? index = some session ∧
      (state.step taken).2.sessions.get? index = some session' ∧
      session.Drives (state.step taken).1.journal (alive, session') := by
  by_contra hnone
  refine Entry.not_mem_of_isDrawing (isDrawing_step hsound ?_) hdrawing hentry
  rintro index rfl
  by_contra hsome
  obtain ⟨session, hlive⟩ := Option.ne_none_iff_exists'.mp hsome
  obtain ⟨alive, session', -, hlive', hdrives⟩ := drives_update hsound hlive
  exact hnone ⟨index, session, alive, session', rfl, hlive, hlive', hdrives⟩

/-- A step leaves the surface of a session that stays live, or resizes it. -/
theorem surface_step (hsound : state.Sound) {taken : DuplicatorStep} {index : UInt32}
    {session session' : Session} (hlive : state.sessions.get? index = some session)
    (hlive' : (state.step taken).2.sessions.get? index = some session') :
    session.Resurfaced (state.step taken).1.journal session' := by
  rcases hsound.step_session hlive' with
    ⟨config, operation, rfl, -, hsession'⟩ | hsame | ⟨before, hbefore, -, rfl⟩
  · rw [hsound.cell_live hlive] at hsession'
    cases operation with
    | create =>
        cases hsession'
        exact .of_map rfl
    | use usage =>
        by_cases hupdate : usage = .update
        · subst hupdate
          obtain ⟨alive, updated, -, hupdated, hdrives⟩ := drives_update hsound hlive
          cases hupdated.symm.trans hlive'
          exact hdrives.resurfaced
        · refine .of_map (@Seat.use_surface index session session' usage state.device hupdate ?_)
          simpa [Cell.perform] using hsession'
  · cases hlive.symm.trans hsame
    exact .of_map rfl
  · cases hlive.symm.trans hbefore
    exact .of_map rfl

/-- A session that appears was started in this step, on the output of its monitor. -/
theorem start_step (hsound : state.Sound) {taken : DuplicatorStep} {index : UInt32}
    {session' : Session} (hvacant : state.sessions.get? index = none)
    (hlive' : (state.step taken).2.sessions.get? index = some session') :
    taken = .create index ∧ ∃ described, state.device.outputs[index.toNat]? = some described ∧
      ∀ preview, session'.preview = some preview →
        preview.swapChain.Follows described.halfSize := by
  obtain ⟨rfl, -, -⟩ := new_of_vacant hsound hvacant hlive'
  refine ⟨rfl, ?_⟩
  rcases hsound.step_session hlive' with
    ⟨config, operation, htaken, -, hsession'⟩ | hsame | ⟨before, hbefore, -, -⟩
  · cases operation with
    | use usage => cases htaken
    | create =>
        have hseat : (state.cell index).session = none := hvacant
        have hstarts := Session.start_starts index config state.device
        simp only [Cell.perform, hseat, Seat.create, bind_apply] at hsession'
        rcases hvalue : (Session.start index config state.device).value with
          (other | error | _ | _) | started
        · simp [hvalue] at hsession'
        · simp [hvalue] at hsession'
        · simp [hvalue] at hsession'
        · simp [hvalue] at hsession'
        · obtain rfl : started = session' := by simpa [hvalue] using hsession'
          rw [hvalue] at hstarts
          obtain ⟨described, hdescribed, hfresh⟩ := hstarts.isFresh
          refine ⟨described, hdescribed, ?_⟩
          intro preview hpreview
          obtain ⟨-, -, hsize, hresizes, -⟩ := hfresh.preview preview hpreview
          exact .new hsize hresizes
  · cases hvacant.symm.trans hsame
  · cases hvacant.symm.trans hbefore

/-! ## Runs -/

/-- While no resize of its swap chain succeeds, a live session keeps its surface. -/
theorem surface_stays {state : DuplicatorState} (hsound : state.Sound) {index : UInt32}
    {session : Session} (hlive : state.sessions.get? index = some session) {preview : Preview}
    (hpreview : session.preview = some preview) {during : List DuplicatorStep}
    (hstays : ∀ part, part <+: during →
      (runFrom step state part).2.sessions.get? index ≠ none)
    (hunresized : ∀ size, .call (.resize preview.swapChain.id size) .done ∉
      journal (runFrom step state during).1) :
    ∃ session' preview',
      (runFrom step state during).2.sessions.get? index = some session' ∧
      session'.preview = some preview' ∧ preview'.swapChain = preview.swapChain := by
  induction during generalizing state session preview with
  | nil => exact ⟨session, preview, hlive, hpreview, rfl⟩
  | cons taken rest ih =>
      have hjournal : journal (runFrom step state (taken :: rest)).1 =
          (state.step taken).1.journal ++ journal (runFrom step (state.step taken).2 rest).1 := rfl
      simp only [hjournal, List.mem_append, not_or] at hunresized
      obtain ⟨middle, hmiddle⟩ := Option.ne_none_iff_exists'.mp
        (hstays [taken] (List.prefix_append [taken] rest))
      have hstays' : ∀ part, part <+: rest →
          (runFrom step (state.step taken).2 part).2.sessions.get? index ≠ none :=
        fun part hpart => hstays (taken :: part) ((List.prefix_cons_inj taken).mpr hpart)
      rcases surface_step hsound hlive hmiddle with
        ⟨hnone, -⟩ | ⟨_, preview', hpreview', hafter, hresurfaced⟩
      · cases hpreview.symm.trans hnone
      · cases hpreview.symm.trans hpreview'
        rcases hresurfaced with hsame | ⟨-, -, -, hresized, -⟩
        · -- The identity of the swap chain goes on with it, so the rest resizes it no more.
          rw [← hsame] at hunresized ⊢
          exact ih (hsound.step taken) hmiddle hafter hstays' fun size => (hunresized size).2
        · exact absurd hresized (hunresized _).1

variable {outputs : List OutputConfig} {config : SessionConfig}

/-- The session of a monitor was started in the course of a run, on an output that was there
then, and lives since. -/
def StartedOn (outputs : List OutputConfig) (config : SessionConfig)
    (steps : List DuplicatorStep) (index : UInt32) (described : OutputConfig) : Prop :=
  ∃ began during, steps = began ++ .create index :: during ∧
    (after outputs config began).sessions.get? index = none ∧
    (∀ part, part <+: during →
      (after outputs config (began ++ .create index :: part)).sessions.get? index ≠ none) ∧
    (after outputs config began).device.outputs[index.toNat]? = some described

theorem StartedOn.concat {before : List DuplicatorStep} {index : UInt32}
    {described : OutputConfig} (hstarted : StartedOn outputs config before index described)
    {taken : DuplicatorStep}
    (hlive : (after outputs config (before ++ [taken])).sessions.get? index ≠ none) :
    StartedOn outputs config (before ++ [taken]) index described := by
  obtain ⟨began, during, rfl, hvacant, hstays, hdescribed⟩ := hstarted
  refine ⟨began, during ++ [taken], by simp, hvacant, ?_, hdescribed⟩
  intro part hpart
  rcases List.prefix_concat_iff.mp hpart with rfl | hbefore
  · simpa using hlive
  · exact hstays part hbefore

/-- The surface of a live session follows from the output that the session was started on. -/
theorem surface_run (steps : List DuplicatorStep) {index : UInt32} {session : Session}
    (hlive : (after outputs config steps).sessions.get? index = some session) :
    ∃ described, StartedOn outputs config steps index described ∧
      ∀ preview, session.preview = some preview →
        preview.swapChain.Follows described.halfSize := by
  induction steps using List.reverseRecOn generalizing session with
  | nil => cases hlive
  | append_singleton before taken ih =>
      have hsome : (after outputs config (before ++ [taken])).sessions.get? index ≠ none := by
        simp [hlive]
      have hsound : (after outputs config before).Sound := sound_after outputs config before
      rw [after_concat] at hlive
      -- The session appears in the last step, or it was there before and the step kept or
      -- resized its surface.
      cases hbefore : (after outputs config before).sessions.get? index with
      | none =>
          obtain ⟨rfl, described, hdescribed, hfollows⟩ := start_step hsound hbefore hlive
          refine ⟨described, ⟨before, [], rfl, hbefore, ?_, hdescribed⟩, hfollows⟩
          intro part hpart
          rw [List.prefix_nil.mp hpart]
          exact hsome
      | some session₀ =>
          obtain ⟨described, hstarted, hfollows⟩ := ih hbefore
          refine ⟨described, hstarted.concat hsome, ?_⟩
          intro preview hpreview
          rcases surface_step hsound hbefore hlive with
            ⟨-, hnone⟩ | ⟨preview₀, _, hpreview₀, hpreview', hresurfaced⟩
          · cases hpreview.symm.trans hnone
          · cases hpreview.symm.trans hpreview'
            exact (hfollows preview₀ hpreview₀).resurfaced hresurfaced

/-- The next update of a session has something to present: the session is active, a frame that
it takes has a texture, and the window is visible and not empty. -/
structure HasPresent (state : DuplicatorState) (index : UInt32) (preview : Preview) : Prop where
  alive : (state.step (.use index .update)).1.reply = .flag true
  readable : ∀ error,
    .call .frameTexture (.failed error) ∉ (state.step (.use index .update)).1.journal
  busy : ∀ session, (state.step (.use index .update)).2.sessions.get? index = some session →
    ¬preview.IsIdle session.texture

/-- An update that has something to present resizes the surface exactly if it is not of the
client area's size. -/
theorem HasPresent.resize_iff {state : DuplicatorState} (hsound : state.Sound) {index : UInt32}
    {session : Session} {preview : Preview}
    (hlive : state.sessions.get? index = some session)
    (hpreview : session.preview = some preview) (hpresent : state.HasPresent index preview) :
    (∃ answer, .call (.resize preview.swapChain.id preview.window.clientSize) answer ∈
      (state.step (.use index .update)).1.journal) ↔
        preview.swapChain.size ≠ preview.window.clientSize := by
  obtain ⟨alive, session', hreply, hlive', hdrives⟩ := drives_update hsound hlive
  have halive : alive = true := by
    cases hreply.symm.trans hpresent.alive
    rfl
  exact hdrives.resize_iff hpreview halive hpresent.readable (hpresent.busy session' hlive')

/-- The size of a preview's surface is that of its last resize, or half its monitor's; every
resize brought another size, and none an empty one.  Whenever a surface is presented it has
the size of the client area, and to have it so an update that presents resizes exactly if
this is not so yet.  A resize that fails leaves the preview as it was, and until a resize
succeeds every update that presents tries again, unless the client area has the surface's
size by then. -/
theorem surfaces_follow_windows (outputs : List OutputConfig) (config : SessionConfig)
    (before : List DuplicatorStep) :
    let state := after outputs config before
    (∀ index session preview, state.sessions.get? index = some session →
      session.preview = some preview → ∃ described,
        StartedOn outputs config before index described ∧
        preview.swapChain.Follows described.halfSize) ∧
    (∀ index session preview, state.sessions.get? index = some session →
      session.preview = some preview → state.HasPresent index preview →
        ((∃ answer, .call (.resize preview.swapChain.id preview.window.clientSize) answer ∈
            (state.step (.use index .update)).1.journal) ↔
          preview.swapChain.size ≠ preview.window.clientSize)) ∧
    ∀ taken,
      let done := state.step taken
      done.2.device.presents =
        state.device.presents ++ done.1.journal.filterMap Entry.presented? ∧
      (∀ past id interval answer future,
        done.1.journal = past ++ .call (.present id interval) answer :: future →
          ∃ index session session', taken = .use index .update ∧
            state.sessions.get? index = some session ∧
            done.2.sessions.get? index = some session' ∧
            session.FitsAtPresent id future session') ∧
      ∀ id size error, .call (.resize id size) (.failed error) ∈ done.1.journal →
        ∃ index session session' preview, taken = .use index .update ∧
          state.sessions.get? index = some session ∧ session.preview = some preview ∧
          done.2.sessions.get? index = some session' ∧ session'.preview = some preview ∧
          preview.swapChain.id = id ∧ preview.window.clientSize = size ∧
          preview.swapChain.size ≠ size ∧
          ∀ during, (∀ part, part <+: during →
              (runFrom step done.2 part).2.sessions.get? index ≠ none) →
            (∀ size, .call (.resize id size) .done ∉ journal (runFrom step done.2 during).1) →
            let last := (runFrom step done.2 during).2
            ∃ session'' preview'', last.sessions.get? index = some session'' ∧
              session''.preview = some preview'' ∧
              preview''.swapChain = preview.swapChain ∧
              (last.HasPresent index preview'' →
                ((∃ answer, .call (.resize id preview''.window.clientSize) answer ∈
                    (last.step (.use index .update)).1.journal) ↔
                  preview.swapChain.size ≠ preview''.window.clientSize)) := by
  intro state
  have hsound : state.Sound := sound_after outputs config before
  refine ⟨?_, ?_, ?_⟩
  · intro index session preview hlive hpreview
    obtain ⟨described, hstarted, hfollows⟩ := surface_run before hlive
    exact ⟨described, hstarted, hfollows preview hpreview⟩
  · intro index session preview hlive hpreview hpresent
    exact hpresent.resize_iff hsound hlive hpreview
  intro taken done
  refine ⟨presents_step state taken, ?_, ?_⟩
  · intro past id interval answer future hsplit
    have hmember : .call (.present id interval) answer ∈ done.1.journal := by simp [hsplit]
    obtain ⟨index, session, alive, session', htaken, hlive, hlive', hdrives⟩ :=
      drives_step hsound hmember rfl
    exact ⟨index, session, session', htaken, hlive, hlive', hdrives.of_present hsplit⟩
  · intro id size error hfailed
    obtain ⟨index, session, alive, session', htaken, hlive, hlive', hdrives⟩ :=
      drives_step hsound hfailed rfl
    obtain ⟨preview, hpreview, hkept, rfl, rfl, hother⟩ := hdrives.of_failed_resize hfailed
    refine ⟨index, session, session', preview, htaken, hlive, hpreview, hlive', hkept, rfl, rfl,
      hother, ?_⟩
    intro during hstays hunresized last
    have hsound' : done.2.Sound := hsound.step taken
    obtain ⟨session'', preview'', hlast, hpreview'', hsame⟩ :=
      surface_stays hsound' hlive' hkept hstays hunresized
    refine ⟨session'', preview'', hlast, hpreview'', hsame, ?_⟩
    intro hpresent
    rw [← hsame]
    exact hpresent.resize_iff (hsound'.run during) hlast hpreview''

/-- A resize fails, the next one is left out as the window is hidden, and the one after it
is made up for without a frame. -/
example :
    let steps : List DuplicatorStep := [.create 0,
      .world (.pushFrames 0 [.frame ⟨640, 480⟩ .bgra8]), .use 0 (.window (.resize ⟨800, 600⟩)),
      .world (.queueFault .resize 5), .use 0 .update, .use 0 (.window .close), .use 0 .update]
    let resizes := fun state : DuplicatorState => (state.sessions.get? 0).bind fun session =>
      session.preview.map fun preview => preview.swapChain.resizes
    let state := after singleOutputDevice.outputs .standard steps
    resizes state = some [] ∧
      resizes (runFrom step state [.use 0 (.setVisible true), .use 0 .update]).2 =
        some [⟨800, 600⟩] := by
  decide +kernel

end Scenario.DuplicatorState
end DesktopCapture
