import DesktopCapture.Proofs.Balance
import DesktopCapture.Proofs.Locality
import Mathlib.Data.List.Infix

/-!
# Joining a session

A consumer that gets a handle to a live session and gives it back while the session
is still live leaves no trace.  In between the session counts one handle more, and
nothing else is different: no operation reads the count except the release of a
handle, and for that one more handle matters only if the release would be the last.

The comparison is of two runs that take the same steps, the second from a state in
which one session is joined.
-/

namespace DesktopCapture

open Capture Scenario

namespace Capture

variable {α β γ δ : Type}

/-- Two actions that do the same, whatever the device is, and have corresponding
values. -/
def Mirrors (f : α → β) (action : Capture α) (action' : Capture β) : Prop :=
  ∀ device, action' device =
    ⟨f (action device).value, (action device).device, (action device).journal⟩

namespace Mirrors

theorem refl (action : Capture α) : Mirrors id action action := fun _ => rfl

theorem pure (f : α → β) (value : α) : Mirrors f (pure value) (pure (f value)) :=
  fun _ => rfl

theorem bind {f : α → β} {g : γ → δ} {first : Capture α} {first' : Capture β}
    {next : α → Capture γ} {next' : β → Capture δ} (hfirst : Mirrors f first first')
    (hnext : ∀ value, Mirrors g (next value) (next' (f value))) :
    Mirrors g (first >>= next) (first' >>= next') := by
  intro device
  rw [bind_apply, hfirst device, hnext]
  rfl

end Mirrors
end Capture

namespace Session

/-- A session with one handle more. -/
def joined (session : Session) : Session := { session with refs := session.refs + 1 }

theorem mirrors_present (session : Session) :
    Mirrors joined session.present session.joined.present := by
  unfold present
  rw [show session.joined.preview = session.preview from rfl]
  cases session.preview with
  | none => exact .pure joined session
  | some preview =>
      refine Mirrors.bind (.refl (preview.present session.texture)) ?_
      rintro ⟨error | _, preview'⟩
      · exact Mirrors.bind (.refl _) fun _ =>
          .pure joined { session with preview := some preview' }
      · exact .pure joined { session with preview := some preview' }

theorem mirrors_takeFrame (session : Session) (duplication : Duplication)
    (resource : FrameResource) :
    Mirrors joined (session.takeFrame duplication resource)
      (session.joined.takeFrame duplication resource) := by
  refine Mirrors.bind (.refl (frameTexture resource)) ?_
  rintro (error | texture)
  · exact Mirrors.bind (.refl _) fun _ => Mirrors.bind (.refl _) fun _ => .pure joined session
  · refine Mirrors.bind (.refl (session.cache.ingest texture session.color.hdr)) fun cache => ?_
    exact Mirrors.bind (.refl _) fun _ =>
      mirrors_present { session with cache, frameAvailable := true }

/-- An update does not look at the count of handles. -/
theorem mirrors_update (session : Session) :
    Mirrors (Prod.map id joined) session.update session.joined.update := by
  have hshown : Mirrors (Prod.map id joined)
      (do let shown ← session.present; Pure.pure (true, shown))
      (do let shown ← session.joined.present; Pure.pure (true, shown)) :=
    Mirrors.bind session.mirrors_present fun shown => .pure (Prod.map id joined) (true, shown)
  unfold update
  rw [show session.joined.duplication = session.duplication from rfl]
  cases session.duplication with
  | none => exact .pure (Prod.map id joined) (false, session)
  | some duplication =>
      refine Mirrors.bind (.refl (acquire duplication 0)) ?_
      rintro ((index | error | _ | _) | resource)
      · exact Mirrors.bind (.refl _) fun _ => hshown
      · exact Mirrors.bind (.refl _) fun _ => hshown
      · refine Mirrors.bind (.refl _) fun _ => Mirrors.bind (.refl _) fun _ => ?_
        exact .pure (Prod.map id joined) (false, { session with duplication := none })
      · exact hshown
      · exact Mirrors.bind (session.mirrors_takeFrame duplication resource) fun taken =>
          .pure (Prod.map id joined) (true, taken)

theorem mirrors_setPreviewVisible (session : Session) (visible : Bool) :
    Mirrors joined (session.setPreviewVisible visible)
      (session.joined.setPreviewVisible visible) := by
  unfold setPreviewVisible
  rw [show session.joined.preview = session.preview from rfl]
  cases session.preview with
  | none => exact .pure joined session
  | some preview =>
      exact Mirrors.bind (.refl _) fun shown =>
        .pure joined { session with preview := some shown }

end Session

/-- A reply that shows the session of a monitor, if it is joined. -/
def Scenario.Reply.joined (index : UInt32) : Reply → Reply
  | .session shown => .session (if shown.monitor = index then shown.joined else shown)
  | reply => reply

/-- Using a session and using it joined is the same, short of the release of its last
handle. -/
theorem Seat.mirrors_use {index : UInt32} {session : Session} (hat : session.IsAt index)
    (usage : HandleUse) (hrefs : usage = .destroy → session.refs - 1 ≠ 0) :
    Mirrors (Prod.map (Reply.joined index) (Option.map Session.joined))
      (Seat.use index (some session) usage) (Seat.use index (some session.joined) usage) := by
  have hpure : ∀ (reply : Reply) (seat : Seat), Mirrors
      (Prod.map (Reply.joined index) (Option.map Session.joined)) (pure (reply, seat))
      (pure (reply.joined index, seat.map Session.joined)) := fun _ _ _ => rfl
  cases usage with
  | destroy =>
      have hleft : session.refs - 1 ≠ 0 := hrefs rfl
      have hmore : session.refs ≠ 0 := fun hnone => hleft (by rw [hnone])
      have hsame : session.refs - 1 + 1 = session.refs := by omega
      intro device
      simp [Seat.use, Seat.destroy, Session.joined, hleft, hmore, hsame, Reply.joined]
  | update =>
      have hupdated : Mirrors (Prod.map id (Option.map Session.joined))
          (Seat.update (some session)) (Seat.update (some session.joined)) :=
        Mirrors.bind session.mirrors_update fun result =>
          .pure (Prod.map id (Option.map Session.joined)) (result.1, some result.2)
      exact Mirrors.bind hupdated fun result => hpure (.flag result.1) result.2
  | setVisible visible =>
      have hset : Mirrors (Option.map Session.joined)
          (Seat.setVisible visible (some session))
          (Seat.setVisible visible (some session.joined)) :=
        Mirrors.bind (session.mirrors_setPreviewVisible visible) fun shown =>
          .pure (Option.map Session.joined) (some shown)
      exact Mirrors.bind hset fun seat => hpure .nothing seat
  | window step =>
      have hpreview : session.joined.preview = session.preview := rfl
      simp only [Seat.use, Option.bind_some, WindowStep.onSession?, hpreview]
      cases session.preview with
      | none => exact hpure .noPreview (some session)
      | some preview =>
          exact hpure .nothing (some { session with preview := some (step.apply preview) })
  | session =>
      have hshown : Reply.joined index (.session session) = .session session.joined := by
        rw [Reply.joined, if_pos hat.monitor]
      intro device
      simp [Seat.use, Reply.ofOption, hshown]
  | texture =>
      have htexture : session.joined.texture = session.texture := rfl
      intro device
      cases hshown : session.texture <;>
        simp [Seat.use, Reply.ofOption, htexture, hshown, Reply.joined]
  | colorSpace => exact hpure _ (some session)
  | sdrWhite => exact hpure _ (some session)
  | isHdr => exact hpure _ (some session)
  | frameAvailable => exact hpure _ (some session)

namespace Scenario

/-- A record with the session of a monitor joined. -/
def Record.joined (index : UInt32) (record : Record) : Record :=
  ⟨record.reply.joined index, record.journal⟩

namespace Cell

/-- A cell with its session joined. -/
def joined (cell : Cell) : Cell := { cell with session := cell.session.map Session.joined }

/-- Whatever is done about a monitor is done alike if its session is joined, unless the
session ends by it. -/
theorem perform_joined (config : SessionConfig) {index : UInt32} {cell : Cell}
    {session : Session} (hlive : cell.session = some session) (hat : session.IsAt index)
    (operation : Operation) (device : Device)
    (hstays : (cell.perform config index operation device).value.2.session ≠ none) :
    let done := cell.perform config index operation device
    cell.joined.perform config index operation device =
      ⟨(done.value.1.joined index, done.value.2.joined), done.device, done.journal⟩ := by
  obtain ⟨handle, _⟩ := cell
  cases hlive
  cases operation with
  | create => rfl
  | use usage =>
      cases handle with
      | none => rfl
      | some handle =>
          have hrefs : usage = .destroy → session.refs - 1 ≠ 0 := by
            rintro rfl hlast
            simp [perform, Seat.use, Seat.destroy, hlast] at hstays
          have hused := Seat.mirrors_use hat usage hrefs device
          simp only [perform, joined, Option.map_some, bind_apply, pure_apply]
          rw [hused]
          rfl

theorem IsSound.joined {index : UInt32} {cell : Cell} (hsound : cell.IsSound index) :
    cell.joined.IsSound index where
  handle := hsound.handle
  session := by
    intro hhandle
    rw [Cell.joined, hsound.session hhandle]
    rfl

/-- What is done about a monitor shows no session of another. -/
theorem reply_joined_other (config : SessionConfig) {index other : UInt32} {cell : Cell}
    (hat : ∀ session, cell.session = some session → session.IsAt other)
    (hother : other ≠ index) (operation : Operation) (device : Device) :
    (cell.perform config other operation device).value.1.joined index =
      (cell.perform config other operation device).value.1 := by
  have hoption : ∀ {α : Type} (view : α → Reply) (shown : Option α),
      (∀ value, shown = some value → (view value).joined index = view value) →
        (Reply.ofOption view shown).joined index = Reply.ofOption view shown := by
    intro α view shown hview
    cases shown with
    | none => rfl
    | some value => exact hview value rfl
  obtain ⟨handle, seat⟩ := cell
  cases operation with
  | create => exact hoption .handle _ fun _ _ => rfl
  | use usage =>
      cases handle with
      | none => rfl
      | some handle =>
          cases usage with
          | destroy => rfl
          | update => rfl
          | setVisible visible => rfl
          | window step =>
              simp only [perform, Seat.use, bind_apply]
              cases seat.bind fun session => WindowStep.onSession? session step with
              | none => rfl
              | some session => rfl
          | session =>
              refine hoption .session seat fun session hlive => ?_
              have hmonitor := (hat session hlive).monitor
              rw [Reply.joined, if_neg (by rwa [hmonitor])]
          | texture => exact hoption .texture _ fun _ _ => rfl
          | colorSpace => exact hoption .colorSpace _ fun _ _ => rfl
          | sdrWhite => exact hoption .white _ fun _ _ => rfl
          | isHdr => exact hoption .flag _ fun _ _ => rfl
          | frameAvailable => exact hoption .flag _ fun _ _ => rfl

end Cell

namespace DuplicatorState

/-- The state with the session of a monitor joined. -/
def joined (index : UInt32) (state : DuplicatorState) : DuplicatorState :=
  state.putCell index (state.cell index).joined state.device

section

variable {state : DuplicatorState} {duplicator : Duplicator} {index : UInt32}

theorem cell_joined (hduplicator : state.duplicator = some duplicator) (other : UInt32) :
    (state.joined index).cell other =
      if other = index then (state.cell index).joined else state.cell other :=
  cell_putCell hduplicator index other _ _

theorem config_joined (state : DuplicatorState) :
    (state.joined index).duplicator.map (·.registry.config) =
      state.duplicator.map (·.registry.config) :=
  config_putCell state index _ _

/-- It does not matter whether a session is joined before or after a cell is put in its
place. -/
theorem joined_putCell (hduplicator : state.duplicator = some duplicator) (other : UInt32)
    {cell cell' : Cell} (hcell : cell' = if other = index then cell.joined else cell)
    (device : Device) :
    (state.joined index).putCell other cell' device =
      (state.putCell other cell device).joined index := by
  have hjoined : (state.joined index).duplicator = _ :=
    duplicator_putCell hduplicator index (state.cell index).joined state.device
  have hput := duplicator_putCell hduplicator other cell device
  apply ext_cell
  · rfl
  · rw [config_putCell, config_joined, config_joined, config_putCell]
  · intro third
    rw [cell_putCell hjoined, cell_joined hput, cell_joined hduplicator,
      cell_putCell hduplicator, cell_putCell hduplicator, hcell]
    by_cases hthird : third = other
    · subst hthird
      by_cases hindex : third = index
      · simp [hindex]
      · simp [hindex]
    · by_cases hindex : index = other
      · simp [hthird, hindex]
      · simp [hthird, hindex]

/-- A step about one monitor is taken alike where the session of any monitor is joined,
if that session stays. -/
theorem joined_toStep (hduplicator : state.duplicator = some duplicator)
    (hsound : state.Sound) (hplaced : state.sessions.All Session.IsAt)
    (hlive : state.sessions.get? index ≠ none) {other : UInt32} {operation : Operation}
    (hstays : (state.step (operation.toStep other)).2.sessions.get? index ≠ none) :
    (state.joined index).step (operation.toStep other) =
      ((state.step (operation.toStep other)).1.joined index,
        (state.step (operation.toStep other)).2.joined index) := by
  have hjoined : (state.joined index).duplicator = _ :=
    duplicator_putCell hduplicator index (state.cell index).joined state.device
  have hcell : (state.joined index).cell other = _ := cell_joined hduplicator other
  have hplain := step_toStep hduplicator (hsound other) operation
  have hsound' : ((state.joined index).cell other).IsSound other := by
    rw [hcell]
    split
    · next hother => exact hother ▸ (hsound other).joined
    · exact hsound other
  rw [hplain, step_toStep hjoined hsound' operation, hcell]
  have hdevice : (state.joined index).device = state.device := rfl
  have hconfig : ∀ seat, (duplicator.setSeat index seat).registry.config =
      duplicator.registry.config := fun _ => rfl
  rw [hdevice, hconfig]
  by_cases hother : other = index
  · subst hother
    obtain ⟨session, hsession⟩ := Option.ne_none_iff_exists'.mp hlive
    have hafter := cell_toStep hduplicator (hsound other) operation other
    rw [if_pos rfl] at hafter
    have hleft : ((state.cell other).perform duplicator.registry.config other operation
        state.device).value.2.session ≠ none := by
      rw [← hafter]
      exact hstays
    have hperformed := Cell.perform_joined duplicator.registry.config hsession
      (hplaced other session hsession) operation state.device hleft
    rw [if_pos rfl, hperformed]
    exact Prod.ext rfl (joined_putCell hduplicator other (if_pos rfl).symm _)
  · have hat : ∀ session, (state.cell other).session = some session → session.IsAt other :=
      hplaced other
    have hreply := Cell.reply_joined_other duplicator.registry.config hat hother operation
      state.device
    rw [if_neg hother]
    refine Prod.ext ?_ (joined_putCell hduplicator other (if_neg hother).symm _)
    rw [Record.joined, hreply]

/-- So is any other step. -/
theorem joined_elsewhere (hduplicator : state.duplicator = some duplicator)
    (hlive : state.sessions.get? index ≠ none) {taken : DuplicatorStep}
    (helsewhere : ∀ index operation, taken ≠ Operation.toStep index operation)
    (hstays : (state.step taken).2.sessions.get? index ≠ none) :
    (state.joined index).step taken =
      ((state.step taken).1.joined index, (state.step taken).2.joined index) := by
  obtain ⟨device, _, handles⟩ := state
  cases hduplicator
  obtain ⟨session, hsession⟩ := Option.ne_none_iff_exists'.mp hlive
  have hasked : ∀ {α : Type} (question : Capture α) (reply : α → Reply),
      (∀ answer, (reply answer).joined index = reply answer) →
        (⟨reply (question device).value, (question device).journal ++ []⟩ : Record) =
          Record.joined index
            ⟨reply (question device).value, (question device).journal ++ []⟩ := by
    intro α question reply hreply
    rw [Record.joined, hreply]
  cases taken with
  | create other => exact absurd rfl (helsewhere other .create)
  | use other usage => exact absurd rfl (helsewhere other (.use usage))
  | world change => rfl
  | inspect => rfl
  | count =>
      have hsize : (duplicator.registry.sessions.set index
          ((duplicator.registry.sessions.get? index).map Session.joined)).size =
          duplicator.registry.sessions.size := by
        rw [show duplicator.registry.sessions.get? index = some session from hsession]
        exact MonitorTable.size_insert session.joined hsession
      exact Prod.ext (congrArg (fun size => Record.mk (.count size) []) hsize) rfl
  | resetAll =>
      refine Prod.ext rfl (ext_cell rfl rfl fun other => ?_)
      have hreset : (duplicator.registry.sessions.set index
          ((duplicator.registry.sessions.get? index).map Session.joined)).map Session.reset =
          (duplicator.registry.sessions.map Session.reset).set index
            (((duplicator.registry.sessions.map Session.reset).get? index).map
              Session.joined) := by
        rw [MonitorTable.map_set, MonitorTable.get?_map, Option.map_map, Option.map_map]
        rfl
      exact congrArg (fun table : MonitorTable Session => Cell.mk _ (table.get? other)) hreset
  | monitors =>
      refine Prod.ext (hasked Duplicator.monitors (.ofReturned (.ofExcept .monitors)) ?_) rfl
      rintro (_ | error | infos)
      · rfl
      · rfl
      · rfl
  | monitorIndex monitor =>
      refine Prod.ext (hasked (Duplicator.monitorIndex monitor) (.ofReturned .index) ?_) rfl
      rintro (_ | index)
      · rfl
      · rfl
  | monitorInfo other =>
      refine Prod.ext (hasked (Duplicator.monitorInfo other) (.ofExcept .monitor) ?_) rfl
      rintro (error | info)
      · rfl
      · rfl
  | boundTarget => rfl
  | drop => exact absurd rfl hstays

/-! ## Getting the handle and giving it back -/

/-- A handle to a live session is got without asking the device. -/
theorem create_live (hsound : state.Sound) (hlive : state.sessions.get? index ≠ none) :
    state.step (.create index) = (⟨.handle ⟨index⟩, []⟩, state.joined index) := by
  obtain ⟨duplicator, hduplicator⟩ := exists_duplicator hlive
  obtain ⟨session, hsession⟩ := Option.ne_none_iff_exists'.mp hlive
  rw [show DuplicatorStep.create index = Operation.create.toStep index from rfl,
    step_toStep hduplicator (hsound index), joined, hsound.cell_live hsession]
  rfl

/-- Giving it back undoes this. -/
theorem destroy_joined (hsound : state.Sound) {session : Session}
    (hsession : state.sessions.get? index = some session) (hrefs : 0 < session.refs) :
    (state.joined index).step (.use index .destroy) = (⟨.nothing, []⟩, state) := by
  have hlive : state.sessions.get? index ≠ none := by simp [hsession]
  obtain ⟨duplicator, hduplicator⟩ := exists_duplicator hlive
  have hjoined : (state.joined index).duplicator = _ :=
    duplicator_putCell hduplicator index (state.cell index).joined state.device
  have hcell : (state.joined index).cell index =
      ⟨some ⟨index⟩, some session.joined⟩ := by
    rw [cell_joined hduplicator, if_pos rfl, hsound.cell_live hsession]
    rfl
  have hsound' : ((state.joined index).cell index).IsSound index := by
    rw [cell_joined hduplicator, if_pos rfl]
    exact (hsound index).joined
  have hmore : session.refs ≠ 0 := Nat.ne_of_gt hrefs
  have hleft : ∀ device, Cell.perform duplicator.registry.config index
      ⟨some ⟨index⟩, some session.joined⟩ (.use .destroy) device =
        ⟨(.nothing, ⟨some ⟨index⟩, some session⟩), device, []⟩ := by
    intro device
    simp [Cell.perform, Seat.use, Seat.destroy, Session.joined, hmore]
  have hconfig : ∀ seat, (duplicator.setSeat index seat).registry.config =
      duplicator.registry.config := fun _ => rfl
  rw [show DuplicatorStep.use index .destroy = (Operation.use .destroy).toStep index from rfl,
    step_toStep hjoined hsound', hcell, hconfig, hleft]
  refine Prod.ext rfl (ext_cell rfl ?_ fun other => ?_)
  · rw [config_putCell, config_joined]
  · rw [cell_putCell hjoined, cell_joined hduplicator]
    split
    · next hother => rw [hother, hsound.cell_live hsession]
    · rfl

end

/-! ## Runs -/

/-- Every live session has a handle. -/
theorem refs_pos : Invariant fun sessions _ _ =>
    sessions.All fun _ session => 0 < session.refs where
  world := fun _ _ h => h
  quiet := fun _ _ _ h => h
  start := by
    intro sessions index config hvacant past device h
    have hnew := (Session.does_start index config).yields device
    cases hstarted : (Session.start index config device).value with
    | ok session =>
        rw [hstarted] at hnew
        obtain ⟨preview, color, rfl⟩ := hnew
        exact h.2.insert Nat.one_pos
    | error error => exact h.2
  update := by
    intro sessions index session hlive past device h
    have hrefs := (session.does_update.yields device).refs
    exact h.2.insert (hrefs ▸ h.2 index session hlive)
  setVisible := by
    intro sessions index session visible hlive past device h
    obtain ⟨preview, hpreview⟩ := (session.does_setPreviewVisible visible).yields device
    rw [hpreview]
    exact h.2.insert (h.2 index session hlive)
  release := fun _ past device h => h.2.erase _
  recount := fun refs hpositive _ _ h => h.insert hpositive
  window := by
    intro sessions index session session' past device step hlive hstep _ h
    obtain ⟨preview, -, rfl⟩ := Option.map_eq_some_iff.mp hstep
    exact h.insert (h index session hlive)
  reset := fun _ h => h.map fun _ _ hpositive => hpositive

variable {outputs : List OutputConfig} {config : SessionConfig}

/-- A run goes on alike where a session is joined, as long as that session lives. -/
theorem joined_run (before during : List DuplicatorStep) {index : UInt32}
    (hlive : ∀ taken, taken <+: during →
      (after outputs config (before ++ taken)).sessions.get? index ≠ none) :
    runFrom step ((after outputs config before).joined index) during =
      ((runFrom step (after outputs config before) during).1.map (Record.joined index),
        (runFrom step (after outputs config before) during).2.joined index) := by
  induction during generalizing before with
  | nil => rfl
  | cons taken rest ih =>
      let state := after outputs config before
      have hsound : state.Sound := sound_after outputs config before
      have hplaced : state.sessions.All Session.IsAt :=
        placed.after_steps outputs config .empty before
      have hnow : state.sessions.get? index ≠ none := by
        simpa [state] using hlive [] List.nil_prefix
      have hnext : (state.step taken).2 = after outputs config (before ++ [taken]) := by
        rw [after_append]
        rfl
      have hstays : (state.step taken).2.sessions.get? index ≠ none := by
        rw [hnext]
        exact hlive [taken] (List.prefix_append [taken] rest)
      have hstep : (state.joined index).step taken =
          ((state.step taken).1.joined index, (state.step taken).2.joined index) := by
        obtain ⟨duplicator, hduplicator⟩ := exists_duplicator hnow
        by_cases hlocal : ∃ other operation, taken = Operation.toStep other operation
        · obtain ⟨other, operation, rfl⟩ := hlocal
          exact joined_toStep hduplicator hsound hplaced hnow hstays
        · exact joined_elsewhere hduplicator hnow
            (fun other operation htaken => hlocal ⟨other, operation, htaken⟩) hstays
      have hrest := ih (before ++ [taken]) fun others hprefix => by
        rw [List.append_assoc]
        exact hlive (taken :: others) (List.cons_prefix_cons.mpr ⟨rfl, hprefix⟩)
      rw [runFrom_cons, runFrom_cons, hstep]
      rw [← hnext] at hrest
      rw [hrest]
      rfl

/-- A consumer that gets a handle to a live session and gives it back while the session
still lives makes no difference but for the count of handles in between: getting the
handle and giving it back asks nothing of the device, every other step of the run has
the same record, and the run ends in the same state. -/
theorem joining_leaves_no_trace (outputs : List OutputConfig) (config : SessionConfig)
    (before during later : List DuplicatorStep) (index : UInt32)
    (hlive : ∀ taken, taken <+: during →
      (after outputs config (before ++ taken)).sessions.get? index ≠ none) :
    let run := runFrom step (initial outputs config)
    let first := run before
    let middle := runFrom step first.2 during
    let last := runFrom step middle.2 later
    run (before ++ during ++ later) = (first.1 ++ middle.1 ++ last.1, last.2) ∧
    run (before ++ .create index :: during ++ .use index .destroy :: later) =
      (first.1 ++ ⟨.handle ⟨index⟩, []⟩ :: middle.1.map (Record.joined index) ++
        ⟨.nothing, []⟩ :: last.1, last.2) ∧
    ∀ taken, taken <+: during → (run (before ++ .create index :: taken)).2 =
      (run (before ++ taken)).2.joined index := by
  intro run first middle last
  have hfirst : first.2 = after outputs config before := rfl
  have hmiddle : middle.2 = after outputs config (before ++ during) := by
    rw [after_append]
    rfl
  have hbegun : first.2.sessions.get? index ≠ none := by
    simpa [hfirst] using hlive [] List.nil_prefix
  have hcreated : first.2.step (.create index) =
      (⟨.handle ⟨index⟩, []⟩, first.2.joined index) :=
    create_live (sound_after outputs config before) hbegun
  have hjoined : ∀ taken, taken <+: during → runFrom step (first.2.joined index) taken =
      ((runFrom step first.2 taken).1.map (Record.joined index),
        (runFrom step first.2 taken).2.joined index) := by
    intro taken hprefix
    exact joined_run before taken fun others hothers => hlive others (hothers.trans hprefix)
  have hdestroyed : (middle.2.joined index).step (.use index .destroy) =
      (⟨.nothing, []⟩, middle.2) := by
    obtain ⟨session, hsession⟩ := Option.ne_none_iff_exists'.mp (hlive during List.prefix_rfl)
    have hpositive := refs_pos.after_steps outputs config .empty (before ++ during)
    rw [hmiddle]
    exact destroy_joined (sound_after outputs config (before ++ during)) hsession
      (hpositive index session hsession)
  have htaken : ∀ taken, taken <+: during → runFrom step first.2 (.create index :: taken) =
      (⟨.handle ⟨index⟩, []⟩ :: (runFrom step first.2 taken).1.map (Record.joined index),
        (runFrom step first.2 taken).2.joined index) := by
    intro taken hprefix
    rw [runFrom_cons, hcreated, hjoined taken hprefix]
  have hreturned : runFrom step (middle.2.joined index) (.use index .destroy :: later) =
      (⟨.nothing, []⟩ :: last.1, last.2) := by
    rw [runFrom_cons, hdestroyed]
  refine ⟨?_, ?_, ?_⟩
  · simp only [run, runFrom_append]
    rfl
  · have hduring := htaken during List.prefix_rfl
    simp only [run, runFrom_append] at hduring ⊢
    rw [show (runFrom step (initial outputs config) before).2 = first.2 from rfl, hduring,
      hreturned]
  · intro taken hprefix
    simp only [run, runFrom_append]
    rw [show (runFrom step (initial outputs config) before).2 = first.2 from rfl,
      htaken taken hprefix]

/-- A session is joined while it polls for a frame and is looked at. -/
theorem joining_leaves_no_trace_once :
    let outputs := singleOutputDevice.outputs
    let during : List DuplicatorStep :=
      [.world (.pushFrames 0 [.frame ⟨640, 480⟩ .bgra8]), .use 0 .update, .use 0 .session]
    (∀ taken, taken <+: during →
      (after outputs .standard ([.create 0] ++ taken)).sessions.get? 0 ≠ none) ∧
    (after outputs .standard ([.create 0] ++ .create 0 :: during)).sessions.get? 0 =
      ((after outputs .standard ([.create 0] ++ during)).sessions.get? 0).map
        Session.joined := by
  intro outputs during
  have hlive : ∀ taken, taken <+: during →
      (after outputs .standard ([.create 0] ++ taken)).sessions.get? 0 ≠ none := by
    have hall : ∀ taken ∈ during.inits,
        ((after outputs .standard ([.create 0] ++ taken)).sessions.get? 0).isSome = true := by
      decide +kernel
    intro taken hprefix
    exact Option.isSome_iff_ne_none.mp (hall taken ((List.mem_inits taken during).mpr hprefix))
  refine ⟨hlive, ?_⟩
  clear_value outputs during
  obtain ⟨-, -, hjoined⟩ :=
    joining_leaves_no_trace outputs .standard [.create 0] during [] 0 hlive
  obtain ⟨duplicator, hduplicator⟩ := exists_duplicator (hlive during List.prefix_rfl)
  have hcell : ((after outputs .standard ([.create 0] ++ during)).joined 0).cell 0 =
      ((after outputs .standard ([.create 0] ++ during)).cell 0).joined := by
    rw [cell_joined hduplicator, if_pos rfl]
  rw [after, hjoined during List.prefix_rfl]
  exact congrArg Cell.session hcell

end DuplicatorState
end Scenario
end DesktopCapture
