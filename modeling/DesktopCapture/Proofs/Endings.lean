import DesktopCapture.Proofs.Alarms
import DesktopCapture.Proofs.Ingestion
import DesktopCapture.Proofs.Loss

/-!
# How sessions end

A session ends when its last handle is released, or with the duplicator.  Either way it
releases what it owns at that moment, the duplication first, then the cached texture, and
last the preview, whose swap chain goes before its window.  A duplicator that is dropped
ends its sessions one after the other, so what they release is not mixed.
-/

namespace DesktopCapture

open Capture Scenario

/-- What the end of a monitor's session releases, in this order: the duplication if the
session is active, the cached texture if there is one, and the swap chain and the window of
the preview if there is one. -/
def Session.ending (index : UInt32) (session : Session) : List Release :=
  (if session.state = .active then [.duplication index] else []) ++
    (session.texture.elim [] fun texture => [.texture texture.id]) ++
    session.preview.elim [] fun preview =>
      [.swapChain preview.swapChain.id, .window preview.window.id]

theorem released_map_release (objects : List Release) :
    released (objects.map .release) = objects := by
  induction objects with
  | nil => rfl
  | cons object others ih =>
      rw [released] at ih ⊢
      simp [Entry.released?, ih]

namespace Session

/-- At its monitor, what a session owns is what its end releases. -/
theorem IsAt.holdings_eq {index : UInt32} {session : Session} (hat : session.IsAt index) :
    session.holdings = session.ending index := by
  have hduplication : session.duplicationHoldings =
      if session.state = .active then [.duplication index] else [] := by
    unfold duplicationHoldings state
    rcases hown : session.duplication with _ | duplication
    · rfl
    · rw [hat.duplication duplication hown]
      rfl
  have htexture : session.cache.holdings =
      session.texture.elim [] fun texture => [.texture texture.id] := by
    unfold FrameCache.holdings texture
    cases session.cache.texture <;> rfl
  have hpreview : session.previewHoldings = session.preview.elim [] fun preview =>
      [.swapChain preview.swapChain.id, .window preview.window.id] := by
    unfold previewHoldings Preview.holdings
    cases session.preview <;> rfl
  rw [holdings, hduplication, htexture, hpreview, ending]

/-- What a session owns is released in order, and nothing else is done. -/
theorem release_journal (session : Session) (device : Device) :
    (session.release device).journal = session.holdings.map .release := by
  have hduplication : ∀ device : Device,
      ((session.duplication.elim (pure ()) fun duplication =>
        Capture.release (.duplication duplication.output)) device).journal =
          session.duplicationHoldings.map .release := by
    intro device
    unfold duplicationHoldings
    cases session.duplication <;> rfl
  have hpreview : ∀ device : Device,
      ((session.preview.elim (pure ()) Preview.release) device).journal =
        session.previewHoldings.map .release := by
    intro device
    unfold previewHoldings
    cases session.preview <;> rfl
  simp only [release_eq, bind_apply, hduplication, FrameCache.release_journal, hpreview,
    holdings, List.map_append, List.append_assoc]

end Session

/-- Sessions are released one after the other. -/
theorem Registry.releaseSessions_journal (sessions : List Session) (device : Device) :
    (releaseSessions sessions device).journal =
      (sessions.flatMap Session.holdings).map .release := by
  induction sessions generalizing device with
  | nil => rfl
  | cons session others ih =>
      rw [releaseSessions, bind_apply, session.release_journal, ih, List.flatMap_cons,
        List.map_append]

namespace Scenario.DuplicatorState

variable {state : DuplicatorState} {index : UInt32} {session : Session}

theorem destroy_last_journal (hsound : state.Sound)
    (hlive : state.sessions.get? index = some session) (hrefs : session.refs = 1) :
    (state.step (.use index .destroy)).1.journal =
      .notice [] (.destroyingSession index) :: session.holdings.map .release := by
  rw [(hsound.use_live hlive .destroy).1]
  simp [Seat.use, Seat.destroy, hrefs, notify, note, session.release_journal]

theorem destroy_shared (hsound : state.Sound)
    (hlive : state.sessions.get? index = some session) (hrefs : 1 < session.refs) :
    let done := state.step (.use index .destroy)
    done.1.journal = [] ∧
      done.2.sessions.get? index = some { session with refs := session.refs - 1 } := by
  intro done
  have hshared : session.refs - 1 ≠ 0 := by omega
  obtain ⟨hrecord, hsession, -⟩ := hsound.use_live hlive .destroy
  rw [hrecord, hsession]
  simp [Seat.use, Seat.destroy, hshared]

theorem drop_journal (state : DuplicatorState) :
    (state.step .drop).1.journal =
      (Registry.releaseSessions state.sessions.values state.device).journal := by
  rcases state with ⟨device, _ | duplicator, handles⟩
  · rfl
  · rfl

/-- Sessions that stand at their monitors release what their ends release, one after the
other. -/
theorem released_releaseSessions (order : List (UInt32 × Session))
    (hplaced : ∀ entry ∈ order, entry.2.IsAt entry.1) (device : Device) :
    released (Registry.releaseSessions (order.map Prod.snd) device).journal =
      order.flatMap fun entry => entry.2.ending entry.1 := by
  rw [Registry.releaseSessions_journal, released_map_release, List.flatMap_map]
  exact List.flatMap_congr fun entry hentry => (hplaced entry hentry).holdings_eq

variable {outputs : List OutputConfig} {config : SessionConfig}

/-- The device sees the releases of the journal, in their order. -/
theorem releases_concat (before : List DuplicatorStep) (taken : DuplicatorStep) :
    let state := after outputs config before
    (state.step taken).2.device.releases =
      state.device.releases ++ released (state.step taken).1.journal := by
  intro state
  have hbefore := (owned.after_steps outputs config (Ledger.initial outputs) before).releases
  have hafter :=
    (owned.after_steps outputs config (Ledger.initial outputs) (before ++ [taken])).releases
  rw [after_concat, history_concat, released_append] at hafter
  rw [hafter, hbefore]

/-- The release of the last handle of a session releases what the session has, each thing
once and in the order of its end, and nothing else; the release of another handle, or of
one without a session, releases nothing.  A drop of the duplicator releases what its
sessions have, one session after the other, however many handles they have; the order of
the sessions can be any.  The device sees every release where the journal has it. -/
theorem sessions_end_in_order (outputs : List OutputConfig) (config : SessionConfig)
    (before : List DuplicatorStep) :
    let state := after outputs config before
    let endings := fun order : List (UInt32 × Session) =>
      order.flatMap fun entry => entry.2.ending entry.1
    (∀ index session, state.sessions.get? index = some session →
      let done := state.step (.use index .destroy)
      0 < session.refs ∧
      (session.refs = 1 → done.2.sessions.get? index = none ∧
        released done.1.journal = session.ending index) ∧
      (1 < session.refs →
        done.2.sessions.get? index = some { session with refs := session.refs - 1 } ∧
        released done.1.journal = [])) ∧
    (∀ index, state.sessions.get? index = none →
      released (state.step (.use index .destroy)).1.journal = []) ∧
    (∃ order, order.Perm state.sessions.entries ∧
      released (state.step .drop).1.journal = endings order) ∧
    (∀ order, order.Perm state.sessions.entries →
      released (Registry.releaseSessions (order.map Prod.snd) state.device).journal =
        endings order) ∧
    ∀ taken, (state.step taken).2.device.releases =
      state.device.releases ++ released (state.step taken).1.journal := by
  intro state endings
  have hsound : state.Sound := sound_after outputs config before
  have hplaced : state.sessions.All Session.IsAt :=
    placed.after_steps outputs config .empty before
  have hpositive := refs_pos.after_steps outputs config .empty before
  have hreleased : ∀ order : List (UInt32 × Session), order.Perm state.sessions.entries →
      ∀ device, released (Registry.releaseSessions (order.map Prod.snd) device).journal =
        endings order := by
    intro order hperm device
    refine released_releaseSessions order (fun entry hentry => ?_) device
    exact hplaced entry.1 entry.2 (MonitorTable.mem_entries_iff.mp (hperm.mem_iff.mp hentry))
  refine ⟨?_, ?_, ?_, ?_, releases_concat before⟩
  · intro index session hlive done
    refine ⟨hpositive index session hlive, ?_, ?_⟩
    · intro hrefs
      refine ⟨destroy_last hsound hlive hrefs, ?_⟩
      rw [destroy_last_journal hsound hlive hrefs, ← (hplaced index session hlive).holdings_eq]
      exact released_map_release session.holdings
    · intro hrefs
      obtain ⟨hjournal, hshared⟩ := destroy_shared hsound hlive hrefs
      exact ⟨hshared, by rw [hjournal]; rfl⟩
  · intro index hvacant
    rw [released, List.filterMap_eq_nil_iff]
    intro entry hentry
    rw [destroy_vacant hsound hvacant entry hentry]
    rfl
  · refine ⟨state.sessions.entries, List.Perm.refl _, ?_⟩
    rw [drop_journal]
    exact hreleased _ (List.Perm.refl _) state.device
  · intro order hperm
    exact hreleased order hperm state.device

/-- Two sessions, one of them shared and lost, end with their duplicator. -/
example :
    let steps : List DuplicatorStep := [.create 0, .create 1, .create 0,
      .world (.pushFrames 0 [.frame ⟨8, 8⟩ .bgra8, .accessLost]), .use 0 .update,
      .use 0 .update]
    let outputs := singleOutputDevice.outputs ++ singleOutputDevice.outputs
    let state := after outputs ⟨false, Preview.defaultTitle⟩ steps
    released (state.step .drop).1.journal = [.texture 3, .duplication 1] := by
  decide +kernel

end Scenario.DuplicatorState
end DesktopCapture
