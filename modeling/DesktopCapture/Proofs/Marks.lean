import DesktopCapture.Proofs.Loss
import DesktopCapture.Proofs.Polls

/-!
# The mark of a captured frame

A session is marked when an update obtains the texture of a frame, whatever becomes of
the frame after that.  The mark stays until all sessions are reset or the session ends,
so it tells whether a frame was captured since then.
-/

namespace DesktopCapture

open Capture Scenario

/-- A journal in which a frame is acquired from a monitor and its texture is obtained. -/
structure Obtains (monitor : UInt32) (journal : List Entry) : Prop where
  acquired : .call (.acquire monitor 0) .done ∈ journal
  textured : ∃ texture, .call .frameTexture (.texture texture) ∈ journal

/-- Nothing but a frame whose texture is obtained marks a session. -/
theorem Session.Polled.marks {session : Session} {journal : List Entry} {done : Bool × Session}
    (hpolled : session.Polled journal done) {index : UInt32} (hat : session.IsAt index) :
    done.2.frameAvailable = true ↔
      Obtains index journal ∨ session.frameAvailable = true := by
  have hunmarked : ∀ journal : List Entry, ¬Obtains index journal →
      (session.frameAvailable = true ↔
        Obtains index journal ∨ session.frameAvailable = true) := by
    intro journal hnone
    exact ⟨.inr, fun h => h.resolve_left hnone⟩
  cases hpolled with
  | rested hlost => exact hunmarked [] fun hobtains => nomatch hobtains.acquired
  | lost hown =>
      refine hunmarked _ fun hobtains => ?_
      simpa using hobtains.acquired
  | missed hown herror hshown =>
      refine hunmarked _ fun hobtains => ?_
      rcases List.mem_cons.mp hobtains.acquired with hfailed | htold
      · cases hfailed
      · cases hshown _ htold
  | took hown htakes =>
      cases htakes with
      | unreadable hcached hshown =>
          refine hunmarked _ fun hobtains => ?_
          obtain ⟨texture, htextured⟩ := hobtains.textured
          simp only [List.mem_cons, List.mem_append] at htextured
          rcases htextured with heq | heq | hcaching | heq | htold
          · cases heq
          · cases heq
          · cases hcached _ hcaching
          · cases heq
          · cases hshown _ htold
      | @obtained texture answer cached shown cache preview hcached hshown =>
          refine ⟨fun _ => .inl ⟨?_, texture, by simp⟩, fun _ => rfl⟩
          rw [hat.duplication _ hown]
          exact List.mem_cons_self

namespace Scenario.DuplicatorState

/-- A reset clears the mark of every session and does nothing else. -/
theorem step_resetAll (state : DuplicatorState) :
    (state.step .resetAll).1.journal = [] ∧
      (state.step .resetAll).2.device = state.device ∧
      (state.step .resetAll).2.handles = state.handles ∧
      (state.step .resetAll).2.duplicator.map (·.registry.config) =
        state.duplicator.map (·.registry.config) ∧
      (state.step .resetAll).2.sessions = state.sessions.map Session.reset := by
  obtain ⟨device, _ | duplicator, handles⟩ := state
  · exact ⟨rfl, rfl, rfl, rfl, rfl⟩
  · exact ⟨rfl, rfl, rfl, rfl, rfl⟩

section

variable {state : DuplicatorState} {index : UInt32} {taken : DuplicatorStep}

/-- A session is marked after a step if the step is an update that obtains a frame of its
monitor, or if it was marked before and the step is no reset. -/
theorem marked_step (hsound : state.Sound) (hplaced : state.sessions.All Session.IsAt)
    {session' : Session} (hlive' : (state.step taken).2.sessions.get? index = some session') :
    session'.frameAvailable = true ↔
      (taken = .use index .update ∧ Obtains index (state.step taken).1.journal) ∨
      (taken ≠ .resetAll ∧
        ∃ session, state.sessions.get? index = some session ∧
          session.frameAvailable = true) := by
  by_cases hreset : taken = .resetAll
  · subst hreset
    rw [(step_resetAll state).2.2.2.2, MonitorTable.get?_map] at hlive'
    obtain ⟨session, -, rfl⟩ := Option.map_eq_some_iff.mp hlive'
    refine ⟨nofun, ?_⟩
    rintro (⟨hupdate, -⟩ | ⟨hother, -⟩)
    · cases hupdate
    · exact absurd rfl hother
  by_cases hupdate : taken = .use index .update
  · subst hupdate
    obtain ⟨hjournal, hsession⟩ := update_effect hsound index
    rw [hsession] at hlive'
    obtain ⟨session, hlive, rfl⟩ := Option.map_eq_some_iff.mp hlive'
    rw [hjournal, hlive]
    simpa using (session.update_polled state.device).marks (hplaced index session hlive)
  · -- Whatever else is done leaves the mark, or starts a session, which has none.
    simp only [hupdate, hreset, false_and, false_or, ne_eq, not_false_eq_true, true_and]
    rcases hsound.step_session hlive' with
      ⟨config, operation, rfl, -, hsession'⟩ | hsame | ⟨session, -, rfl, -⟩
    · rcases Cell.perform_session config hsession' with
        ⟨session, preview, refs, hlive, rfl⟩ | ⟨-, hvacant, preview, color, rfl⟩ | ⟨rfl, -⟩
      · exact ⟨fun hmark => ⟨session, hlive, hmark⟩, fun ⟨other, hother, hmark⟩ => by
          cases hlive.symm.trans hother
          exact hmark⟩
      · refine ⟨nofun, ?_⟩
        rintro ⟨session, hlive, -⟩
        cases hlive.symm.trans hvacant
      · exact absurd rfl hupdate
    · refine ⟨fun hmark => ⟨session', hsame, hmark⟩, ?_⟩
      rintro ⟨session, hlive, hmark⟩
      cases hlive.symm.trans hsame
      exact hmark
    · exact absurd rfl hreset

end

/-! ## Runs -/

variable {outputs : List OutputConfig} {config : SessionConfig}

/-- Steps in the course of which an update obtained a frame for the session that a monitor
has at their end, and no reset came after it: the session has been live since then. -/
def Captured (outputs : List OutputConfig) (config : SessionConfig) (index : UInt32)
    (steps : List DuplicatorStep) : Prop :=
  ∃ before during, steps = before ++ .use index .update :: during ∧
    Obtains index ((after outputs config before).step (.use index .update)).1.journal ∧
    .resetAll ∉ during ∧
    ∀ taken, taken <+: during →
      (after outputs config (before ++ .use index .update :: taken)).sessions.get? index ≠ none

/-- One step more keeps what was captured, if the session stays and it is no reset, or
captures a frame. -/
theorem captured_concat {index : UInt32} {steps : List DuplicatorStep} {taken : DuplicatorStep}
    (hlive : (after outputs config (steps ++ [taken])).sessions.get? index ≠ none) :
    Captured outputs config index (steps ++ [taken]) ↔
      (taken = .use index .update ∧
        Obtains index ((after outputs config steps).step taken).1.journal) ∨
      (taken ≠ .resetAll ∧ Captured outputs config index steps) := by
  constructor
  · rintro ⟨before, during, hsteps, hobtains, hunreset, hstays⟩
    rcases List.eq_nil_or_concat' during with rfl | ⟨earlier, last, rfl⟩
    · obtain ⟨rfl, htaken⟩ := List.append_inj' hsteps rfl
      cases htaken
      exact .inl ⟨rfl, hobtains⟩
    · rw [← List.cons_append, ← List.append_assoc] at hsteps
      obtain ⟨rfl, htaken⟩ := List.append_inj' hsteps rfl
      cases htaken
      refine .inr ⟨?_, before, earlier, rfl, hobtains, ?_, ?_⟩
      · rintro rfl
        exact hunreset (by simp)
      · exact fun hreset => hunreset (List.mem_append_left _ hreset)
      · exact fun part hpart => hstays part (hpart.trans (List.prefix_append earlier _))
  · rintro (⟨rfl, hobtains⟩ | ⟨hunreset, before, during, rfl, hobtains, hnone, hstays⟩)
    · refine ⟨steps, [], rfl, hobtains, List.not_mem_nil, ?_⟩
      intro part hpart
      rw [List.prefix_nil.mp hpart]
      exact hlive
    · refine ⟨before, during ++ [taken], by simp, hobtains, ?_, ?_⟩
      · rw [List.mem_append, List.mem_singleton, not_or]
        exact ⟨hnone, Ne.symm hunreset⟩
      · intro part hpart
        rcases List.prefix_concat_iff.mp hpart with rfl | hearlier
        · simpa using hlive
        · exact hstays part hearlier

theorem Captured.live {index : UInt32} {steps : List DuplicatorStep}
    (hcaptured : Captured outputs config index steps) :
    (after outputs config steps).sessions.get? index ≠ none := by
  obtain ⟨before, during, rfl, -, -, hstays⟩ := hcaptured
  exact hstays during List.prefix_rfl

/-- The mark of a live session is what its history says. -/
theorem marked_iff_captured {index : UInt32} {steps : List DuplicatorStep} {session : Session}
    (hlive : (after outputs config steps).sessions.get? index = some session) :
    session.frameAvailable = true ↔ Captured outputs config index steps := by
  induction steps using List.reverseRecOn generalizing session with
  | nil => cases hlive
  | append_singleton steps taken ih =>
      have hsome : (after outputs config (steps ++ [taken])).sessions.get? index ≠ none := by
        simp [hlive]
      rw [captured_concat hsome]
      rw [after_concat] at hlive
      rw [marked_step (sound_after outputs config steps)
        (placed.after_steps outputs config .empty steps) hlive]
      have hearlier : (∃ session, (after outputs config steps).sessions.get? index =
          some session ∧ session.frameAvailable = true) ↔
            Captured outputs config index steps := by
        constructor
        · rintro ⟨session, hbefore, hmark⟩
          exact (ih hbefore).mp hmark
        · intro hcaptured
          obtain ⟨session, hbefore⟩ := Option.ne_none_iff_exists'.mp hcaptured.live
          exact ⟨session, hbefore, (ih hbefore).mpr hcaptured⟩
      rw [hearlier]

/-- A live session is marked exactly if an update obtained the texture of a frame for it
since it started and since the last reset.  No other step changes the mark while the
session lives, and a reset changes nothing but the marks, those of lost sessions too. -/
theorem marks_tell_of_frames (outputs : List OutputConfig) (config : SessionConfig)
    (steps : List DuplicatorStep) (index : UInt32) :
    let state := after outputs config steps
    let reset := state.step .resetAll
    (∀ session, state.sessions.get? index = some session →
      (session.frameAvailable = true ↔ Captured outputs config index steps)) ∧
    (∀ taken session session', state.sessions.get? index = some session →
      (state.step taken).2.sessions.get? index = some session' → taken ≠ .resetAll →
        ¬(taken = .use index .update ∧ Obtains index (state.step taken).1.journal) →
          session'.frameAvailable = session.frameAvailable) ∧
    reset.1.journal = [] ∧ reset.2.device = state.device ∧
    reset.2.handles = state.handles ∧
    reset.2.duplicator.map (·.registry.config) = state.duplicator.map (·.registry.config) ∧
    ∀ other, reset.2.sessions.get? other = (state.sessions.get? other).map
      fun session => { session with frameAvailable := false } := by
  intro state reset
  have hsound : state.Sound := sound_after outputs config steps
  have hplaced : state.sessions.All Session.IsAt :=
    placed.after_steps outputs config .empty steps
  obtain ⟨hjournal, hdevice, hhandles, hconfig, hsessions⟩ := state.step_resetAll
  refine ⟨?_, ?_, hjournal, hdevice, hhandles, hconfig, ?_⟩
  · intro session hlive
    exact marked_iff_captured hlive
  · intro taken session session' hlive hlive' hunreset hunobtained
    have hmarked := marked_step hsound hplaced hlive'
    simp only [hunobtained, false_or, hunreset, ne_eq, not_false_eq_true, true_and, hlive,
      Option.some.injEq, exists_eq_left'] at hmarked
    exact Bool.eq_iff_iff.mpr hmarked
  · intro other
    rw [hsessions, MonitorTable.get?_map]
    rfl

/-- A frame marks a session that cannot cache it, the loss of access leaves the mark, and
a reset clears it. -/
example :
    let steps : List DuplicatorStep := [.create 0, .world (.setFailing .createTexture true),
      .world (.pushFrames 0 [.frame ⟨640, 480⟩ .bgra8, .accessLost]), .use 0 .update,
      .use 0 .update, .resetAll]
    let marks := fun taken : Nat =>
      ((after singleOutputDevice.outputs .standard (steps.take taken)).sessions.get? 0).map
        Session.frameAvailable
    marks 3 = some false ∧ marks 4 = some true ∧ marks 5 = some true ∧
      marks 6 = some false := by
  decide +kernel

end Scenario.DuplicatorState
end DesktopCapture
