import DesktopCapture.Proofs.LatestFrame
import DesktopCapture.Proofs.Outcomes

/-!
# Every frame is delivered once

Of the outcomes that the sessions of a monitor take, each frame that can be cached is
copied once, in the order the outcomes were pushed in, into a texture that a session of this
monitor caches then.  Nothing else copies a texture, and no texture is cached for two
monitors: a texture that is not cached for a monitor before is created for the frame.
-/

namespace DesktopCapture

open Capture Scenario

namespace Poll

/-- Whether a frame was found and, if an allocation was needed, it did not fail. -/
def isCaptured (poll : Poll) : Bool :=
  match poll.found with
  | some (.frame ..) => !poll.journal.any Entry.isUnallocated
  | _ => false

/-- The poll found a frame and made this copy, of the frame's texture, and no other. -/
def Copied (poll : Poll) (copy : Nat × Nat) : Prop :=
  ∃ size format, poll.found = some (.frame size format) ∧
    .call .frameTexture (.texture ⟨copy.2, size, format⟩) ∈ poll.journal ∧
    poll.journal.filterMap Entry.copied? = [copy]

theorem found_of_outcome {poll : Poll} {size : Size} {format : NativeFormat}
    (houtcome : poll.outcome = .frame size format) : poll.found = some (.frame size format) := by
  unfold outcome at houtcome
  cases hfound : poll.found with
  | none =>
      rw [hfound] at houtcome
      cases houtcome
  | some found =>
      rw [hfound] at houtcome
      exact congrArg some houtcome

theorem isCaptured_iff (poll : Poll) : poll.isCaptured = true ↔
    (∃ size format, poll.outcome = .frame size format) ∧
      poll.journal.any Entry.isUnallocated = false := by
  constructor
  · intro hcaptured
    unfold isCaptured at hcaptured
    split at hcaptured
    · next size format hfound =>
      refine ⟨⟨size, format, ?_⟩, by simpa using hcaptured⟩
      rw [outcome, hfound]
      rfl
    · cases hcaptured
  · rintro ⟨⟨size, format, houtcome⟩, hallocated⟩
    simp [isCaptured, found_of_outcome houtcome, hallocated]

end Poll

namespace Session

/-- An update that polls nothing does nothing. -/
theorem update_unpolled {session : Session} {device : Device}
    (hunpolled : ∀ entry ∈ (session.update device).journal, entry.polled? = none) :
    session.update device = ⟨(false, session), device, []⟩ := by
  cases hduplication : session.duplication with
  | none =>
      simp only [Session.update, hduplication]
      rfl
  | some duplication =>
      exfalso
      have hpolled := session.update_polled device
      generalize (session.update device).journal = journal,
        (session.update device).value = done at hunpolled hpolled
      cases hpolled with
      | rested hnone => cases hduplication.symm.trans hnone
      | lost => cases hunpolled _ List.mem_cons_self
      | missed => cases hunpolled _ List.mem_cons_self
      | took => cases hunpolled _ List.mem_cons_self

end Session

namespace Scenario.DuplicatorState

/-- The number of the texture that the session of a monitor caches. -/
def cachedId? (state : DuplicatorState) (index : UInt32) : Option Nat :=
  ((state.sessions.get? index).bind Session.texture).map Texture.id

/-- The numbers of the textures that sessions of a monitor have cached. -/
def cachedIds (outputs : List OutputConfig) (config : SessionConfig) (index : UInt32)
    (steps : List DuplicatorStep) : List Nat :=
  steps.inits.filterMap fun part => (after outputs config part).cachedId? index

variable {outputs : List OutputConfig} {config : SessionConfig}

theorem cachedIds_concat (index : UInt32) (before : List DuplicatorStep)
    (taken : DuplicatorStep) :
    cachedIds outputs config index (before ++ [taken]) = cachedIds outputs config index before ++
      ((after outputs config (before ++ [taken])).cachedId? index).toList := by
  rw [cachedIds, List.inits_append, List.filterMap_append]
  rfl

theorem cachedId_live {state : DuplicatorState} {index : UInt32} {session : Session}
    (hlive : state.sessions.get? index = some session) :
    state.cachedId? index = session.texture.map Texture.id := by
  rw [cachedId?, hlive]
  rfl

theorem cachedId_mem (index : UInt32) (steps : List DuplicatorStep) {id : Nat}
    (hcached : (after outputs config steps).cachedId? index = some id) :
    id ∈ cachedIds outputs config index steps :=
  List.mem_filterMap.mpr ⟨steps, (List.mem_inits steps steps).mpr List.prefix_rfl, hcached⟩

/-! ## Without a poll -/

/-- What was written without a poll copied no texture. -/
theorem copies_unpolled (copies : List (Nat × Nat)) : Invariant fun _ past device =>
    (∀ entry ∈ past, entry.polled? = none) → device.copies = copies where
  world := by
    intro sessions past device step _ h hpast
    cases step <;> exact h hpast
  quiet := fun _ _ _ h hpast => h (List.forall_mem_append.mp hpast).1
  start := by
    intro sessions index config hvacant past device h
    have hstarted := Session.frames_start index config past device ⟨rfl, rfl⟩
    cases hresult : (Session.start index config device).value with
    | ok session =>
        rw [hresult] at hstarted
        exact fun hpast => hstarted.2.trans (h.2 (List.forall_mem_append.mp hpast).1)
    | error error =>
        rw [hresult] at hstarted
        exact fun hpast => hstarted.2.trans (h.2 (List.forall_mem_append.mp hpast).1)
  update := by
    intro sessions index session hlive past device h hpast
    obtain ⟨hbefore, hwritten⟩ := List.forall_mem_append.mp hpast
    rw [Session.update_unpolled hwritten]
    exact h.2 hbefore
  setVisible := by
    intro sessions index session visible hlive past device h hpast
    have haside := (session.aside_setPreviewVisible visible).beside device
    exact haside.copies.trans (h.2 (List.forall_mem_append.mp hpast).1)
  release := by
    intro sessions index session hlive past device h hpast
    exact (session.noFrame_release.copies device).trans
      (h.2 (List.forall_mem_append.mp hpast).1)
  recount := fun _ _ _ _ h => h
  window := fun _ _ _ _ h => h
  reset := fun _ h => h

section

variable {state : DuplicatorState} {taken : DuplicatorStep} {index : UInt32} {poll : Poll}

/-- Without a poll a monitor's session caches the texture it cached before, or none. -/
theorem cachedId_unpolled (hsound : state.Sound) (hnone : state.poll? index taken = none) :
    (state.step taken).2.cachedId? index = none ∨
      (state.step taken).2.cachedId? index = state.cachedId? index := by
  cases hlive' : (state.step taken).2.sessions.get? index with
  | none => exact .inl (by rw [cachedId?, hlive']; rfl)
  | some session' =>
      rw [cachedId_live hlive']
      rcases hsound.step_session hlive' with
        ⟨config, operation, rfl, -, hperformed⟩ | hsame | ⟨session, hlive, -, rfl⟩
      · rcases Cell.perform_session config hperformed with
          ⟨session, preview, refs, hlive, rfl⟩ | ⟨-, -, preview, color, rfl⟩ |
            ⟨rfl, session, hlive, rfl, -⟩
        · exact .inr (cachedId_live hlive).symm
        · exact .inl rfl
        · right
          simp only [Session.update, poll?_update_eq_none hnone hlive, pure_apply]
          exact (cachedId_live hlive).symm
      · exact .inr (cachedId_live hsame).symm
      · exact .inr (cachedId_live hlive).symm

/-! ## What a step copies -/

/-- A step polls a monitor and captures a frame, by a copy into the texture that the
monitor's session caches then; this texture was cached before or is created. -/
structure Captures (state : DuplicatorState) (taken : DuplicatorStep) (index : UInt32)
    (poll : Poll) (copy : Nat × Nat) : Prop where
  polled : state.poll? index taken = some poll
  captured : poll.isCaptured = true
  copied : poll.Copied copy
  copies : (state.step taken).2.device.copies = state.device.copies ++ [copy]
  cached : (state.step taken).2.cachedId? index = some copy.1
  known : state.cachedId? index = some copy.1 ∨
    .texture copy.1 ∈ created (state.step taken).1.journal
  others : ∀ other, other ≠ index → state.poll? other taken = none

/-- A step captures no frame and copies none. -/
structure CapturesNone (state : DuplicatorState) (taken : DuplicatorStep) : Prop where
  copies : (state.step taken).2.device.copies = state.device.copies
  cached : ∀ index, (state.step taken).2.cachedId? index = none ∨
    (state.step taken).2.cachedId? index = state.cachedId? index
  missed : ∀ index poll, state.poll? index taken = some poll → poll.isCaptured = false

/-- A poll captures its frame, or the step captures none. -/
theorem step_captures_of_poll (h : state.Untroubled) (hinjects : taken.injects = false)
    (hpoll : state.poll? index taken = some poll) :
    (∃ copy, state.Captures taken index poll copy) ∨ state.CapturesNone taken := by
  obtain ⟨-, session', hlive', hserves⟩ := step_serves h hpoll
  obtain ⟨-, hlive, -, -, hjournal⟩ := poll?_eq_some hpoll
  have hcopies := (step_advances h.faults hinjects).copies
  rw [← hjournal] at hcopies
  rcases hserves.copies with
    ⟨size, format, source, texture, houtcome, hallocated, hqueried, hcopied, htexture, hknown⟩ |
      ⟨hcopied, htexture, hunallocated⟩
  · refine .inl ⟨(texture.id, source),
      { polled := hpoll
        captured := poll.isCaptured_iff.mpr ⟨⟨size, format, houtcome⟩, hallocated⟩
        copied := ⟨size, format, Poll.found_of_outcome houtcome, hqueried, hcopied⟩
        copies := by rw [hcopies, hcopied]
        cached := by rw [cachedId_live hlive', htexture]; rfl
        known := ?_
        others := fun other hother => poll?_other hpoll hother }⟩
    rw [cachedId_live hlive, ← hjournal]
    exact hknown.imp_left fun hbefore => by rw [hbefore]; rfl
  · refine .inr
      { copies := by rw [hcopies, hcopied, List.append_nil]
        cached := fun other => ?_
        missed := fun other found hfound => ?_ }
    · by_cases hother : other = index
      · rw [hother, cachedId_live hlive, cachedId_live hlive']
        exact htexture.imp (fun hnone => by rw [hnone]; rfl) fun hsame => by rw [hsame]
      · exact cachedId_unpolled h.sound (poll?_other hpoll hother)
    · by_cases hother : other = index
      · rw [hother, hpoll] at hfound
        cases hfound
        rw [← Bool.not_eq_true, Poll.isCaptured_iff]
        rintro ⟨⟨size, format, houtcome⟩, hallocated⟩
        rw [hunallocated size format houtcome] at hallocated
        cases hallocated
      · rw [poll?_other hpoll hother] at hfound
        cases hfound

theorem step_captures (h : state.Untroubled) (hinjects : taken.injects = false) :
    (∃ index poll copy, state.Captures taken index poll copy) ∨ state.CapturesNone taken := by
  rcases state.poll?_or_none taken with ⟨index, poll, hpoll⟩ | hnone
  · exact (step_captures_of_poll h hinjects hpoll).imp_left
      fun ⟨copy, hcaptures⟩ => ⟨index, poll, copy, hcaptures⟩
  · have hcopies := (copies_unpolled state.device.copies).step [] state taken fun _ => rfl
    refine .inr
      { copies := hcopies (step_unpolled h.sound hnone)
        cached := fun index => cachedId_unpolled h.sound (hnone index)
        missed := fun index poll hpoll => ?_ }
    rw [hnone index] at hpoll
    cases hpoll

end

/-! ## Whose texture is whose -/

section

variable {before steps : List DuplicatorStep} {taken : DuplicatorStep}

theorem mem_cachedIds_concat (index : UInt32) (id : Nat) :
    id ∈ cachedIds outputs config index (before ++ [taken]) ↔
      id ∈ cachedIds outputs config index before ∨
        (after outputs config (before ++ [taken])).cachedId? index = some id := by
  rw [cachedIds_concat, List.mem_append, Option.mem_toList]

/-- A cached texture was created. -/
theorem cachedId_created {index : UInt32} {id : Nat}
    (hcached : (after outputs config steps).cachedId? index = some id) :
    .texture id ∈ created (history outputs config steps) := by
  obtain ⟨texture, htexture, rfl⟩ := Option.map_eq_some_iff.mp hcached
  obtain ⟨session, hlive, htexture⟩ := Option.bind_eq_some_iff.mp htexture
  have howned : Owned _ _ _ := owned.after_steps outputs config (Ledger.initial outputs) steps
  refine howned.balance.mem_iff.mpr (List.mem_append_right _ ?_)
  exact List.mem_flatMap.mpr ⟨session, MonitorTable.get?_mem_values hlive,
    session.texture_mem_holdings htexture⟩

/-- What a step creates was not created before. -/
theorem created_once {id : Nat}
    (hnew : .texture id ∈ created ((after outputs config before).step taken).1.journal) :
    .texture id ∉ created (history outputs config before) := by
  have howned : Owned _ _ _ :=
    owned.after_steps outputs config (Ledger.initial outputs) (before ++ [taken])
  have hdistinct := howned.distinct
  rw [history_concat, created_append, List.filterMap_append] at hdistinct
  intro hold
  exact (List.nodup_append.mp hdistinct).2.2 id
    (List.mem_filterMap.mpr ⟨_, hold, rfl⟩) id (List.mem_filterMap.mpr ⟨_, hnew, rfl⟩) rfl

theorem created_mono {object : Release}
    (hcreated : object ∈ created (history outputs config before)) :
    object ∈ created (history outputs config (before ++ [taken])) := by
  rw [history_concat, created_append]
  exact List.mem_append_left _ hcreated

theorem step_captures_after (hinjects : ∀ step ∈ before ++ [taken], step.injects = false) :
    (∃ index poll copy, (after outputs config before).Captures taken index poll copy) ∨
      (after outputs config before).CapturesNone taken := by
  obtain ⟨hbefore, htaken⟩ := List.forall_mem_append.mp hinjects
  exact step_captures (untroubled_after outputs config hbefore) (htaken taken List.mem_cons_self)

/-- A texture that a monitor's session caches after a step was cached before, or the step
captures a frame of the monitor and creates the texture. -/
theorem cachedIds_step (hinjects : ∀ step ∈ before ++ [taken], step.injects = false)
    {index : UInt32} {id : Nat} (hid : id ∈ cachedIds outputs config index (before ++ [taken])) :
    id ∈ cachedIds outputs config index before ∨
      (((after outputs config before).poll? index taken).isSome = true ∧
        .texture id ∈ created ((after outputs config before).step taken).1.journal) := by
  rcases (mem_cachedIds_concat index id).mp hid with hold | hcached
  · exact .inl hold
  · have hkept : (after outputs config (before ++ [taken])).cachedId? index = none ∨
        (after outputs config (before ++ [taken])).cachedId? index =
          (after outputs config before).cachedId? index →
        id ∈ cachedIds outputs config index before := by
      rintro (hnone | hsame)
      · rw [hnone] at hcached
        cases hcached
      · exact cachedId_mem index before (hsame.symm.trans hcached)
    rw [after_concat] at hkept hcached
    rcases step_captures_after hinjects with ⟨other, poll, copy, hcaptures⟩ | hnone
    · by_cases hother : index = other
      · subst hother
        have hcopy : copy.1 = id := Option.some.inj (hcaptures.cached.symm.trans hcached)
        rw [← hcopy]
        rcases hcaptures.known with hold | hnew
        · exact .inl (cachedId_mem index before hold)
        · exact .inr ⟨by rw [hcaptures.polled]; rfl, hnew⟩
      · exact .inl (hkept (cachedId_unpolled (sound_after outputs config before)
          (hcaptures.others index hother)))
    · exact .inl (hkept (hnone.cached index))

/-- Cached textures and destinations of copies were created, and sessions of different
monitors cache different textures. -/
structure TexturesApart (outputs : List OutputConfig) (config : SessionConfig)
    (steps : List DuplicatorStep) : Prop where
  cached : ∀ {index id}, id ∈ cachedIds outputs config index steps →
    .texture id ∈ created (history outputs config steps)
  copied : ∀ copy ∈ (after outputs config steps).device.copies,
    .texture copy.1 ∈ created (history outputs config steps)
  apart : ∀ {index other id}, other ≠ index → id ∈ cachedIds outputs config index steps →
    id ∉ cachedIds outputs config other steps

theorem texturesApart (hinjects : ∀ taken ∈ steps, taken.injects = false) :
    TexturesApart outputs config steps := by
  induction steps using List.reverseRecOn with
  | nil => exact ⟨nofun, nofun, nofun⟩
  | append_singleton before taken ih =>
      have hapart := ih (List.forall_mem_append.mp hinjects).1
      constructor
      · intro index id hid
        rcases (mem_cachedIds_concat index id).mp hid with hold | hcached
        · exact created_mono (hapart.cached hold)
        · exact cachedId_created hcached
      · have hold : ∀ copy ∈ (after outputs config before).device.copies,
            .texture copy.1 ∈ created (history outputs config (before ++ [taken])) :=
          fun copy hcopy => created_mono (hapart.copied copy hcopy)
        rcases step_captures_after hinjects with ⟨index, poll, copy, hcaptures⟩ | hnone
        · have hcached := hcaptures.cached
          rw [← after_concat] at hcached
          rw [after_concat, hcaptures.copies]
          exact List.forall_mem_append.mpr
            ⟨hold, List.forall_mem_singleton.mpr (cachedId_created hcached)⟩
        · rw [after_concat, hnone.copies]
          exact hold
      · -- A texture that is new for a monitor is created by the step, which polls no other.
        intro index other id hother hid hid'
        rcases cachedIds_step hinjects hid with hold | ⟨hpolled, hnew⟩
        · rcases cachedIds_step hinjects hid' with hold' | ⟨-, hnew'⟩
          · exact hapart.apart hother hold hold'
          · exact created_once hnew' (hapart.cached hold)
        · rcases cachedIds_step hinjects hid' with hold' | ⟨hpolled', -⟩
          · exact created_once hnew (hapart.cached hold')
          · obtain ⟨poll, hpoll⟩ := Option.isSome_iff_exists.mp hpolled
            rw [poll?_other hpoll hother] at hpolled'
            cases hpolled'

/-! ## What was copied for a monitor -/

/-- The copies made before a step are for the same monitors after it. -/
theorem copies_before (hinjects : ∀ step ∈ before ++ [taken], step.injects = false)
    (index : UInt32) :
    ((after outputs config before).device.copies.filter fun copy =>
        copy.1 ∈ cachedIds outputs config index (before ++ [taken])) =
      (after outputs config before).device.copies.filter fun copy =>
        copy.1 ∈ cachedIds outputs config index before := by
  have hapart : TexturesApart outputs config before :=
    texturesApart (List.forall_mem_append.mp hinjects).1
  -- A texture that becomes the monitor's is new, so no copy before went into it.
  refine List.filter_congr fun copy hcopy => decide_eq_decide.mpr ⟨fun hid => ?_, fun hid => ?_⟩
  · rcases cachedIds_step hinjects hid with hold | ⟨-, hnew⟩
    · exact hold
    · exact absurd (hapart.copied copy hcopy) (created_once hnew)
  · exact (mem_cachedIds_concat index copy.1).mpr (.inl hid)

/-- The frames that were captured were copied for their monitor, once each and in order. -/
theorem captured_copied (hinjects : ∀ taken ∈ steps, taken.injects = false) (index : UInt32) :
    List.Forall₂ Poll.Copied
      ((polls outputs config index steps).filter Poll.isCaptured)
      ((after outputs config steps).device.copies.filter fun copy =>
        copy.1 ∈ cachedIds outputs config index steps) := by
  induction steps using List.reverseRecOn with
  | nil => exact .nil
  | append_singleton before taken ih =>
      have hbefore := ih (List.forall_mem_append.mp hinjects).1
      rw [polls_concat, List.filter_append, after_concat]
      rcases step_captures_after hinjects with ⟨other, poll, copy, hcaptures⟩ | hnone
      · have hcached := hcaptures.cached
        rw [← after_concat] at hcached
        have hcopy := (mem_cachedIds_concat other copy.1).mpr (.inr hcached)
        rw [hcaptures.copies, List.filter_append, copies_before hinjects]
        by_cases hother : other = index
        · subst hother
          rw [hcaptures.polled, Option.toList_some, List.filter_singleton, hcaptures.captured,
            List.filter_singleton, decide_eq_true hcopy]
          exact List.rel_append hbefore (.cons hcaptures.copied .nil)
        · -- The copy is another monitor's, so it does not count for this one.
          have hnot := (texturesApart hinjects).apart (Ne.symm hother) hcopy
          rw [hcaptures.others index (Ne.symm hother), List.filter_singleton,
            decide_eq_false hnot]
          simpa using hbefore
      · have hmissed : ((after outputs config before).poll? index taken).toList.filter
            Poll.isCaptured = [] := by
          refine List.filter_eq_nil_iff.mpr fun poll hpoll => ?_
          simp [hnone.missed index poll (Option.mem_toList.mp hpoll)]
        rw [hnone.copies, copies_before hinjects, hmissed, List.append_nil]
        exact hbefore

/-- Without injected faults, the outcomes pushed for a monitor are those that its polls
found and then those that are still to come, in this order.  A poll is an update of the
monitor's session while it is active, nothing else polls the monitor, and a poll serves the
outcome that it found, or times out if it found none.  The copies into textures that
sessions of the monitor have cached are those of the frames that were found and could be
cached, one for each and in this order. -/
theorem frames_are_delivered (outputs : List OutputConfig) (config : SessionConfig)
    (steps : List DuplicatorStep) (hinjects : ∀ taken ∈ steps, taken.injects = false)
    (index : UInt32) :
    let polls := polls outputs config index steps
    let device := (after outputs config steps).device
    steps.flatMap (DuplicatorStep.pushed index) =
      polls.filterMap Poll.found ++ device.frames index ∧
    (history outputs config steps).countP (fun entry => entry.polled? = some index) =
      polls.length ∧
    (∀ poll ∈ polls, poll.session.duplication = some ⟨index⟩ ∧
      ∃ session', poll.session.Serves index poll.outcome poll.journal session') ∧
    List.Forall₂ Poll.Copied (polls.filter Poll.isCaptured)
      (device.copies.filter fun copy => copy.1 ∈ cachedIds outputs config index steps) :=
  ⟨outcomes_conserved hinjects index, polls_counted hinjects index,
    polls_served hinjects index, captured_copied hinjects index⟩

/-- The frames before and after a loss are delivered to two sessions of one monitor, and
the one that neither took is still to come. -/
theorem frames_are_delivered_again :
    let frame : UInt32 → AcquireOutcome := fun width => .frame ⟨width, 480⟩ .bgra8
    let steps : List DuplicatorStep := [.create 0,
      .world (.pushFrames 0 [frame 640, .accessLost, frame 800, frame 1024]),
      .use 0 .update, .use 0 .update, .use 0 .update, .use 0 .destroy, .create 0, .use 0 .update]
    let polls := polls singleOutputDevice.outputs .standard 0 steps
    let device := (after singleOutputDevice.outputs .standard steps).device
    (∀ taken ∈ steps, taken.injects = false) ∧ polls.length = 3 ∧
    [frame 640, .accessLost, frame 800, frame 1024] =
      polls.filterMap Poll.found ++ [frame 1024] ∧
    (polls.filter Poll.isCaptured).length = 2 ∧
    List.Forall₂ Poll.Copied (polls.filter Poll.isCaptured) (device.copies.filter fun copy =>
      copy.1 ∈ cachedIds singleOutputDevice.outputs .standard 0 steps) := by
  intro frame steps polls device
  have hinjects : ∀ taken ∈ steps, taken.injects = false := by decide
  have hpushed : steps.flatMap (DuplicatorStep.pushed 0) =
      [frame 640, .accessLost, frame 800, frame 1024] := by decide
  have hrest : device.frames 0 = [frame 1024] := by decide +kernel
  have hpolls : polls.length = 3 := by decide +kernel
  have hcaptured : (polls.filter Poll.isCaptured).length = 2 := by decide +kernel
  obtain ⟨hqueue, -, -, hcopied⟩ :=
    frames_are_delivered singleOutputDevice.outputs .standard steps hinjects 0
  refine ⟨hinjects, hpolls, ?_, hcaptured, hcopied⟩
  rw [← hpushed, hqueue, ← hrest]

end

end Scenario.DuplicatorState
end DesktopCapture
