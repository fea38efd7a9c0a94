import DesktopCapture.Proofs.BoundTarget
import DesktopCapture.Proofs.Loss
import DesktopCapture.Proofs.Serving

/-!
# The outcomes that sessions take

The outcomes pushed for a monitor are taken in their order, one by each update of its
session while the session is active, and by nothing else.  However often the session is
lost, destroyed and started again meanwhile, what was not taken is still to come.
-/

namespace DesktopCapture

open Capture Scenario

/-! ## Updates of active sessions -/

/-- An update of an active session: the session, the outcome to come that it found first, if
there was one, and what it wrote. -/
structure Poll where
  session : Session
  found : Option AcquireOutcome
  journal : List Entry

namespace Poll

/-- The outcome of a poll, which times out if there was none to come. -/
def outcome (poll : Poll) : AcquireOutcome := poll.found.getD .timeout

end Poll

namespace Scenario

namespace DuplicatorStep

/-- Whether a step queues a fault. -/
def injects : DuplicatorStep → Bool
  | .world (.queueFault ..) | .world (.queueAcquireFault _) => true
  | _ => false

/-- The outcomes that a step pushes for a monitor. -/
def pushed (index : UInt32) : DuplicatorStep → List AcquireOutcome
  | .world (.pushFrames output outcomes) => if index = output then outcomes else []
  | _ => []

end DuplicatorStep

namespace DuplicatorState

/-- The session of a monitor if it is active. -/
def activeSession? (state : DuplicatorState) (index : UInt32) : Option Session :=
  (state.sessions.get? index).filter fun session => session.state = .active

/-- The poll of a monitor that a step makes, if it updates an active session. -/
def poll? (state : DuplicatorState) (index : UInt32) : DuplicatorStep → Option Poll
  | .use other .update =>
    if other = index then
      (state.activeSession? index).map fun session =>
        ⟨session, (state.device.frames index).head?, (state.step (.use other .update)).1.journal⟩
    else none
  | _ => none

/-- The polls of a monitor in steps from a state on. -/
def pollsFrom (index : UInt32) (state : DuplicatorState) : List DuplicatorStep → List Poll
  | [] => []
  | taken :: rest => (state.poll? index taken).toList ++ pollsFrom index (state.step taken).2 rest

/-- The polls of a monitor in steps from the beginning. -/
def polls (outputs : List OutputConfig) (config : SessionConfig) (index : UInt32)
    (steps : List DuplicatorStep) : List Poll :=
  pollsFrom index (initial outputs config) steps

variable {outputs : List OutputConfig} {config : SessionConfig}

theorem pollsFrom_concat (index : UInt32) (state : DuplicatorState)
    (before : List DuplicatorStep) (taken : DuplicatorStep) :
    pollsFrom index state (before ++ [taken]) = pollsFrom index state before ++
      ((runFrom step state before).2.poll? index taken).toList := by
  induction before generalizing state with
  | nil => simp [pollsFrom]
  | cons first rest ih => simp [pollsFrom, ih]

theorem polls_concat (index : UInt32) (before : List DuplicatorStep) (taken : DuplicatorStep) :
    polls outputs config index (before ++ [taken]) = polls outputs config index before ++
      ((after outputs config before).poll? index taken).toList :=
  pollsFrom_concat index _ before taken

/-! ## Without a poll -/

/-- No operation but an update polls. -/
theorem unpolled : Composed fun {α : Type} (action : Capture α) => ∀ device,
    ∀ entry ∈ (action device).journal, entry.polled? = none := by
  refine .of_plain (fun _ _ => List.forall_mem_nil _) ?_ ?_ ?_
  · intro α β first next hfirst hnext device
    exact List.forall_mem_append.mpr ⟨hfirst device, hnext _ _⟩
  · intro α action hplain device
    obtain ⟨⟨entry, hjournal, hentry⟩, -⟩ := hplain device
    rw [hjournal]
    refine List.forall_mem_singleton.mpr ?_
    unfold Entry.polled?
    split
    · cases hentry
    · rfl
  · intro preview texture device entry hentry
    have haside := (preview.aside_draw texture).entries device entry hentry
    exact (Entry.of_isShowing (Entry.isShowing_of_isAside haside)).1

section

variable {state : DuplicatorState} {taken : DuplicatorStep} {index : UInt32} {poll : Poll}

/-- An update that is no poll finds no session, or a lost one. -/
theorem poll?_update_eq_none (hnone : state.poll? index (.use index .update) = none)
    {session : Session} (hlive : state.sessions.get? index = some session) :
    session.duplication = none := by
  have hinactive : state.activeSession? index = none := by simpa [poll?] using hnone
  rw [activeSession?, hlive] at hinactive
  simpa [Option.filter, Session.state_eq_active] using hinactive

/-- A step that polls no monitor writes no poll. -/
theorem step_unpolled (hsound : state.Sound) (hnone : ∀ index, state.poll? index taken = none) :
    ∀ entry ∈ (state.step taken).1.journal, entry.polled? = none := by
  by_cases hworld : ∃ change, taken = .world change
  · obtain ⟨change, rfl⟩ := hworld
    rw [(state.step_world change).1]
    exact List.forall_mem_nil _
  · -- Updates do poll, so what holds of all other operations does not cover them.
    by_cases hupdate : ∃ index, taken = .use index .update
    · obtain ⟨index, rfl⟩ := hupdate
      rw [(update_effect hsound index).1]
      cases hlive : state.sessions.get? index with
      | none => exact List.forall_mem_nil _
      | some session =>
          simp only [Option.elim, Session.update, poll?_update_eq_none (hnone index) hlive]
          exact List.forall_mem_nil _
    · obtain ⟨α, action, hunpolled, hjournal, -⟩ := unpolled.step state
        (fun change htaken => hworld ⟨change, htaken⟩)
        fun index htaken => absurd ⟨index, htaken⟩ hupdate
      rw [hjournal]
      exact hunpolled _

/-- Without queued faults, a step uses up an outcome for each poll that it writes, copies
what it writes and pushes what it pushes. -/
structure Advances (state : DuplicatorState) (taken : DuplicatorStep) : Prop where
  faults : (state.step taken).2.device.faults = .none
  frames : ∀ index, (state.step taken).2.device.frames index =
    (state.device.frames index).drop
      ((state.step taken).1.journal.countP fun entry => entry.polled? = some index) ++
        taken.pushed index
  copies : (state.step taken).2.device.copies =
    state.device.copies ++ (state.step taken).1.journal.filterMap Entry.copied?

theorem step_advances (hfaults : state.device.faults = .none)
    (hinjects : taken.injects = false) : state.Advances taken := by
  by_cases hworld : ∃ change, taken = .world change
  · obtain ⟨change, rfl⟩ := hworld
    have hjournal := (state.step_world change).1
    cases change with
    | queueFault => cases hinjects
    | queueAcquireFault => cases hinjects
    | pushFrames output outcomes =>
        refine ⟨hfaults, fun index => ?_, (List.append_nil _).symm⟩
        by_cases hindex : index = output
        · simp [step, DeviceStep.apply, Device.pushFrames, DuplicatorStep.pushed, hindex]
        · simp [step, DeviceStep.apply, Device.pushFrames, DuplicatorStep.pushed, hindex]
    | _ => exact ⟨hfaults, fun _ => (List.append_nil _).symm, (List.append_nil _).symm⟩
  · obtain ⟨α, action, hreplays, hjournal, hdevice⟩ :=
      (replayed fun _ => True).step state fun change htaken => hworld ⟨change, htaken⟩
    have hreplayed : (state.step taken).2.device =
        (state.step taken).1.journal.foldl Device.replay state.device := by
      rw [hdevice, hjournal, hreplays.device state.device hfaults]
    have hpushed : ∀ index, taken.pushed index = [] := by
      intro index
      unfold DuplicatorStep.pushed
      split
      · exact absurd ⟨_, rfl⟩ hworld
      · rfl
    constructor
    · rw [hdevice]
      exact hreplays.faults hfaults
    · intro index
      rw [hreplayed, Device.foldl_replay_frames, hpushed, List.append_nil]
    · rw [hreplayed]
      exact Device.foldl_replay_list Device.copies Entry.copied?
        (fun _ _ => by rw [Device.replay_eq]) _ _

/-! ## With a poll -/

theorem poll?_eq_some (hpoll : state.poll? index taken = some poll) :
    taken = .use index .update ∧ state.sessions.get? index = some poll.session ∧
      poll.session.duplication ≠ none ∧ poll.found = (state.device.frames index).head? ∧
      poll.journal = (state.step taken).1.journal := by
  unfold poll? at hpoll
  split at hpoll
  · next other =>
    split at hpoll
    · next hother =>
      subst hother
      obtain ⟨session, hactive, rfl⟩ := Option.map_eq_some_iff.mp hpoll
      obtain ⟨hlive, hstate⟩ := Option.filter_eq_some_iff.mp hactive
      exact ⟨rfl, hlive, Session.state_eq_active.mp (of_decide_eq_true hstate), rfl, rfl⟩
    · cases hpoll
  · cases hpoll

/-- A step that polls a monitor polls no other. -/
theorem poll?_other (hpoll : state.poll? index taken = some poll) {other : UInt32}
    (hother : other ≠ index) : state.poll? other taken = none := by
  obtain ⟨rfl, -⟩ := poll?_eq_some hpoll
  exact if_neg (Ne.symm hother)

/-- A state in which sessions stand where they belong and no fault is queued. -/
structure Untroubled (state : DuplicatorState) : Prop where
  sound : state.Sound
  placed : state.sessions.All Session.IsAt
  faults : state.device.faults = .none

/-- A poll serves the outcome that it found. -/
theorem step_serves (h : state.Untroubled) (hpoll : state.poll? index taken = some poll) :
    poll.session.duplication = some ⟨index⟩ ∧
      ∃ session', (state.step taken).2.sessions.get? index = some session' ∧
        poll.session.Serves index poll.outcome poll.journal session' := by
  obtain ⟨rfl, hlive, hsome, hfound, hjournal⟩ := poll?_eq_some hpoll
  obtain ⟨heffect, hafter⟩ := update_effect h.sound index
  obtain ⟨duplication, hduplication⟩ := Option.ne_none_iff_exists'.mp hsome
  have hown : poll.session.duplication = some ⟨index⟩ := by
    rw [hduplication, (h.placed index _ hlive).duplication duplication hduplication]
  rw [hlive] at heffect hafter
  refine ⟨hown, _, hafter, ?_⟩
  rw [hjournal, heffect, Poll.outcome, hfound]
  exact Session.update_serves hown h.faults

/-- A step polls some monitor, or it polls none. -/
theorem poll?_or_none (state : DuplicatorState) (taken : DuplicatorStep) :
    (∃ index poll, state.poll? index taken = some poll) ∨
      ∀ index, state.poll? index taken = none := by
  by_cases hpolled : ∃ index poll, state.poll? index taken = some poll
  · exact .inl hpolled
  · exact .inr fun index =>
      Option.eq_none_iff_forall_ne_some.mpr fun poll hpoll => hpolled ⟨index, poll, hpoll⟩

/-! ## What a step takes -/

/-- A step writes as many polls of a monitor as it makes, which is one at most. -/
theorem step_polls (h : state.Untroubled) (index : UInt32) :
    (state.step taken).1.journal.countP (fun entry => entry.polled? = some index) =
      (state.poll? index taken).toList.length := by
  rcases state.poll?_or_none taken with ⟨other, poll, hpoll⟩ | hnone
  · obtain ⟨-, session', -, hserves⟩ := step_serves h hpoll
    obtain ⟨-, -, -, -, hjournal⟩ := poll?_eq_some hpoll
    rw [← hjournal, hserves.countP_polled]
    by_cases hother : other = index
    · rw [if_pos hother, ← hother, hpoll]
      rfl
    · rw [if_neg hother, poll?_other hpoll (Ne.symm hother)]
      rfl
  · rw [hnone index]
    refine List.countP_eq_zero.mpr fun entry hentry => ?_
    simp [step_unpolled h.sound hnone entry hentry]

/-- What a poll found, and what is to come after a step, were to come before it or are
pushed by it. -/
theorem step_frames (h : state.Untroubled) (hinjects : taken.injects = false)
    (index : UInt32) :
    (state.poll? index taken).toList.filterMap Poll.found ++
        (state.step taken).2.device.frames index =
      state.device.frames index ++ taken.pushed index := by
  rw [(step_advances h.faults hinjects).frames, step_polls h, ← List.append_assoc]
  congr 1
  cases hpoll : state.poll? index taken with
  | none => rfl
  | some poll =>
      obtain ⟨-, -, -, hfound, -⟩ := poll?_eq_some hpoll
      simp only [Option.toList_some, List.filterMap_cons, hfound]
      cases state.device.frames index <;> rfl

end

/-! ## Runs without injected faults -/

section

variable {steps : List DuplicatorStep}

theorem untroubled_after (outputs : List OutputConfig) (config : SessionConfig)
    (hinjects : ∀ taken ∈ steps, taken.injects = false) :
    (after outputs config steps).Untroubled := by
  refine ⟨sound_after outputs config steps, placed.after_steps outputs config .empty steps, ?_⟩
  induction steps using List.reverseRecOn with
  | nil => rfl
  | append_singleton before taken ih =>
      obtain ⟨hbefore, htaken⟩ := List.forall_mem_append.mp hinjects
      rw [after_concat]
      exact (step_advances (ih hbefore) (htaken taken List.mem_cons_self)).faults

/-- What was found and what is to come is what was pushed, in its order. -/
theorem outcomes_conserved (hinjects : ∀ taken ∈ steps, taken.injects = false)
    (index : UInt32) :
    steps.flatMap (DuplicatorStep.pushed index) =
      (polls outputs config index steps).filterMap Poll.found ++
        (after outputs config steps).device.frames index := by
  -- A step moves what its poll finds from the front of what is to come to the end of what
  -- was found, whichever session is polled.
  induction steps using List.reverseRecOn with
  | nil => rfl
  | append_singleton before taken ih =>
      obtain ⟨hbefore, htaken⟩ := List.forall_mem_append.mp hinjects
      have hstep := step_frames (untroubled_after outputs config hbefore)
        (htaken taken List.mem_cons_self) index
      rw [List.flatMap_append, ih hbefore, polls_concat, List.filterMap_append, after_concat,
        List.append_assoc, List.append_assoc, hstep, List.flatMap_singleton]

/-- A monitor is polled by its updates and by nothing else. -/
theorem polls_counted (hinjects : ∀ taken ∈ steps, taken.injects = false) (index : UInt32) :
    (history outputs config steps).countP (fun entry => entry.polled? = some index) =
      (polls outputs config index steps).length := by
  induction steps using List.reverseRecOn with
  | nil => rfl
  | append_singleton before taken ih =>
      have hbefore := (List.forall_mem_append.mp hinjects).1
      rw [history_concat, List.countP_append, ih hbefore, polls_concat, List.length_append,
        step_polls (untroubled_after outputs config hbefore)]

/-- Every poll serves its outcome to a session of its monitor. -/
theorem polls_served (hinjects : ∀ taken ∈ steps, taken.injects = false) (index : UInt32) :
    ∀ poll ∈ polls outputs config index steps, poll.session.duplication = some ⟨index⟩ ∧
      ∃ session', poll.session.Serves index poll.outcome poll.journal session' := by
  induction steps using List.reverseRecOn with
  | nil => exact List.forall_mem_nil _
  | append_singleton before taken ih =>
      have hbefore := (List.forall_mem_append.mp hinjects).1
      rw [polls_concat]
      refine List.forall_mem_append.mpr ⟨ih hbefore, fun poll hpoll => ?_⟩
      obtain ⟨hown, session', -, hserves⟩ :=
        step_serves (untroubled_after outputs config hbefore) (Option.mem_toList.mp hpoll)
      exact ⟨hown, session', hserves⟩

end

end DuplicatorState
end Scenario
end DesktopCapture
