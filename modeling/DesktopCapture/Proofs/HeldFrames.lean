import DesktopCapture.Proofs.BoundTarget
import DesktopCapture.Proofs.Loss
import DesktopCapture.Proofs.Polls
import DesktopCapture.Proofs.Replay

/-!
# Held frames

The device counts the frames that were acquired and not handed back.  Only updates
acquire frames, and an update that is given one hands it back before it shows anything.
What keeps a frame held is that handing it back fails, which takes a queued fault: the
held frames and the faults that are still to be met are as many as were queued.
-/

namespace DesktopCapture

open Capture Scenario

namespace Entry

/-- A frame that could not be handed back. -/
def isUnreturned : Entry → Bool
  | .call (.releaseFrame _) (.failed _) => true
  | _ => false

theorem isUnreturned_of_isPlain {entry : Entry} (hplain : entry.isPlain = true) :
    entry.isUnreturned = false := by
  unfold isUnreturned
  split
  · cases hplain
  · rfl

theorem isUnreturned_of_isAside {entry : Entry} (haside : entry.isAside = true) :
    entry.isUnreturned = false := by
  unfold isUnreturned
  split
  · cases haside
  · rfl

end Entry

/-- So many frames are held besides those that could not be handed back, and so many
faults of handing frames back were met or are queued. -/
structure Held (frames queued : Nat) (past : List Entry) (device : Device) : Prop where
  frames : device.heldFrames = frames + past.countP Entry.isUnreturned
  faults : past.countP Entry.isUnreturned +
    (device.faults.platform .releaseFrame).length = queued

/-- Entries that are of no frame leave as many held, if the device does. -/
theorem Held.append {frames queued : Nat} {past journal : List Entry} {device device' : Device}
    (hheld : Held frames queued past device)
    (hjournal : ∀ entry ∈ journal, entry.isUnreturned = false)
    (hframes : device'.heldFrames = device.heldFrames)
    (hfaults : device'.faults.platform .releaseFrame =
      device.faults.platform .releaseFrame) :
    Held frames queued (past ++ journal) device' := by
  have hnone : journal.countP Entry.isUnreturned = 0 :=
    List.countP_eq_zero.mpr fun entry hentry => by simp [hjournal entry hentry]
  constructor
  · rw [List.countP_append, hnone, hframes]
    exact hheld.frames
  · rw [List.countP_append, hnone, hfaults]
    exact hheld.faults

/-- An action that holds no frame beyond its end: between its acquisition and its return
a frame counts as held, before and after as many are. -/
def Capture.HoldsNone {α : Type} (action : Capture α) : Prop :=
  ∀ frames queued, Triple (Held frames queued) action (fun _ => Held frames queued)

/-- All but the acquisition and the return of frames holds none. -/
theorem holdsNone : Composed HoldsNone := by
  refine .of_plain ?_ ?_ ?_ ?_
  · intro α value frames queued
    exact Triple.pure fun _ _ h => h
  · intro α β first next hfirst hnext frames queued
    exact Triple.bind (hfirst frames queued) fun value => hnext value frames queued
  · intro α action hplain frames queued past device hheld
    obtain ⟨⟨entry, hjournal, hentry⟩, hspares⟩ := hplain device
    refine hheld.append ?_ hspares.heldFrames hspares.releaseFaults
    rw [hjournal]
    exact List.forall_mem_singleton.mpr (Entry.isUnreturned_of_isPlain hentry)
  · intro preview texture frames queued past device hheld
    have haside := preview.aside_draw texture
    refine hheld.append ?_ ?_ ((haside.beside device).script.platformFaults _ rfl)
    · intro entry hentry
      exact Entry.isUnreturned_of_isAside (haside.entries device entry hentry)
    · rcases preview.draw_cases texture device with
        ⟨error, faults, hdraw⟩ | ⟨shown, faults, presents, answer, -, hdraw⟩
      · rw [hdraw]
      · rw [hdraw]

/-! ## The frame of an update -/

/-- A frame that is acquired is held. -/
theorem Capture.held_acquire (duplication : Duplication) (timeoutMs : UInt32)
    (frames queued : Nat) :
    Triple (Held frames queued) (acquire duplication timeoutMs)
      (fun acquired => Held (frames + acquired.isOk.toNat) queued) := by
  intro past device hheld
  unfold acquire
  cases htake : device.faults.takeAcquire? with
  | some taken =>
      obtain ⟨error, faults⟩ := taken
      refine hheld.append (List.forall_mem_singleton.mpr rfl) rfl ?_
      rw [Faults.takeAcquire?_platform htake]
  | none =>
      dsimp only
      rcases device.acquire_replay duplication timeoutMs with
        ⟨resource, hacquired⟩ | ⟨error, hacquired⟩
      · rw [hacquired]
        have hheld' : Held (frames + 1) queued past
            { device with heldFrames := device.heldFrames + 1 } := by
          refine ⟨?_, hheld.faults⟩
          rw [hheld.frames, Nat.add_right_comm]
        exact hheld'.append (List.forall_mem_singleton.mpr rfl) rfl rfl
      · rw [hacquired]
        exact hheld.append (List.forall_mem_singleton.mpr rfl) rfl rfl

/-- A frame is handed back, or a fault is met and it stays held. -/
theorem Capture.held_releaseFrame (duplication : Duplication) (frames queued : Nat) :
    Triple (Held (frames + 1) queued) (releaseFrame duplication)
      (fun _ => Held frames queued) := by
  intro past device hheld
  unfold releaseFrame fallible
  have hframes := hheld.frames
  have hfaults := hheld.faults
  cases htake : device.faults.take? .releaseFrame with
  | some taken =>
      obtain ⟨error, faults⟩ := taken
      rw [Faults.take?_length htake] at hfaults
      have hmet : (past ++ [Entry.call (.releaseFrame duplication.output)
          (.failed (.platform error))]).countP Entry.isUnreturned =
          past.countP Entry.isUnreturned + 1 := by
        simp [Entry.isUnreturned]
      constructor
      · rw [hmet]
        dsimp only
        omega
      · rw [hmet]
        dsimp only
        omega
  | none =>
      have hreturned : Held frames queued past
          { device with heldFrames := device.heldFrames - 1 } := by
        refine ⟨?_, hfaults⟩
        dsimp only
        omega
      exact hreturned.append (List.forall_mem_singleton.mpr rfl) rfl rfl

namespace Session

theorem held_handBack (duplication : Duplication) (frames queued : Nat) :
    Triple (Held (frames + 1) queued) (handBack duplication) (fun _ => Held frames queued) := by
  refine Triple.bind (held_releaseFrame duplication frames queued) ?_
  rintro (error | _)
  · exact holdsNone.notify _ _ frames queued
  · exact holdsNone.pure _ frames queued

theorem held_takeFrame (session : Session) (duplication : Duplication)
    (resource : FrameResource) (frames queued : Nat) :
    Triple (Held (frames + 1) queued) (session.takeFrame duplication resource)
      (fun _ => Held frames queued) := by
  refine Triple.bind (holdsNone.frameTexture resource (frames + 1) queued) ?_
  rintro (error | texture)
  · refine Triple.bind (holdsNone.notify _ _ (frames + 1) queued) fun _ => ?_
    exact Triple.bind (held_handBack duplication frames queued) fun _ =>
      holdsNone.pure _ frames queued
  · refine Triple.bind (holdsNone.ingest session.cache texture session.color.hdr
      (frames + 1) queued) fun cache => ?_
    exact Triple.bind (held_handBack duplication frames queued) fun _ =>
      holdsNone.present { session with cache, frameAvailable := true } frames queued

/-- An update holds no frame, whether it is given one or not. -/
theorem holdsNone_update (session : Session) : session.update.HoldsNone := by
  intro frames queued
  have hshown : HoldsNone (do let shown ← session.present; Pure.pure (true, shown)) :=
    holdsNone.bind (holdsNone.present session) fun _ => holdsNone.pure _
  unfold update
  cases session.duplication with
  | none => exact holdsNone.pure _ frames queued
  | some duplication =>
      refine Triple.bind (held_acquire duplication 0 frames queued) ?_
      rintro ((index | error | _ | _) | resource)
      · exact Triple.bind (holdsNone.notify _ _ frames queued) fun _ => hshown frames queued
      · exact Triple.bind (holdsNone.notify _ _ frames queued) fun _ => hshown frames queued
      · exact Triple.bind (holdsNone.notify _ _ frames queued) fun _ =>
          Triple.bind (holdsNone.release _ frames queued) fun _ => holdsNone.pure _ frames queued
      · exact hshown frames queued
      · exact Triple.bind (session.held_takeFrame duplication resource frames queued) fun _ =>
          holdsNone.pure _ frames queued

/-- The journal of a poll.  A frame that is acquired is handed back once, to the
duplication it came from: its texture is queried and cached before that, and what is
shown is shown after it.  Without a frame nothing is handed back. -/
inductive Bracketed (output : UInt32) : List Entry → Prop
  | lost (monitor : UInt32) :
      Bracketed output [.call (.acquire output 0) (.failed .accessLost),
        .notice [] (.accessLost monitor), .release (.duplication output)]
  | missed {error : CaptureError} {shown : List Entry}
      (hshown : ∀ entry ∈ shown, entry.isShowing = true) :
      Bracketed output (.call (.acquire output 0) (.failed error) :: shown)
  | took {queried answer : Answer} {cached shown : List Entry}
      (hcached : ∀ entry ∈ cached, entry.isCaching = true)
      (hshown : ∀ entry ∈ shown, entry.isShowing = true) :
      Bracketed output (.call (.acquire output 0) .done :: .call .frameTexture queried ::
        (cached ++ .call (.releaseFrame output) answer :: shown))

/-- A session with a duplication polls it once. -/
theorem bracketed_update {session : Session} {duplication : Duplication}
    (hown : session.duplication = some duplication) (device : Device) :
    Bracketed duplication.output (session.update device).journal := by
  have hpolled := session.update_polled device
  generalize (session.update device).journal = journal,
    (session.update device).value = done at hpolled ⊢
  cases hpolled with
  | rested hlost =>
      rw [hown] at hlost
      cases hlost
  | lost hown' =>
      cases hown.symm.trans hown'
      exact .lost _
  | missed hown' herror hshown =>
      cases hown.symm.trans hown'
      exact .missed hshown
  | took hown' htakes =>
      cases hown.symm.trans hown'
      cases htakes with
      | unreadable hcached hshown => exact .took hcached hshown
      | obtained hcached hshown => exact .took hcached hshown

end Session

/-! ## Steps and runs -/

namespace Scenario

/-- Whatever is done about a monitor leaves the count of held frames. -/
theorem Cell.perform_heldFrames (config : SessionConfig) (index : UInt32)
    (cell : Cell) (operation : Operation) {device : Device} (hfaults : device.faults = .none) :
    (cell.perform config index operation device).device.heldFrames = device.heldFrames := by
  have hperformed : (cell.perform config index operation).HoldsNone :=
    holdsNone.perform config index cell operation fun _ session _ => session.holdsNone_update
  have hheld : Held device.heldFrames 0 [] device := by
    refine ⟨rfl, ?_⟩
    rw [hfaults]
    rfl
  have hframes := (hperformed device.heldFrames 0 [] device hheld).frames
  have hnone := (hperformed device.heldFrames 0 [] device hheld).faults
  omega

/-- The steps that queue a fault of handing a frame back. -/
def DuplicatorStep.isReturnFault : DuplicatorStep → Bool
  | .world (.queueFault .releaseFrame _) => true
  | _ => false

namespace DuplicatorState

theorem held_world {frames queued : Nat} {past : List Entry} {device : Device}
    (hheld : Held frames queued past device) (change : DeviceStep) :
    Held frames (queued + (DuplicatorStep.world change).isReturnFault.toNat) past
      (DeviceStep.apply device change) := by
  cases change with
  | queueFault point code =>
      cases point with
      | releaseFrame =>
          have hfaults := congrArg (· + 1) hheld.faults
          refine ⟨hheld.frames, ?_⟩
          simpa [DeviceStep.apply, Faults.push, Nat.add_assoc, DuplicatorStep.isReturnFault]
            using hfaults
      | _ => exact ⟨hheld.frames, hheld.faults⟩
  | _ => exact ⟨hheld.frames, hheld.faults⟩

theorem held_step {frames queued : Nat} {past : List Entry} {state : DuplicatorState}
    (hheld : Held frames queued past state.device) (taken : DuplicatorStep) :
    Held frames (queued + taken.isReturnFault.toNat) (past ++ (state.step taken).1.journal)
      (state.step taken).2.device := by
  by_cases hworld : ∃ change, taken = .world change
  · obtain ⟨change, rfl⟩ := hworld
    rw [(state.step_world change).1, List.append_nil]
    exact held_world hheld change
  · obtain ⟨α, action, haction, hjournal, hdevice⟩ :=
      holdsNone.step state (fun change htaken => hworld ⟨change, htaken⟩)
        fun _ _ => Session.holdsNone_update
    have hcount : taken.isReturnFault = false := by
      unfold DuplicatorStep.isReturnFault
      split
      · exact absurd ⟨_, rfl⟩ hworld
      · rfl
    rw [hjournal, hdevice, hcount]
    exact haction frames queued past state.device hheld

variable {outputs : List OutputConfig} {config : SessionConfig}

/-- Between steps the frames that are held are those that could not be handed back, and
each of these met a fault that was queued. -/
theorem held_after (before : List DuplicatorStep) :
    Held 0 (before.countP DuplicatorStep.isReturnFault) (history outputs config before)
      (after outputs config before).device := by
  induction before using List.reverseRecOn with
  | nil => exact ⟨rfl, rfl⟩
  | append_singleton before taken ih =>
      have hcount : (before ++ [taken]).countP DuplicatorStep.isReturnFault =
          before.countP DuplicatorStep.isReturnFault + taken.isReturnFault.toNat := by
        cases hfault : taken.isReturnFault <;> simp [hfault]
      rw [history_concat, after_concat, hcount]
      exact held_step ih taken

/-- An update of an active session polls its duplication once, and hands back the frame
it is given before it shows anything; other updates leave the device alone.  So between
steps as many frames are held as could not be handed back, and none while no fault of
that kind is queued. -/
theorem frames_are_handed_back (outputs : List OutputConfig) (config : SessionConfig)
    (before : List DuplicatorStep) (index : UInt32) :
    let state := after outputs config before
    let polled := (state.step (.use index .update)).1.journal
    (∀ session, state.sessions.get? index = some session → session.state = .active →
      Session.Bracketed index polled) ∧
    ((∀ session, state.sessions.get? index = some session → session.state = .lost) →
      polled = []) ∧
    state.device.heldFrames = (history outputs config before).countP Entry.isUnreturned ∧
    ((∀ code, .world (.queueFault .releaseFrame code) ∉ before) →
      state.device.heldFrames = 0) := by
  intro state polled
  have hsound : state.Sound := sound_after outputs config before
  have hplaced : state.sessions.All Session.IsAt :=
    placed.after_steps outputs config .empty before
  have hpolled : polled = (state.sessions.get? index).elim [] fun session =>
      (session.update state.device).journal := (update_effect hsound index).1
  have hheld : Held 0 _ (history outputs config before) state.device := held_after before
  refine ⟨?_, ?_, ?_, ?_⟩
  · intro session hlive hactive
    obtain ⟨duplication, hown⟩ :=
      Option.ne_none_iff_exists'.mp (Session.state_eq_active.mp hactive)
    have hbracketed := Session.bracketed_update hown state.device
    rw [(hplaced index session hlive).duplication duplication hown] at hbracketed
    rw [hpolled, hlive]
    exact hbracketed
  · intro hlost
    rw [hpolled]
    cases hlive : state.sessions.get? index with
    | none => rfl
    | some session =>
        have hnone := Session.state_eq_lost.mp (hlost session hlive)
        simp [Session.update, hnone]
  · rw [hheld.frames, Nat.zero_add]
  · intro hunqueued
    have hnone : before.countP DuplicatorStep.isReturnFault = 0 := by
      refine List.countP_eq_zero.mpr fun taken htaken => ?_
      unfold DuplicatorStep.isReturnFault
      split
      · exact absurd htaken (hunqueued _)
      · exact Bool.false_ne_true
    have hframes := hheld.frames
    have hfaults := hheld.faults
    omega

/-- Of two frames the first cannot be handed back. -/
example :
    let steps : List DuplicatorStep := [.create 0, .world (.queueFault .releaseFrame 5),
      .world (.pushFrames 0 [.frame ⟨640, 480⟩ .bgra8, .notTexture]), .use 0 .update,
      .use 0 .update]
    (after singleOutputDevice.outputs .standard steps).device.heldFrames = 1 := by
  decide +kernel

end DuplicatorState
end Scenario
end DesktopCapture
