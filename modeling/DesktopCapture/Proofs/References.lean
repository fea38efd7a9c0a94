import DesktopCapture.Proofs.Turn
import DesktopCapture.Scenario.Registry
import Mathlib.Algebra.GroupWithZero.Nat

/-!
# References

A registry files every session under its own monitor and counts at least one handle for it, so
that counting one handle less never goes below zero.  All sessions together count the handles
that were got, less those that were given back while they had a session.  None of this asks
anything of the consumers: a handle may be given back as often as one likes, or be used when
its session is gone or another one has taken its place.  A handle without a session has no
effect at all.

A count that leaves its word stops the program, so everything here is about runs with checks.
One that goes through has counted in words all along; one that is stopped was about to count
more handles than a word can, and before it got there all of this held.

Registries are driven directly or through a duplicator.  What the two have in common is that
each step is a turn, and that the checks are checks of the turn's transfer (`Sharing.Checks`).
Everything here is derived from that.
-/

namespace DesktopCapture

open Capture Scenario

/-- A session belongs where it is filed, and somebody refers to it, by a count that fits its
word. -/
structure Session.IsFiled (index : UInt32) (session : Session) : Prop where
  monitor : session.monitor = index
  refs : 1 ≤ session.refs
  word : session.refs ≤ Session.mostRefs

/-- The handles that all sessions count together. -/
def totalRefs (sessions : MonitorTable Session) : Nat :=
  (sessions.values.map Session.refs).sum

namespace Transfer

/-- How many handles are got. -/
def acquisitions : Transfer → Nat
  | .got _ => 1
  | _ => 0

/-- How many handles are given back that have a session. -/
def releases (sessions : MonitorTable Session) : Transfer → Nat
  | .returned handle => if (sessions.get? handle.monitor).isSome then 1 else 0
  | _ => 0

/-- What goes wrong with counting the handle that is got or given back. -/
def overflow? (sessions : MonitorTable Session) : Transfer → Option Overflow
  | .none => Option.none
  | .got handle => (sessions.get? handle.monitor).bind fun session =>
      if session.refs = Session.mostRefs then some .addition else Option.none
  | .returned handle => (sessions.get? handle.monitor).bind fun session =>
      if session.refs = 0 then some .subtraction else Option.none

end Transfer

/-! ## Counts of all sessions -/

theorem totalRefs_vacant {sessions : MonitorTable Session} {index : UInt32}
    (hvacant : sessions.get? index = none) (session : Session) :
    totalRefs (sessions.insert index session) = totalRefs sessions + session.refs := by
  have hvalues := (sessions.values_insert_perm index session).map Session.refs
  rw [MonitorTable.erase_eq_self hvacant] at hvalues
  rw [totalRefs, hvalues.sum_nat, List.map_cons, List.sum_cons, Nat.add_comm]
  rfl

theorem totalRefs_live {sessions : MonitorTable Session} {index : UInt32} {session : Session}
    (hlive : sessions.get? index = some session) :
    totalRefs sessions = totalRefs (sessions.erase index) + session.refs := by
  have hvalues := (MonitorTable.values_perm hlive).map Session.refs
  rw [totalRefs, hvalues.sum_nat, List.map_cons, List.sum_cons, Nat.add_comm]
  rfl

theorem totalRefs_recount {sessions : MonitorTable Session} {index : UInt32}
    (session : Session) :
    totalRefs (sessions.insert index session) =
      totalRefs (sessions.erase index) + session.refs := by
  have hvalues := (sessions.values_insert_perm index session).map Session.refs
  rw [totalRefs, hvalues.sum_nat, List.map_cons, List.sum_cons, Nat.add_comm]
  rfl

/-- Sessions that go on count the handles they counted before. -/
theorem Steady.totalRefs_eq {sessions sessions' : MonitorTable Session}
    (hsteady : Steady sessions sessions') : totalRefs sessions' = totalRefs sessions := by
  have hcounts : sessions'.map Session.refs = sessions.map Session.refs := by
    apply MonitorTable.ext_get?
    intro index
    rw [MonitorTable.get?_map, MonitorTable.get?_map]
    have hrel := hsteady index
    generalize sessions.get? index = before at hrel ⊢
    generalize sessions'.get? index = after at hrel ⊢
    cases hrel with
    | none => rfl
    | some hcontinues => exact congrArg some hcontinues.refs
  rw [totalRefs, totalRefs, ← MonitorTable.values_map, ← MonitorTable.values_map, hcounts]

/-! ## One turn -/

section

variable {sessions sessions' : MonitorTable Session} {transfer : Transfer}
  {journal : List Entry}

/-- A turn that passes its check leaves every session where it belongs, none without a reference
and none with more than can be counted. -/
theorem Turn.filed (hturn : Turn sessions transfer journal sessions')
    (hpasses : transfer.overflow? sessions = none) (hfiled : sessions.All Session.IsFiled) :
    sessions'.All Session.IsFiled := by
  cases hturn with
  | steady hwithin hsteady =>
      intro index session' hlive'
      have hrel := hsteady index
      rw [hlive'] at hrel
      generalize hlive : sessions.get? index = before at hrel
      cases hrel with
      | some hcontinues =>
          have hbefore := hfiled index _ hlive
          constructor
          · exact hcontinues.monitor.trans hbefore.monitor
          · rw [hcontinues.refs]
            exact hbefore.refs
          · rw [hcontinues.refs]
            exact hbefore.word
  | refused hvacant hstarting => exact hfiled
  | started hvacant hstarting hnew =>
      obtain ⟨preview, color, rfl⟩ := hnew
      exact hfiled.insert ⟨rfl, Nat.le_refl 1, Nat.succ_le_of_lt (by decide : 0 < Session.mostRefs)⟩
  | @joined index session hlive =>
      have hbefore := hfiled _ _ hlive
      have hroom : session.refs ≠ Session.mostRefs := by
        simpa [Transfer.overflow?, hlive] using hpasses
      have hcounted : session.refs + 1 ≤ Session.mostRefs :=
        Nat.lt_of_le_of_ne hbefore.word hroom
      exact hfiled.insert ⟨hbefore.monitor, Nat.le_add_left 1 _, hcounted⟩
  | left hlive hrefs =>
      have hbefore := hfiled _ _ hlive
      have hcounted := Nat.le_trans (Nat.sub_le _ 1) hbefore.word
      exact hfiled.insert ⟨hbefore.monitor, Nat.one_le_iff_ne_zero.mpr hrefs, hcounted⟩
  | ended hlive hrefs hwithin => exact hfiled.erase _
  | missed hvacant => exact hfiled

/-- Where sessions are filed, the only count that leaves its word is that of one handle more,
of a session that has as many as can be counted. -/
theorem Transfer.overflows (hfiled : sessions.All Session.IsFiled) {overflow : Overflow}
    (hstops : transfer.overflow? sessions = some overflow) :
    overflow = .addition ∧ transfer.acquisitions = 1 ∧ Session.mostRefs ≤ totalRefs sessions := by
  cases transfer with
  | none => cases hstops
  | got handle =>
      obtain ⟨session, hlive, hchecked⟩ := Option.bind_eq_some_iff.mp hstops
      obtain ⟨hmost, rfl⟩ : session.refs = Session.mostRefs ∧ overflow = .addition := by
        simpa [eq_comm] using hchecked
      rw [totalRefs_live hlive, hmost]
      exact ⟨rfl, rfl, Nat.le_add_left _ _⟩
  | returned handle =>
      obtain ⟨session, hlive, hchecked⟩ := Option.bind_eq_some_iff.mp hstops
      have hnone : session.refs = 0 := by
        by_contra hsome
        simp [hsome] at hchecked
      have hcounted := (hfiled _ _ hlive).refs
      omega

/-- A turn counts what is got and what is given back with a session. -/
theorem Turn.balance (hturn : Turn sessions transfer journal sessions')
    (hfiled : sessions.All Session.IsFiled) :
    totalRefs sessions' + transfer.releases sessions =
      totalRefs sessions + transfer.acquisitions := by
  cases hturn with
  | steady hwithin hsteady =>
      rw [hsteady.totalRefs_eq]
      rfl
  | refused hvacant hstarting => rfl
  | started hvacant hstarting hnew =>
      obtain ⟨preview, color, rfl⟩ := hnew
      rw [totalRefs_vacant hvacant]
      rfl
  | joined hlive =>
      rw [totalRefs_recount, totalRefs_live hlive]
      rfl
  | left hlive hrefs =>
      simp only [totalRefs_recount, totalRefs_live hlive, Transfer.releases, hlive,
        Option.isSome_some, if_true, Transfer.acquisitions]
      omega
  | ended hlive hrefs hwithin =>
      have hbefore := (hfiled _ _ hlive).refs
      simp only [totalRefs_live hlive, Transfer.releases, hlive, Option.isSome_some, if_true,
        Transfer.acquisitions]
      omega
  | missed hvacant =>
      rw [Transfer.releases, hvacant]
      rfl

end

/-! ## Whole runs -/

/-- A way to take steps that get handles and give them back, with the sessions that there are
until everything is dropped. -/
structure Sharing (σ ι : Type) where
  step : σ → ι → Record × σ
  overflow? : σ → ι → Option Overflow
  sessions? : σ → Option (MonitorTable Session)
  transfer : σ → ι → Transfer

namespace Sharing

variable {σ ι : Type} (sharing : Sharing σ ι)

/-- How many handles are got in steps. -/
def acquired (state : σ) : List ι → Nat
  | [] => 0
  | taken :: rest =>
    (sharing.transfer state taken).acquisitions + acquired (sharing.step state taken).2 rest

/-- How many handles are given back in steps while they have a session. -/
def released (state : σ) : List ι → Nat
  | [] => 0
  | taken :: rest =>
    (sharing.sessions? state).elim 0 (sharing.transfer state taken).releases +
      released (sharing.step state taken).2 rest

/-- Every step is a turn, unless everything was dropped before it or in it. -/
def TakesTurns : Prop :=
  ∀ state taken sessions', sharing.sessions? (sharing.step state taken).2 = some sessions' →
    ∃ sessions journal, sharing.sessions? state = some sessions ∧
      Turn sessions (sharing.transfer state taken) journal sessions'

/-- What a step is checked for is the handle that is got or given back in it. -/
def Checks : Prop :=
  ∀ state taken, sharing.overflow? state taken =
    (sharing.sessions? state).bind (sharing.transfer state taken).overflow?

/-- Take steps with checks. -/
def run (state : σ) (steps : List ι) : Except Overflow (List Record × σ) :=
  runChecked sharing.overflow? sharing.step state steps

variable {sharing} {state : σ} {sessions : MonitorTable Session}

/-- The check of a step, where there are sessions. -/
theorem Checks.of_sessions (hchecks : sharing.Checks)
    (hsessions : sharing.sessions? state = some sessions) (taken : ι) :
    sharing.overflow? state taken = (sharing.transfer state taken).overflow? sessions := by
  rw [hchecks, hsessions, Option.bind_some]

/-- By turns, sessions stay where they belong and count the handles. -/
theorem TakesTurns.balance (hturns : sharing.TakesTurns) (hchecks : sharing.Checks)
    {steps : List ι} {after : List Record × σ} (hrun : sharing.run state steps = .ok after)
    {sessions' : MonitorTable Session} (hlast : sharing.sessions? after.2 = some sessions') :
    ∃ sessions, sharing.sessions? state = some sessions ∧
      (sessions.All Session.IsFiled → sessions'.All Session.IsFiled ∧
        totalRefs sessions' + sharing.released state steps =
          totalRefs sessions + sharing.acquired state steps) := by
  induction steps generalizing state after with
  | nil =>
      cases hrun
      exact ⟨sessions', hlast, fun hfiled => ⟨hfiled, rfl⟩⟩
  | cons taken rest ih =>
      obtain ⟨hpasses, later, hrest, rfl⟩ := runChecked_cons_eq_ok hrun
      obtain ⟨between, hbetween, hcounts⟩ := ih hrest hlast
      obtain ⟨sessions, journal, hsessions, hturn⟩ := hturns state taken between hbetween
      rw [hchecks.of_sessions hsessions] at hpasses
      refine ⟨sessions, hsessions, ?_⟩
      intro hfiled
      obtain ⟨hfiled', hcounted⟩ := hcounts (hturn.filed hpasses hfiled)
      have hturned := hturn.balance hfiled
      constructor
      · exact hfiled'
      · rw [acquired, released, hsessions, Option.elim_some]
        omega

/-- Nothing stops a program that has dropped everything. -/
theorem TakesTurns.not_stopped (hturns : sharing.TakesTurns) (hchecks : sharing.Checks)
    (hdropped : sharing.sessions? state = none) (steps : List ι) (overflow : Overflow) :
    sharing.run state steps ≠ .error overflow := by
  induction steps generalizing state with
  | nil => nofun
  | cons taken rest ih =>
      intro hrun
      rcases runChecked_cons_eq_error hrun with hstops | ⟨-, hrest⟩
      · rw [hchecks, hdropped] at hstops
        cases hstops
      · refine ih ?_ hrest
        rw [Option.eq_none_iff_forall_ne_some]
        intro sessions' hleft
        obtain ⟨sessions, -, hsessions, -⟩ := hturns state taken sessions' hleft
        rw [hdropped] at hsessions
        cases hsessions

/-- What stops a program is the attempt to count more handles than a word can. -/
theorem TakesTurns.stopped (hturns : sharing.TakesTurns) (hchecks : sharing.Checks)
    (hsessions : sharing.sessions? state = some sessions) (hfiled : sessions.All Session.IsFiled)
    {steps : List ι} {overflow : Overflow} (hrun : sharing.run state steps = .error overflow) :
    overflow = .addition ∧
      Session.mostRefs < totalRefs sessions + sharing.acquired state steps := by
  induction steps generalizing state sessions with
  | nil => cases hrun
  | cons taken rest ih =>
      rw [acquired]
      rcases runChecked_cons_eq_error hrun with hstops | ⟨hpasses, hrest⟩
      · rw [hchecks.of_sessions hsessions] at hstops
        obtain ⟨hoverflow, hacquired, hmost⟩ := Transfer.overflows hfiled hstops
        exact ⟨hoverflow, by omega⟩
      · rw [hchecks.of_sessions hsessions] at hpasses
        cases hnext : sharing.sessions? (sharing.step state taken).2 with
        | none => exact absurd hrest (hturns.not_stopped hchecks hnext rest overflow)
        | some sessions' =>
            obtain ⟨before, journal, hbefore, hturn⟩ := hturns state taken sessions' hnext
            obtain rfl : before = sessions := Option.some.inj (hbefore.symm.trans hsessions)
            obtain ⟨hoverflow, hmore⟩ := ih hnext (hturn.filed hpasses hfiled) hrest
            have hturned := hturn.balance hfiled
            exact ⟨hoverflow, by omega⟩

/-- What comes of steps that begin without a session. -/
theorem TakesTurns.account (hturns : sharing.TakesTurns) (hchecks : sharing.Checks)
    (hstart : sharing.sessions? state = some .empty) (steps : List ι) :
    (∀ after sessions, sharing.run state steps = .ok after →
      sharing.sessions? after.2 = some sessions →
        sessions.All Session.IsFiled ∧
        totalRefs sessions + sharing.released state steps = sharing.acquired state steps) ∧
    ∀ overflow, sharing.run state steps = .error overflow →
      overflow = .addition ∧ Session.mostRefs < sharing.acquired state steps := by
  have hnone : totalRefs .empty = 0 := rfl
  constructor
  · intro after sessions hrun hlast
    obtain ⟨before, hbefore, hbalance⟩ := hturns.balance hchecks hrun hlast
    obtain rfl : before = .empty := Option.some.inj (hbefore.symm.trans hstart)
    obtain ⟨hfiled, hcounted⟩ := hbalance .empty
    exact ⟨hfiled, by omega⟩
  · intro overflow hrun
    obtain ⟨hoverflow, hmore⟩ := hturns.stopped hchecks hstart .empty hrun
    exact ⟨hoverflow, by omega⟩

end Sharing

/-! ## Getting a handle -/

/-- The transfer of an attempt to get a handle. -/
def Transfer.ofAcquired : Except CaptureError (Handle × Registry) → Transfer
  | .ok (handle, _) => .got handle
  | .error _ => .none

/-- Before a handle is got, the check is made that its count calls for. -/
theorem Registry.acquireOverflow?_eq (registry : Registry) (index : UInt32) (device : Device) :
    registry.acquireOverflow? index =
      (Transfer.ofAcquired (registry.acquire index device).value).overflow? registry.sessions := by
  cases hseat : registry.get? ⟨index⟩ with
  | some session =>
      have hgot : Transfer.ofAcquired (registry.acquire index device).value = .got ⟨index⟩ := by
        simp [acquire, hseat, Transfer.ofAcquired]
      rw [hgot]
      rfl
  | none =>
      have hvacant : registry.sessions.get? index = none := hseat
      have hpasses : registry.acquireOverflow? index = none := by simp [acquireOverflow?, hseat]
      rw [hpasses]
      cases hstarted : (Session.start index registry.config device).value with
      | error error => simp [acquire, hseat, hstarted, Transfer.ofAcquired, Transfer.overflow?]
      | ok session =>
          simp [acquire, hseat, hstarted, Transfer.ofAcquired, Transfer.overflow?, hvacant]

/-! ## Duplicators -/

namespace Scenario

/-- How the steps of a duplicator share its sessions. -/
def duplicators : Sharing DuplicatorState DuplicatorStep where
  step := DuplicatorState.step
  overflow? := DuplicatorState.overflow?
  sessions? := fun state => state.duplicator.map (·.registry.sessions)
  transfer := fun state taken =>
    .of state.handles taken (state.step taken).1.reply

theorem duplicators_takesTurns : duplicators.TakesTurns := by
  intro state taken sessions' hleft
  obtain ⟨device, duplicator?, handles⟩ := state
  obtain ⟨duplicator', hduplicator', rfl⟩ := Option.map_eq_some_iff.mp hleft
  have hnext : (DuplicatorState.step ⟨device, duplicator?, handles⟩ taken).2.duplicator =
    some duplicator' := hduplicator'
  cases duplicator? with
  | none => cases taken <;> cases hnext
  | some duplicator =>
      have htaken : taken ≠ .drop := by
        rintro rfl
        cases hnext
      have hheld : (DuplicatorState.mk device (some duplicator) handles).duplicator =
        some duplicator := rfl
      obtain ⟨-, hturn⟩ := step_turn hheld htaken
      rw [DuplicatorState.sessions, DuplicatorState.sessions, hnext] at hturn
      exact ⟨duplicator.registry.sessions, _, rfl, hturn⟩

theorem duplicators_checks : duplicators.Checks := by
  rintro ⟨device, _ | duplicator, handles⟩ taken
  · cases taken with
    | use index use => cases use <;> rfl
    | _ => rfl
  · cases taken with
    | create index =>
        refine (duplicator.registry.acquireOverflow?_eq index device).trans
          (congrArg (Transfer.overflow? duplicator.registry.sessions) ?_)
        simp only [duplicators, DuplicatorState.step, DuplicatorState.create,
          Duplicator.createSession, bind_apply]
        cases (duplicator.registry.acquire index device).value with
        | ok got => rfl
        | error error => cases error <;> rfl
    | use index use =>
        cases use with
        | destroy =>
            simp only [duplicators, DuplicatorState.overflow?, Transfer.of]
            cases handles.get? index <;> rfl
        | _ => rfl
    | _ => rfl

end Scenario

/-! ## Registries -/

/-- The transfer of a step of a registry, by its reply and by the handles remembered before
it. -/
def Transfer.ofRegistry (handles : MonitorTable Handle) : RegistryStep → Reply → Transfer
  | .acquire _, .acquired handle _ => .got handle
  | .use index .release, _ => (handles.get? index).elim .none .returned
  | _, _ => .none

namespace Scenario

/-- How the steps of a registry share its sessions. -/
def registries : Sharing RegistryState RegistryStep where
  step := RegistryState.step
  overflow? := RegistryState.overflow?
  sessions? := fun state => state.registry.map (·.sessions)
  transfer := fun state taken =>
    .ofRegistry state.handles taken (state.step taken).1.reply

end Scenario

theorem Registry.acquire_turn {registry registry' : Registry} {index : UInt32}
    {device : Device} {handle : Handle}
    (hacquired : (registry.acquire index device).value = .ok (handle, registry')) :
    ∃ journal, Turn registry.sessions (.got handle) journal registry'.sessions := by
  have hcreated := createSession_turn ⟨registry⟩ index device
  simp only [Duplicator.createSession, bind_apply, hacquired] at hcreated
  exact ⟨_, hcreated⟩

/-- All that is done with a handle of a registry, short of releasing it, is steady. -/
theorem does_useRegistry (registry : Registry) (handle : Handle) {use : RegistryUse}
    (huse : use ≠ .release) :
    Does (RegistryState.useHandle registry handle use) Entry.IsWithin
      (fun result => Steady registry.sessions result.2.sessions) := by
  cases use with
  | release => exact absurd rfl huse
  | get => exact Does.pure (.refl _)
  | update =>
      exact Does.bind (does_updateSession Session.does_update) fun result hsteady =>
        Does.pure hsteady
  | reset =>
      have hreset : ∀ session : Session, Does (pure ((), session.reset)) Entry.IsWithin
          (fun result => session.Continues result.2) :=
        fun session => Does.pure ⟨rfl, rfl, rfl, .inl rfl⟩
      exact Does.bind (does_updateSession hreset) fun result hsteady => Does.pure hsteady
  | setVisible visible =>
      exact Does.bind (does_updateSession (does_setVisible visible)) fun result hsteady =>
        Does.pure hsteady
  | window step =>
      unfold RegistryState.useHandle Registry.get?
      rcases hlive : registry.sessions.get? handle.monitor with _ | session
      · exact Does.pure (.refl _)
      · dsimp only [Option.bind_some]
        rcases hstep : WindowStep.onSession? session step with _ | session'
        · exact Does.pure (.refl _)
        · obtain ⟨preview, -, rfl⟩ := Option.map_eq_some_iff.mp hstep
          exact Does.pure (.insert hlive ⟨rfl, rfl, rfl, .inl rfl⟩)

namespace Scenario

theorem registries_checks : registries.Checks := by
  rintro ⟨device, _ | registry, handles⟩ taken
  · cases taken with
    | use index use => cases use <;> rfl
    | _ => rfl
  · cases taken with
    | acquire index =>
        refine (registry.acquireOverflow?_eq index device).trans
          (congrArg (Transfer.overflow? registry.sessions) ?_)
        simp only [registries, RegistryState.step, RegistryState.acquire]
        cases (registry.acquire index device).value <;> rfl
    | use index use =>
        cases use with
        | release =>
            simp only [registries, RegistryState.overflow?, Transfer.ofRegistry]
            cases handles.get? index <;> rfl
        | _ => rfl
    | _ => rfl

theorem registries_takesTurns : registries.TakesTurns := by
  intro state taken sessions' hleft
  obtain ⟨device, registry?, handles⟩ := state
  obtain ⟨registry', hregistry', rfl⟩ := Option.map_eq_some_iff.mp hleft
  have hnext : (RegistryState.step ⟨device, registry?, handles⟩ taken).2.registry =
    some registry' := hregistry'
  cases registry? with
  | none => cases taken <;> cases hnext
  | some registry =>
      have hunchanged : ∃ journal,
          Turn registry.sessions .none journal registry.sessions :=
        ⟨[], .steady (List.forall_mem_nil _) (.refl _)⟩
      refine ⟨registry.sessions, ?_⟩
      rw [exists_and_left]
      refine ⟨rfl, ?_⟩
      cases taken with
      | drop => cases hnext
      | world change =>
          cases hnext
          exact hunchanged
      | inspect =>
          cases hnext
          exact hunchanged
      | size =>
          cases hnext
          exact hunchanged
      | resetAll =>
          cases hnext
          exact ⟨[], .steady (List.forall_mem_nil _) (.reset _)⟩
      | acquire index =>
          simp only [registries, RegistryState.step, RegistryState.acquire] at hnext ⊢
          cases hacquired : (registry.acquire index device).value with
          | error error =>
              simp only [hacquired] at hnext ⊢
              cases hnext
              exact hunchanged
          | ok got =>
              simp only [hacquired] at hnext ⊢
              cases hnext
              exact Registry.acquire_turn hacquired
      | use index use =>
          simp only [registries, RegistryState.step] at hnext ⊢
          cases hhandle : handles.get? index with
          | none =>
              simp only [hhandle] at hnext
              cases hnext
              cases use with
              | release =>
                  simp only [Transfer.ofRegistry, hhandle]
                  exact hunchanged
              | _ => exact hunchanged
          | some handle =>
              simp only [hhandle] at hnext ⊢
              by_cases huse : use = .release
              · subst huse
                have hreleased := destroySession_turn ⟨registry⟩ handle device
                cases hnext
                simp only [Transfer.ofRegistry, hhandle]
                exact ⟨_, hreleased⟩
              · have hused := does_useRegistry registry handle huse
                cases hnext
                cases use with
                | release => exact absurd rfl huse
                | _ => exact ⟨_, .steady (hused.writes device) (hused.yields device)⟩

end Scenario

/-! ## Handles without a session -/

/-- What comes of using a handle that has no session: nothing is changed and nothing is asked
of the device.  That such a handle is given back is told to the log. -/
structure Registry.Ignores (registry : Registry) (handle : Handle) : Prop where
  release : ∀ device, registry.release handle device =
    ⟨registry, device, [.notice [] (.unregisteredRelease handle.monitor)]⟩
  update : ∀ {α : Type} (action : Session → Capture (α × Session)) device,
    registry.update handle action device = ⟨(none, registry), device, []⟩

theorem Registry.ignores {registry : Registry} {handle : Handle}
    (hvacant : registry.get? handle = none) : registry.Ignores handle where
  release := by
    intro device
    simp [Registry.release, hvacant, notify, note]
  update := by
    intro α action device
    simp [Registry.update, hvacant]

/-- What comes of using a handle that has no session with a duplicator: updates fail, there is
nothing to be read, and nothing is changed or asked of the device. -/
structure Duplicator.Ignores (duplicator : Duplicator) (handle : Handle) : Prop where
  destroySession : ∀ device, duplicator.destroySession handle device =
    ⟨duplicator, device, [.notice [] (.unregisteredRelease handle.monitor)]⟩
  updateFrame : ∀ device,
    duplicator.updateFrame handle device = ⟨(false, duplicator), device, []⟩
  setPreviewVisible : ∀ visible device,
    duplicator.setPreviewVisible handle visible device = ⟨duplicator, device, []⟩
  texture : duplicator.texture? handle = none
  colorSpace : duplicator.colorSpace? handle = none
  sdrWhite : duplicator.sdrWhite? handle = none
  isHdr : duplicator.isHdr? handle = none
  frameAvailable : duplicator.frameAvailable? handle = none

theorem Duplicator.ignores {duplicator : Duplicator} {handle : Handle}
    (hvacant : duplicator.session? handle = none) : duplicator.Ignores handle := by
  have hignored : duplicator.registry.Ignores handle := Registry.ignores hvacant
  constructor
  · intro device
    simp [Duplicator.destroySession, hignored.release]
  · intro device
    simp [Duplicator.updateFrame, hignored.update]
  · intro visible device
    simp [Duplicator.setPreviewVisible, hignored.update]
  · simp [texture?, hvacant]
  · simp [colorSpace?, hvacant]
  · simp [sdrWhite?, hvacant]
  · simp [isHdr?, hvacant]
  · simp [frameAvailable?, hvacant]

/-! ## The account -/

/-- However a registry or a duplicator is used, and whatever handles its users bring with them,
every session that is left is filed under its own monitor and is referred to, by a count that
fits its word.  The handles that all sessions count are those that were got less those that were
given back while they had a session, and a handle without a session has no effect.  All of this
needs no more than that the program was not stopped, and nothing stops it but the attempt to
count more handles than fit a word: no count ever goes below zero. -/
theorem references_are_accounted_for (outputs : List OutputConfig) (config : SessionConfig)
    (handles : MonitorTable Handle) :
    (∀ steps : List RegistryStep,
      let start := { RegistryState.initial outputs config with handles }
      let run := runChecked RegistryState.overflow? RegistryState.step start steps
      (∀ records last registry, run = .ok (records, last) → last.registry = some registry →
        runFrom RegistryState.step start steps = (records, last) ∧
        registry.sessions.All Session.IsFiled ∧
        totalRefs registry.sessions + registries.released start steps =
          registries.acquired start steps ∧
        ∀ handle, registry.get? handle = none → registry.Ignores handle) ∧
      ∀ overflow, run = .error overflow →
        overflow = .addition ∧ Session.mostRefs < registries.acquired start steps) ∧
    (∀ steps : List DuplicatorStep,
      let start := { DuplicatorState.initial outputs config with handles }
      let run := runChecked DuplicatorState.overflow? DuplicatorState.step start steps
      (∀ records last duplicator, run = .ok (records, last) →
        last.duplicator = some duplicator →
        runFrom DuplicatorState.step start steps = (records, last) ∧
        duplicator.registry.sessions.All Session.IsFiled ∧
        totalRefs duplicator.registry.sessions + duplicators.released start steps =
          duplicators.acquired start steps ∧
        ∀ handle, duplicator.session? handle = none → duplicator.Ignores handle) ∧
      ∀ overflow, run = .error overflow →
        overflow = .addition ∧ Session.mostRefs < duplicators.acquired start steps) := by
  constructor
  · intro steps start run
    have hstart : registries.sessions? start = some .empty := rfl
    obtain ⟨hpassed, hstopped⟩ := registries_takesTurns.account registries_checks hstart steps
    refine ⟨?_, hstopped⟩
    intro records last registry hrun hlast
    obtain ⟨hfiled, hcounted⟩ :=
      hpassed _ registry.sessions hrun (congrArg (Option.map Registry.sessions) hlast)
    exact ⟨runFrom_of_runChecked hrun, hfiled, hcounted, fun handle => Registry.ignores⟩
  · intro steps start run
    have hstart : duplicators.sessions? start = some .empty := rfl
    obtain ⟨hpassed, hstopped⟩ := duplicators_takesTurns.account duplicators_checks hstart steps
    refine ⟨?_, hstopped⟩
    intro records last duplicator hrun hlast
    obtain ⟨hfiled, hcounted⟩ := hpassed _ duplicator.registry.sessions hrun
      (congrArg (Option.map fun left : Duplicator => left.registry.sessions) hlast)
    exact ⟨runFrom_of_runChecked hrun, hfiled, hcounted, fun handle => Duplicator.ignores⟩

/-- A handle is given back once too often, and again after a second session has begun. -/
theorem references_are_accounted_for_stale :
    let outputs := singleOutputDevice.outputs
    let stale : List RegistryStep := [.acquire 0, .acquire 0, .use 0 .release,
      .use 0 .release, .use 0 .release, .acquire 0]
    let again : List DuplicatorStep := [.create 0, .use 0 .destroy, .use 0 .destroy, .create 0,
      .create 0, .use 0 .destroy]
    (∃ records last registry,
      runChecked RegistryState.overflow? RegistryState.step (.initial outputs .standard) stale =
        .ok (records, last) ∧ last.registry = some registry ∧
      totalRefs registry.sessions = 1 ∧ registry.Ignores ⟨1⟩) ∧
    ∃ records last duplicator,
      runChecked DuplicatorState.overflow? DuplicatorState.step (.initial outputs .standard)
        again = .ok (records, last) ∧ last.duplicator = some duplicator ∧
      totalRefs duplicator.registry.sessions = 1 ∧ duplicator.Ignores ⟨1⟩ := by
  intro outputs stale again
  obtain ⟨hregistries, hduplicators⟩ := references_are_accounted_for outputs .standard .empty
  rw [show { RegistryState.initial outputs .standard with handles := .empty } =
    RegistryState.initial outputs .standard from rfl] at hregistries
  rw [show { DuplicatorState.initial outputs .standard with handles := .empty } =
    DuplicatorState.initial outputs .standard from rfl] at hduplicators
  constructor
  · have hleft : (runFrom RegistryState.step (.initial outputs .standard) stale).2.registry.isSome =
        true := by decide +kernel
    have hvacant : (runFrom RegistryState.step
        (.initial outputs .standard) stale).2.registry.bind (·.get? ⟨1⟩) = none := by
      decide +kernel
    have hacquired : registries.acquired (.initial outputs .standard) stale = 3 := by
      decide +kernel
    have hreleased : registries.released (.initial outputs .standard) stale = 2 := by
      decide +kernel
    obtain ⟨hpassed, hstopped⟩ := hregistries stale
    rw [hacquired] at hpassed hstopped
    rw [hreleased] at hpassed
    rcases hrun : runChecked RegistryState.overflow? RegistryState.step
        (.initial outputs .standard) stale with overflow | ⟨records, last⟩
    · obtain ⟨-, hmore⟩ := hstopped overflow hrun
      simp [Session.mostRefs] at hmore
    · rw [runFrom_of_runChecked hrun] at hleft hvacant
      obtain ⟨registry, hlast⟩ := Option.isSome_iff_exists.mp hleft
      rw [hlast] at hvacant
      obtain ⟨-, -, hcounted, hignored⟩ := hpassed records last registry hrun hlast
      exact ⟨records, last, registry, rfl, hlast, by omega, hignored ⟨1⟩ hvacant⟩
  · have hleft : (runFrom DuplicatorState.step
        (.initial outputs .standard) again).2.duplicator.isSome = true := by decide +kernel
    have hvacant : (runFrom DuplicatorState.step
        (.initial outputs .standard) again).2.duplicator.bind (·.session? ⟨1⟩) = none := by
      decide +kernel
    have hacquired : duplicators.acquired (.initial outputs .standard) again = 3 := by
      decide +kernel
    have hreleased : duplicators.released (.initial outputs .standard) again = 2 := by
      decide +kernel
    obtain ⟨hpassed, hstopped⟩ := hduplicators again
    rw [hacquired] at hpassed hstopped
    rw [hreleased] at hpassed
    rcases hrun : runChecked DuplicatorState.overflow? DuplicatorState.step
        (.initial outputs .standard) again with overflow | ⟨records, last⟩
    · obtain ⟨-, hmore⟩ := hstopped overflow hrun
      simp [Session.mostRefs] at hmore
    · rw [runFrom_of_runChecked hrun] at hleft hvacant
      obtain ⟨duplicator, hlast⟩ := Option.isSome_iff_exists.mp hleft
      rw [hlast] at hvacant
      obtain ⟨-, -, hcounted, hignored⟩ := hpassed records last duplicator hrun hlast
      exact ⟨records, last, duplicator, rfl, hlast, by omega, hignored ⟨1⟩ hvacant⟩

end DesktopCapture
