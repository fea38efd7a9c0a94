import DesktopCapture.Proofs.AlikeSessions
import DesktopCapture.Proofs.Run

/-!
# Previews do not influence captures

Two duplicators are driven by the same steps over devices with the same script; one
may open previews where the other does not.  The steps keep the two alike: the
replies are the same, the live sessions differ in previews and numbers only, and the
captures are the same up to the renaming of numbers.
-/

namespace DesktopCapture

open Capture Scenario

/-! ## Registries alike -/

/-- Tables with sessions of the same monitors that are alike. -/
def SessionsAlike (names : Renaming) (sessions sessions' : MonitorTable Session) : Prop :=
  ∀ index, Option.Rel (Session.Alike names) (sessions.get? index) (sessions'.get? index)

namespace SessionsAlike

variable {names names' : Renaming} {sessions sessions' : MonitorTable Session}

theorem mono (halike : SessionsAlike names sessions sessions') (hgrows : names ⊆ names') :
    SessionsAlike names' sessions sessions' := by
  intro index
  have hindex := halike index
  revert hindex
  generalize sessions.get? index = live, sessions'.get? index = live'
  intro hindex
  cases hindex with
  | none => exact .none
  | some hsession => exact .some (hsession.mono hgrows)

/-- A monitor has no session in both tables, or sessions that are alike. -/
theorem get? (halike : SessionsAlike names sessions sessions') (index : UInt32) :
    (sessions.get? index = none ∧ sessions'.get? index = none) ∨
      ∃ session session', sessions.get? index = some session ∧
        sessions'.get? index = some session' ∧ session.Alike names session' := by
  have hindex := halike index
  revert hindex
  generalize sessions.get? index = live, sessions'.get? index = live'
  intro hindex
  cases hindex with
  | none => exact .inl ⟨rfl, rfl⟩
  | some hsession => exact .inr ⟨_, _, rfl, rfl, hsession⟩

theorem insert (halike : SessionsAlike names sessions sessions') (index : UInt32)
    {session session' : Session} (hsession : session.Alike names session') :
    SessionsAlike names (sessions.insert index session) (sessions'.insert index session') := by
  intro other
  rw [MonitorTable.get?_insert, MonitorTable.get?_insert]
  by_cases hother : other = index
  · rw [if_pos hother, if_pos hother]
    exact .some hsession
  · rw [if_neg hother, if_neg hother]
    exact halike other

theorem erase (halike : SessionsAlike names sessions sessions') (index : UInt32) :
    SessionsAlike names (sessions.erase index) (sessions'.erase index) := by
  intro other
  rw [MonitorTable.get?_erase, MonitorTable.get?_erase]
  by_cases hother : other = index
  · rw [if_pos hother, if_pos hother]
    exact .none
  · rw [if_neg hother, if_neg hother]
    exact halike other

theorem reset (halike : SessionsAlike names sessions sessions') :
    SessionsAlike names (sessions.map Session.reset) (sessions'.map Session.reset) := by
  intro index
  rw [MonitorTable.get?_map, MonitorTable.get?_map]
  have hindex := halike index
  revert hindex
  generalize sessions.get? index = live, sessions'.get? index = live'
  intro hindex
  cases hindex with
  | none => exact .none
  | some hsession =>
      exact .some ⟨hsession.duplication, hsession.cache, hsession.monitor, hsession.color,
        rfl, hsession.refs⟩

end SessionsAlike

/-- Duplicators with sessions alike. -/
abbrev Duplicator.Alike (names : Renaming) (duplicator duplicator' : Duplicator) : Prop :=
  SessionsAlike names duplicator.registry.sessions duplicator'.registry.sessions

namespace Duplicator

variable {names : Renaming} {duplicator duplicator' : Duplicator}

theorem alike_createSession (halike : duplicator.Alike names duplicator') (index : UInt32) :
    Capture.Alike names (duplicator.createSession index) (duplicator'.createSession index)
      (fun names' result result' => result'.1 = result.1 ∧
        result.2.Alike names' result'.2) := by
  have hacquired : Capture.Alike names (duplicator.registry.acquire index)
      (duplicator'.registry.acquire index) (fun names' => Related fun acquired acquired' =>
        acquired'.1 = acquired.1 ∧
          SessionsAlike names' acquired.2.sessions acquired'.2.sessions) := by
    unfold Registry.acquire Registry.get?
    dsimp only
    rcases halike.get? index with ⟨hvacant, hvacant'⟩ | ⟨session, session', hlive, hlive', h⟩
    · rw [hvacant, hvacant']
      refine Alike.bind (Session.alike_start index _ _)
        fun _ started started' hgrows hstarted => ?_
      rcases started with error | session <;> rcases started' with error' | session'
      · exact Alike.pure hstarted
      · cases hstarted
      · cases hstarted
      · exact Alike.pure ⟨rfl, (halike.mono hgrows).insert index hstarted⟩
    · rw [hlive, hlive']
      refine Alike.pure ⟨rfl, halike.insert index ?_⟩
      exact ⟨h.duplication, h.cache, h.monitor, h.color, h.frameAvailable,
        congrArg (· + 1) h.refs⟩
  refine Alike.bind hacquired fun names' acquired acquired' hgrows hrelated => ?_
  have hkept := halike.mono hgrows
  rcases acquired with error | acquired <;> rcases acquired' with error' | acquired'
  · cases hrelated
    cases error with
    | _ =>
        exact Alike.bind (Alike.note rfl rfl) fun _ _ _ hnoted _ =>
          Alike.pure ⟨rfl, hkept.mono hnoted⟩
  · cases hrelated
  · cases hrelated
  · exact Alike.pure ⟨congrArg some hrelated.1, hrelated.2⟩

theorem alike_destroySession (halike : duplicator.Alike names duplicator')
    (handle : Handle) :
    Capture.Alike names (duplicator.destroySession handle)
      (duplicator'.destroySession handle) Duplicator.Alike := by
  have hreleased : Capture.Alike names (duplicator.registry.release handle)
      (duplicator'.registry.release handle) (fun names' registry registry' =>
        SessionsAlike names' registry.sessions registry'.sessions) := by
    unfold Registry.release Registry.get?
    rcases halike.get? handle.monitor with
      ⟨hvacant, hvacant'⟩ | ⟨session, session', hlive, hlive', h⟩
    · rw [hvacant, hvacant']
      exact Alike.bind (Alike.note rfl rfl) fun _ _ _ hgrows _ =>
        Alike.pure (halike.mono hgrows)
    · rw [hlive, hlive']
      dsimp only
      rw [h.refs]
      by_cases hrefs : session.refs - 1 = 0
      · rw [if_pos hrefs, if_pos hrefs]
        refine Alike.bind (Alike.note rfl rfl) fun _ _ _ hnoted _ => ?_
        refine Alike.bind (Session.alike_release (h.mono hnoted))
          fun _ _ _ hreleased _ => ?_
        have hlast := halike.mono (List.Subset.trans hnoted hreleased)
        exact Alike.pure (hlast.erase handle.monitor)
      · rw [if_neg hrefs, if_neg hrefs]
        refine Alike.pure (halike.insert handle.monitor ?_)
        exact ⟨h.duplication, h.cache, h.monitor, h.color, h.frameAvailable, rfl⟩
  exact Alike.bind hreleased fun _ _ _ _ hregistry => Alike.pure hregistry

theorem alike_update {α : Type} {registry registry' : Registry}
    (halike : SessionsAlike names registry.sessions registry'.sessions) (handle : Handle)
    {action : Session → Capture (α × Session)}
    (haction : ∀ session session', session.Alike names session' →
      Capture.Alike names (action session) (action session') (fun names' result result' =>
        result'.1 = result.1 ∧ result.2.Alike names' result'.2)) :
    Capture.Alike names (registry.update handle action) (registry'.update handle action)
      (fun names' result result' => result'.1 = result.1 ∧
        SessionsAlike names' result.2.sessions result'.2.sessions) := by
  unfold Registry.update Registry.get?
  rcases halike.get? handle.monitor with
    ⟨hvacant, hvacant'⟩ | ⟨session, session', hlive, hlive', h⟩
  · rw [hvacant, hvacant']
    exact Alike.pure ⟨rfl, halike⟩
  · rw [hlive, hlive']
    refine Alike.bind (haction session session' h) fun _ result result' hgrows hresult => ?_
    exact Alike.pure ⟨congrArg some hresult.1,
      (halike.mono hgrows).insert handle.monitor hresult.2⟩

theorem alike_updateFrame (halike : duplicator.Alike names duplicator') (handle : Handle) :
    Capture.Alike names (duplicator.updateFrame handle) (duplicator'.updateFrame handle)
      (fun names' result result' => result'.1 = result.1 ∧
        result.2.Alike names' result'.2) := by
  refine Alike.bind (alike_update halike handle fun _ _ h => Session.alike_update h)
    fun _ result result' _ hresult => ?_
  exact Alike.pure ⟨congrArg (·.getD false) hresult.1, hresult.2⟩

theorem alike_setPreviewVisible (halike : duplicator.Alike names duplicator')
    (handle : Handle) (visible : Bool) :
    Capture.Alike names (duplicator.setPreviewVisible handle visible)
      (duplicator'.setPreviewVisible handle visible) Duplicator.Alike := by
  refine Alike.bind (alike_update halike handle fun session session' h => ?_)
    fun _ _ _ _ hresult => Alike.pure hresult.2
  exact Alike.bind (Session.alike_setPreviewVisible h visible)
    fun _ _ _ _ hset => Alike.pure ⟨rfl, hset⟩

end Duplicator

/-! ## Steps -/

namespace Scenario

/-- The steps in which sessions are used and the world around them changes. -/
inductive CaptureStep
  | world (step : DeviceStep)
  | create (index : UInt32)
  | destroy (index : UInt32)
  | update (index : UInt32)
  | resetAll
  | setVisible (index : UInt32) (visible : Bool)
  | window (index : UInt32) (step : WindowStep)

namespace CaptureStep

/-- The step of a duplicator. -/
def toStep : CaptureStep → DuplicatorStep
  | .world step => .world step
  | .create index => .create index
  | .destroy index => .use index .destroy
  | .update index => .use index .update
  | .resetAll => .resetAll
  | .setVisible index visible => .use index (.setVisible visible)
  | .window index step => .use index (.window step)

/-- Whether the user of a preview's window acts. -/
def isWindow : CaptureStep → Bool
  | .window .. => true
  | _ => false

/-- The replies to the steps that are not the window user's. -/
def replies (steps : List CaptureStep) (records : List Record) : List Reply :=
  (steps.zip records).filterMap fun taken =>
    if taken.1.isWindow then none else some taken.2.reply

theorem replies_cons (taken : CaptureStep) (steps : List CaptureStep) (record : Record)
    (records : List Record) : replies (taken :: steps) (record :: records) =
      (if taken.isWindow then [] else [record.reply]) ++ replies steps records := by
  cases hwindow : taken.isWindow <;> simp [replies, hwindow]

end CaptureStep

/-- Runs that are alike: the devices, the duplicators and the handles. -/
structure DuplicatorState.Alike (names : Renaming) (state state' : DuplicatorState) :
    Prop where
  device : state.device.Alike names state'.device
  handles : state'.handles = state.handles
  duplicator : ∃ duplicator duplicator', state.duplicator = some duplicator ∧
    state'.duplicator = some duplicator' ∧ duplicator.Alike names duplicator'

/-- What comes of a step in two runs that are alike. -/
structure StepsAlike (names : Renaming) (taken : CaptureStep)
    (done done' : Record × DuplicatorState) : Prop where
  state : done.2.Alike names done'.2
  reply : taken.isWindow = false → done'.1.reply = done.1.reply
  captures : List.Forall₂ (Entry.Renamed names) (captures done.1.journal)
    (captures done'.1.journal)

end Scenario

theorem Device.Alike.world {names : Renaming} {device device' : Device}
    (halike : device.Alike names device') (step : DeviceStep) :
    (step.apply device).Alike names (step.apply device') := by
  have hscript := halike.script
  refine ⟨?_, halike.oneToOne, ?_⟩
  · cases step with
    | pushFrames output outcomes =>
        refine ⟨hscript.outputs, hscript.enumerationFailsAt, ?_, hscript.fails,
          hscript.platformFaults, hscript.acquireFaults⟩
        simp [DeviceStep.apply, Device.pushFrames, hscript.frames]
    | setFailing call on =>
        refine ⟨hscript.outputs, hscript.enumerationFailsAt, hscript.frames, ?_,
          hscript.platformFaults, hscript.acquireFaults⟩
        simp [DeviceStep.apply, Device.setFailing, hscript.fails]
    | queueFault point code =>
        refine ⟨hscript.outputs, hscript.enumerationFailsAt, hscript.frames, hscript.fails,
          ?_, hscript.acquireFaults⟩
        intro other hother
        simp [DeviceStep.apply, Faults.push, hscript.platformFaults other hother]
    | queueAcquireFault error =>
        refine ⟨hscript.outputs, hscript.enumerationFailsAt, hscript.frames, hscript.fails,
          hscript.platformFaults, ?_⟩
        simp [DeviceStep.apply, Faults.pushAcquire, hscript.acquireFaults]
    | failEnumerationAt index =>
        exact ⟨hscript.outputs, rfl, hscript.frames, hscript.fails,
          hscript.platformFaults, hscript.acquireFaults⟩
    | setOutputs outputs =>
        exact ⟨rfl, hscript.enumerationFailsAt, hscript.frames, hscript.fails,
          hscript.platformFaults, hscript.acquireFaults⟩
    | _ =>
        exact ⟨hscript.outputs, hscript.enumerationFailsAt, hscript.frames, hscript.fails,
          hscript.platformFaults, hscript.acquireFaults⟩
  · cases step <;> exact halike.known

namespace Scenario.DuplicatorState

variable {names : Renaming} {state state' : DuplicatorState}

/-- A step that is an action with a reply. -/
theorem alike_perform {taken : CaptureStep} {action action' : Capture (Reply × Duplicator)}
    (halike : state.Alike names state')
    (haction : Capture.Alike names action action' (fun names' result result' =>
      (taken.isWindow = false → result'.1 = result.1) ∧ result.2.Alike names' result'.2)) :
    ∃ names', names ⊆ names' ∧
      StepsAlike names' taken (state.perform action) (state'.perform action') := by
  obtain ⟨names', hgrows, houtcome⟩ := haction state.device state'.device halike.device
  refine ⟨names', hgrows, ?_, houtcome.related.1, houtcome.captures⟩
  exact ⟨houtcome.alike, halike.handles, _, _, rfl, rfl, houtcome.related.2⟩

variable {duplicator duplicator' : Duplicator}

theorem alike_create (halike : state.Alike names state')
    (hduplicator : duplicator.Alike names duplicator') (index : UInt32) :
    ∃ names', names ⊆ names' ∧ StepsAlike names' (.create index)
      (state.create duplicator index) (state'.create duplicator' index) := by
  obtain ⟨names', hgrows, houtcome⟩ := Duplicator.alike_createSession hduplicator index
    state.device state'.device halike.device
  obtain ⟨hhandle, hduplicators⟩ := houtcome.related
  refine ⟨names', hgrows, ⟨houtcome.alike, ?_, _, _, rfl, rfl, hduplicators⟩, ?_,
    houtcome.captures⟩
  · simp only [create]
    rw [hhandle, halike.handles]
  · intro _
    simp only [create]
    rw [hhandle]

/-- What users do to windows leaves the sessions alike. -/
theorem alike_window (hduplicator : duplicator.Alike names duplicator') (handle : Handle)
    (step : WindowStep) :
    Capture.Alike names (useHandle duplicator handle (.window step))
      (useHandle duplicator' handle (.window step))
      (fun names' result result' => result.2.Alike names' result'.2) := by
  unfold useHandle Duplicator.session? Registry.get?
  dsimp only
  rcases hduplicator.get? handle.monitor with
    ⟨hvacant, hvacant'⟩ | ⟨session, session', hlive, hlive', h⟩
  · rw [hvacant, hvacant']
    exact Capture.Alike.pure hduplicator
  · rw [hlive, hlive']
    dsimp only [Option.bind_some]
    have hleft := MonitorTable.insert_eq_self hlive
    have hright := MonitorTable.insert_eq_self hlive'
    have hchanged : ∀ preview preview' : Option Preview, SessionsAlike names
        (duplicator.registry.sessions.insert handle.monitor { session with preview })
        (duplicator'.registry.sessions.insert handle.monitor
          { session' with preview := preview' }) :=
      fun preview preview' => hduplicator.insert handle.monitor (h.of_previews _ _)
    rcases hstep : WindowStep.onSession? session step with _ | changed <;>
      rcases hstep' : WindowStep.onSession? session' step with _ | changed'
    · exact Capture.Alike.pure hduplicator
    · obtain ⟨preview', -, rfl⟩ := Option.map_eq_some_iff.mp hstep'
      have hinserted := hchanged session.preview (some (WindowStep.apply preview' step))
      rw [hleft] at hinserted
      exact Capture.Alike.pure hinserted
    · obtain ⟨preview, -, rfl⟩ := Option.map_eq_some_iff.mp hstep
      have hinserted := hchanged (some (WindowStep.apply preview step)) session'.preview
      rw [hright] at hinserted
      exact Capture.Alike.pure hinserted
    · obtain ⟨preview, -, rfl⟩ := Option.map_eq_some_iff.mp hstep
      obtain ⟨preview', -, rfl⟩ := Option.map_eq_some_iff.mp hstep'
      exact Capture.Alike.pure (hchanged _ _)

/-- What is done with a handle is done alike. -/
theorem alike_useHandle (hduplicator : duplicator.Alike names duplicator')
    (handle : Handle) {taken : CaptureStep} {index : UInt32} {use : HandleUse}
    (htaken : taken.toStep = .use index use) :
    Capture.Alike names (useHandle duplicator handle use) (useHandle duplicator' handle use)
      (fun names' result result' => (taken.isWindow = false → result'.1 = result.1) ∧
        result.2.Alike names' result'.2) := by
  cases taken with
  | destroy index =>
      cases htaken
      exact Capture.Alike.bind (Duplicator.alike_destroySession hduplicator handle)
        fun _ _ _ _ h => Capture.Alike.pure ⟨fun _ => rfl, h⟩
  | update index =>
      cases htaken
      exact Capture.Alike.bind (Duplicator.alike_updateFrame hduplicator handle)
        fun _ _ _ _ h => Capture.Alike.pure ⟨fun _ => congrArg Reply.flag h.1, h.2⟩
  | setVisible index visible =>
      cases htaken
      exact Capture.Alike.bind (Duplicator.alike_setPreviewVisible hduplicator handle visible)
        fun _ _ _ _ h => Capture.Alike.pure ⟨fun _ => rfl, h⟩
  | window index step =>
      cases htaken
      exact (alike_window hduplicator handle step).weaken fun _ _ _ h => ⟨nofun, h⟩
  | _ => cases htaken

/-- Runs that are alike stay so in every step. -/
theorem alike_step (halike : state.Alike names state') (taken : CaptureStep) :
    ∃ names', names ⊆ names' ∧
      StepsAlike names' taken (state.step taken.toStep) (state'.step taken.toStep) := by
  obtain ⟨device, _, handles⟩ := state
  obtain ⟨device', _, handles'⟩ := state'
  obtain ⟨hdevice, hhandles, duplicator, duplicator', hleft, hright, hduplicator⟩ := halike
  cases hleft
  cases hright
  cases hhandles
  have hstate : DuplicatorState.Alike names ⟨device, some duplicator, handles⟩
      ⟨device', some duplicator', handles⟩ :=
    ⟨hdevice, rfl, duplicator, duplicator', rfl, rfl, hduplicator⟩
  have hused : ∀ index use, taken.toStep = .use index use → ∃ names', names ⊆ names' ∧
      StepsAlike names' taken
        (DuplicatorState.step ⟨device, some duplicator, handles⟩ (.use index use))
        (DuplicatorState.step ⟨device', some duplicator', handles⟩ (.use index use)) := by
    intro index use htaken
    cases hhandle : handles.get? index with
    | none =>
        simp only [DuplicatorState.step, hhandle]
        exact ⟨names, List.Subset.refl names, hstate, fun _ => rfl, .nil⟩
    | some handle =>
        simp only [DuplicatorState.step, hhandle]
        exact alike_perform hstate (alike_useHandle hduplicator handle htaken)
  cases taken with
  | world step =>
      exact ⟨names, List.Subset.refl names,
        ⟨hdevice.world step, rfl, duplicator, duplicator', rfl, rfl, hduplicator⟩,
        fun _ => rfl, .nil⟩
  | create index => exact alike_create hstate hduplicator index
  | destroy index => exact hused index _ rfl
  | update index => exact hused index _ rfl
  | resetAll =>
      exact ⟨names, List.Subset.refl names,
        ⟨hdevice, rfl, _, _, rfl, rfl, hduplicator.reset⟩, fun _ => rfl, .nil⟩
  | setVisible index visible => exact hused index _ rfl
  | window index step => exact hused index _ rfl

/-- Runs that are alike stay so to their ends. -/
theorem alike_run (halike : state.Alike names state') (steps : List CaptureStep) :
    let run := runFrom step state (steps.map CaptureStep.toStep)
    let run' := runFrom step state' (steps.map CaptureStep.toStep)
    ∃ names', names ⊆ names' ∧ run.2.Alike names' run'.2 ∧
      CaptureStep.replies steps run'.1 = CaptureStep.replies steps run.1 ∧
      List.Forall₂ (Entry.Renamed names') (captures (journal run.1))
        (captures (journal run'.1)) := by
  induction steps generalizing names state state' with
  | nil => exact ⟨names, List.Subset.refl names, halike, rfl, .nil⟩
  | cons taken rest ih =>
      obtain ⟨middle, hgrows, hstep⟩ := alike_step halike taken
      obtain ⟨last, hgrows', hstate, hreplies, hcaptures⟩ := ih hstep.state
      refine ⟨last, List.Subset.trans hgrows hgrows', hstate, ?_, ?_⟩
      · simp only [List.map_cons, runFrom_cons, CaptureStep.replies_cons]
        rw [hreplies]
        cases hwindow : taken.isWindow with
        | true => rfl
        | false => rw [hstep.reply hwindow]
      · have hbefore := hstep.captures.imp fun _ _ hrenamed => hrenamed.mono hgrows'
        simp only [List.map_cons, runFrom_cons, journal, List.flatMap_cons, captures_append]
        exact List.rel_append hbefore hcaptures

/-- With and without previews, the same steps over the same script get the same
replies, apart from those of the windows' users; they leave live sessions that differ
in their previews and in numbers only; and they make the same captures up to a
renaming of numbers. -/
theorem previews_influence_no_capture (outputs : List OutputConfig) (title : String)
    (steps : List CaptureStep) :
    let run := fun preview => runFrom step (initial outputs ⟨preview, title⟩)
      (steps.map CaptureStep.toStep)
    CaptureStep.replies steps (run true).1 = CaptureStep.replies steps (run false).1 ∧
    ∃ names : Renaming, names.IsOneToOne ∧
      List.Forall₂ (Entry.Renamed names) (captures (journal (run true).1))
        (captures (journal (run false).1)) ∧
      ∀ index, Option.Rel (Session.Alike names) ((run true).2.sessions.get? index)
        ((run false).2.sessions.get? index) := by
  have hinitial : (initial outputs ⟨true, title⟩).Alike [] (initial outputs ⟨false, title⟩) := by
    refine ⟨⟨.refl _, ⟨List.nodup_nil, List.nodup_nil⟩, List.forall_mem_nil _⟩, rfl, _, _,
      rfl, rfl, ?_⟩
    intro index
    exact .none
  obtain ⟨names, -, hstate, hreplies, hcaptures⟩ := alike_run hinitial steps
  obtain ⟨duplicator, duplicator', hleft, hright, hduplicator⟩ := hstate.duplicator
  refine ⟨hreplies.symm, names, hstate.device.oneToOne, hcaptures, ?_⟩
  simp only [sessions, hleft, hright]
  exact hduplicator

end Scenario.DuplicatorState
end DesktopCapture
