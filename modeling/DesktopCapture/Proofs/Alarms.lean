import DesktopCapture.Proofs.Accounts
import DesktopCapture.Proofs.Balance
import DesktopCapture.Proofs.Locality

/-!
# Failures and alarms

Most failures of calls are absorbed where they happen, so that the log is all that tells
of them.  Each is told there, and nothing else alarms the log but the release of a handle
without a session.  Only the queries that answer with a failure leave it to the caller.
-/

namespace DesktopCapture

open Capture Scenario

/-! ## Starting -/

namespace Adapter

theorem owing_enumOutput (index : UInt32) :
    Triple (Owing none) (enumOutput index) (fun result => Owing (unsettled? result)) := by
  refine owing_fallible fun found => ?_
  cases found with
  | none => rfl
  | some output => rfl

theorem unsettled_output (index : UInt32) :
    Triple (Owing none) (output index) Unsettled := by
  refine Triple.bind (owing_enumOutput index) ?_
  rintro (error | _ | output)
  · exact Triple.pure fun _ _ h => h
  · exact Triple.pure fun _ _ h => h
  · exact Triple.pure fun _ _ h => h

end Adapter

namespace Session

theorem owing_openDuplication (spans : List Span) (output : Output) :
    Triple (Owing none) (openDuplication spans output)
      (fun result => Owing (unsettled? result)) := by
  have hnegotiated : Triple (Owing none) (duplicateWithFormats output offeredFormats)
      (fun result => Owing (unsettled? result)) := by
    refine owing_fallible fun duplication => ?_
    cases duplication with
    | none => rfl
    | some duplication => rfl
  refine Triple.bind hnegotiated ?_
  rintro (error | _ | duplication)
  · exact Triple.pure fun _ _ h => h
  · refine Triple.bind (owing_quiet rfl) fun _ => ?_
    refine Triple.bind (owing_fallible fun _ => rfl) ?_
    rintro (error | duplication)
    · exact Triple.pure fun _ _ h => h
    · exact Triple.pure fun _ _ h => h
  · refine Triple.bind (owing_fallible fun _ => rfl) ?_
    rintro (error | color)
    · refine Triple.bind (owing_tell spans rfl _ rfl) fun _ => ?_
      exact Triple.pure fun _ _ h => h
    · exact Triple.pure fun _ _ h => h

end Session

namespace Preview

theorem owing_assemble (size : Size) (title : String) :
    Triple (Owing none) (assemble size title) (fun made => Owing (unsettled? made)) := by
  refine Triple.bind (owing_fallible fun _ => rfl) ?_
  rintro (error | window)
  · exact Triple.pure fun _ _ h => h
  · refine Triple.bind (owing_fallible fun _ => rfl) ?_
    rintro (error | swapChain)
    · refine Triple.bind (owing_release _) fun _ => ?_
      exact Triple.pure fun _ _ h => h
    · refine Triple.bind (owing_setVisible window true) fun _ => ?_
      exact Triple.pure fun _ _ h => h

theorem owing_create (outer : List Span) (monitor : MonitorInfo) (title : String) :
    Triple (Owing none) (create outer monitor title) (fun made => Owing (unsettled? made)) := by
  refine Triple.bind (owing_assemble _ title) fun made => ?_
  have hended : Triple (Owing (unsettled? made))
      (do endSpan (outer ++ [.previewCreation]); Pure.pure made)
      (fun made => Owing (unsettled? made)) :=
    Triple.bind (owing_endSpan _) fun _ => Triple.pure fun _ _ h => h
  cases made with
  | ok preview => exact hended
  | error error => exact Triple.bind (owing_notify _ _) fun _ => hended

end Preview

namespace Session

theorem owing_openPreview (spans : List Span) (output : Output) (title : String) :
    Triple (Owing none) (openPreview spans output title) (fun _ => Owing none) := by
  refine Triple.bind (owing_fallible fun _ => rfl) ?_
  rintro (error | description)
  · refine Triple.bind (owing_tell spans rfl _ rfl) fun _ => ?_
    exact Triple.pure fun _ _ h => h
  · refine Triple.bind (Preview.owing_create spans _ title) ?_
    rintro (error | preview)
    · refine Triple.bind (owing_tell spans rfl _ rfl) fun _ => ?_
      exact Triple.pure fun _ _ h => h
    · exact Triple.pure fun _ _ h => h

theorem unsettled_startWithin (spans : List Span) (index : UInt32) (config : SessionConfig) :
    Triple (Owing none) (startWithin spans index config) Unsettled := by
  refine Triple.bind (Adapter.unsettled_output index) ?_
  rintro (error | output)
  · exact Triple.pure fun _ _ h => h
  · refine Triple.bind (owing_openDuplication spans output) ?_
    rintro (error | ⟨duplication, color⟩)
    · exact Triple.pure fun _ _ h => h
    · dsimp only
      split
      · refine Triple.bind (owing_openPreview spans output config.title) fun preview => ?_
        exact Triple.bind (owing_quiet rfl) fun _ => Triple.pure fun _ _ h => h
      · refine Triple.pure_bind ?_
        exact Triple.bind (owing_quiet rfl) fun _ => Triple.pure fun _ _ h => h

/-- A start that fails owes the cause: what it says itself is no alarm. -/
theorem unsettled_start (index : UInt32) (config : SessionConfig) :
    Triple (Owing none) (start index config) Unsettled := by
  refine Triple.bind (unsettled_startWithin _ index config) fun started => ?_
  have hended : Triple (Unsettled started)
      (do endSpan [.sessionStart index]; Pure.pure started) Unsettled :=
    Triple.bind (unsettled_calm fun _ => List.forall_mem_singleton.mpr rfl)
      fun _ => Triple.pure fun _ _ h => h
  cases started with
  | ok session => exact hended
  | error cause =>
      exact Triple.bind (unsettled_calm fun _ => List.forall_mem_singleton.mpr rfl)
        fun _ => hended

end Session

theorem Seat.owing_create (config : SessionConfig) (index : UInt32) (seat : Seat) :
    Triple (Owing none) (Seat.create config index seat) (fun _ => Owing none) := by
  cases seat with
  | some session => exact Triple.pure fun _ _ h => h
  | none =>
      have hmissing : Triple (Owing none) (notify [] (.noMonitor index)) (fun _ => Owing none) :=
        owing_quiet rfl
      refine Triple.bind (Session.unsettled_start index config) ?_
      rintro ((other | error | _ | _) | session)
      · exact Triple.bind hmissing fun _ => Triple.pure fun _ _ h => h
      · refine Triple.bind (owing_tell [] rfl _ rfl) fun _ => ?_
        exact Triple.pure fun _ _ h => h
      · exact fun _ _ h => h.elim
      · exact fun _ _ h => h.elim
      · exact Triple.pure fun _ _ h => h

theorem Seat.calm_create_missing (config : SessionConfig) {index : UInt32} (seat : Seat)
    {device : Device} (hmissing : (enumOutput index device).value = .ok none) :
    ∀ entry ∈ (Seat.create config index seat device).journal, entry.isCalm = true := by
  cases seat with
  | some session => exact List.forall_mem_nil _
  | none =>
      have hasked : ∃ device', enumOutput index device =
          ⟨.ok none, device', [.call (.enumOutput index) .absent]⟩ := by
        rcases fallible_cases .enumOutput (.enumOutput index)
          (fun found : Option Output => if found.isSome then .done else .absent)
          (Device.enumOutput index) device with
          ⟨error, faults, hasked⟩ | ⟨found, device', -, hasked⟩
        · rw [enumOutput, hasked] at hmissing
          cases hmissing
        · rw [enumOutput, hasked] at hmissing
          cases hmissing
          exact ⟨device', hasked⟩
      obtain ⟨device', hasked⟩ := hasked
      simp only [Seat.create, Session.start, Session.startWithin, Adapter.output, bind_apply,
        hasked, pure_apply, notify, endSpan, note]
      simp [Entry.isCalm, Notice.isAlarm, Notice.level, Level.isRecorded, Level.detail]

/-! ## Updating -/

theorem FrameCache.owing_release (cache : FrameCache) :
    Triple (Owing none) cache.release (fun _ => Owing none) := by
  unfold release
  cases cache.texture with
  | none => exact Triple.pure fun _ _ h => h
  | some texture => exact Capture.owing_release _

theorem FrameCache.owing_ingest (cache : FrameCache) (source : Texture) (hdr : Bool) :
    Triple (Owing none) (cache.ingest source hdr) (fun _ => Owing none) := by
  have hreallocated : Triple (Owing none) (cache.reallocate source hdr)
      (fun _ => Owing none) := by
    refine Triple.bind cache.owing_release fun _ => Triple.bind (owing_quiet rfl) fun _ => ?_
    refine Triple.bind (owing_fallible fun _ => rfl) ?_
    rintro (error | texture)
    · refine Triple.bind (owing_tell [] rfl _ rfl) fun _ => ?_
      exact Triple.pure fun _ _ h => h
    · exact Triple.pure fun _ _ h => h
  have hcopied : ∀ cache' : FrameCache,
      Triple (Owing none) (cache'.fill source) (fun _ => Owing none) := by
    intro cache'
    unfold fill
    cases cache'.texture with
    | none => exact Triple.pure fun _ _ h => h
    | some texture => exact owing_calm fun _ => List.forall_mem_singleton.mpr rfl
  have hfilled : ∀ cache' : FrameCache, Triple (Owing none)
      (do cache'.fill source; Pure.pure cache') (fun _ => Owing none) :=
    fun cache' => Triple.bind (hcopied cache') fun _ => Triple.pure fun _ _ h => h
  unfold ingest
  split
  · exact Triple.pure_bind (hfilled cache)
  · exact Triple.bind hreallocated hfilled

namespace Preview

theorem owing_fitSurface (preview : Preview) :
    Triple (Owing none) preview.fitSurface (fun fitted => Owing (unsettled? fitted)) := by
  unfold fitSurface
  split
  · exact Triple.pure fun _ _ h => h
  · refine Triple.bind (owing_fallible fun _ => rfl) ?_
    rintro (error | swapChain)
    · exact Triple.pure fun _ _ h => h
    · exact Triple.pure fun _ _ h => h

theorem owing_draw (preview : Preview) (texture : Texture) :
    Triple (Owing none) (preview.draw texture) (fun drawn => Owing (unsettled? drawn)) := by
  have hbound : Triple (Owing none) (preview.drawBound texture)
      (fun drawn => Owing (unsettled? drawn)) := by
    refine Triple.bind (owing_fallible fun _ => rfl) ?_
    rintro (error | _)
    · exact Triple.pure fun _ _ h => h
    · refine Triple.bind (owing_calm fun _ => List.forall_mem_singleton.mpr rfl) fun _ => ?_
      refine Triple.bind (owing_calm fun _ => List.forall_mem_singleton.mpr rfl) fun _ => ?_
      exact owing_fallible fun _ => rfl
  refine Triple.bind (owing_calm fun _ => List.forall_mem_singleton.mpr rfl) fun target => ?_
  refine Triple.bind hbound fun drawn => ?_
  refine Triple.bind (owing_calm fun _ => List.forall_mem_singleton.mpr rfl) fun _ => ?_
  exact Triple.pure fun _ _ h => h

theorem owing_present (preview : Preview) (texture : Option Texture) :
    Triple (Owing none) (preview.present texture)
      (fun result => Owing (unsettled? result.1)) := by
  unfold present
  cases texture with
  | none => exact Triple.pure fun _ _ h => h
  | some texture =>
      dsimp only
      split
      · refine Triple.bind preview.owing_fitSurface ?_
        rintro (error | fitted)
        · exact Triple.pure fun _ _ h => h
        · refine Triple.bind (fitted.owing_draw texture) ?_
          rintro (error | _)
          · exact Triple.pure fun _ _ h => h
          · exact Triple.pure fun _ _ h => h
      · exact Triple.pure fun _ _ h => h

end Preview

namespace Session

theorem owing_present (session : Session) :
    Triple (Owing none) session.present (fun _ => Owing none) := by
  unfold present
  cases session.preview with
  | none => exact Triple.pure fun _ _ h => h
  | some preview =>
      refine Triple.bind (preview.owing_present session.texture) ?_
      rintro ⟨error | _, preview'⟩
      · refine Triple.bind (owing_tell [] rfl _ rfl) fun _ => ?_
        exact Triple.pure fun _ _ h => h
      · exact Triple.pure_bind (Triple.pure fun _ _ h => h)

theorem owing_handBack (duplication : Duplication) :
    Triple (Owing none) (handBack duplication) (fun _ => Owing none) := by
  refine Triple.bind (owing_fallible fun _ => rfl) ?_
  rintro (error | _)
  · exact owing_tell [] rfl _ rfl
  · exact Triple.pure fun _ _ h => h

theorem owing_takeFrame (session : Session) (duplication : Duplication)
    (resource : FrameResource) :
    Triple (Owing none) (session.takeFrame duplication resource) (fun _ => Owing none) := by
  refine Triple.bind (owing_fallible fun _ => rfl) ?_
  rintro (error | texture)
  · refine Triple.bind (owing_tell [] rfl _ rfl) fun _ => ?_
    exact Triple.bind (owing_handBack duplication) fun _ => Triple.pure fun _ _ h => h
  · refine Triple.bind (session.cache.owing_ingest texture session.color.hdr) fun cache => ?_
    exact Triple.bind (owing_handBack duplication) fun _ =>
      owing_present { session with cache, frameAvailable := true }

theorem owing_update {session : Session} {index : UInt32} (hat : session.IsAt index) :
    Triple (Owing none) session.update (fun _ => Owing none) := by
  have hshown : Triple (Owing none) (do let shown ← session.present; Pure.pure (true, shown))
      (fun _ => Owing none) :=
    Triple.bind session.owing_present fun _ => Triple.pure fun _ _ h => h
  unfold update
  cases hown : session.duplication with
  | none => exact Triple.pure fun _ _ h => h
  | some duplication =>
      have hsame : duplication.output = session.monitor := by
        rw [hat.monitor, hat.duplication duplication hown]
      refine Triple.bind (owing_acquire duplication 0) ?_
      rintro ((index | error | _ | _) | resource)
      · exact Triple.bind (accounted_tell [] ⟨rfl, _, rfl⟩) fun _ => hshown
      · exact Triple.bind (accounted_tell [] ⟨rfl, _, rfl⟩) fun _ => hshown
      · refine Triple.bind (accounted_tell [] ⟨session.monitor, 0, ?_, rfl, rfl⟩) fun _ => ?_
        · rw [hsame]
        · exact Triple.bind (owing_release _) fun _ => Triple.pure fun _ _ h => h
      · exact hshown
      · exact Triple.bind (session.owing_takeFrame duplication resource) fun _ =>
          Triple.pure fun _ _ h => h

theorem owing_release (session : Session) :
    Triple (Owing none) session.release (fun _ => Owing none) := by
  rw [release_eq]
  refine Triple.bind ?_ fun _ => Triple.bind session.cache.owing_release fun _ => ?_
  · cases session.duplication with
    | none => exact Triple.pure fun _ _ h => h
    | some duplication => exact Capture.owing_release _
  · cases session.preview with
    | none => exact Triple.pure fun _ _ h => h
    | some preview => exact Triple.bind (Capture.owing_release _) fun _ => Capture.owing_release _

end Session

/-! ## Steps -/

namespace Adapter

theorem owing_monitorsFrom (limit : Nat) (index : UInt32) :
    Triple (Owing none) (monitorsFrom limit index)
      (fun listed => Owing (listed.bind unsettled?)) := by
  induction limit generalizing index with
  | zero => exact Triple.pure fun _ _ h => h
  | succ limit ih =>
      refine Triple.bind (owing_enumOutput index) ?_
      rintro (error | _ | output)
      · exact Triple.pure fun _ _ h => h
      · exact Triple.pure fun _ _ h => h
      · refine Triple.bind (owing_fallible fun _ => rfl) ?_
        rintro (error | description)
        · exact Triple.pure fun _ _ h => h
        · refine Triple.bind (ih (index + 1)) ?_
          rintro (_ | error | infos)
          · exact Triple.pure fun _ _ h => h
          · exact Triple.pure fun _ _ h => h
          · exact Triple.pure fun _ _ h => h

theorem unsettled_monitorInfo (index : UInt32) :
    Triple (Owing none) (monitorInfo index) Unsettled := by
  refine Triple.bind (unsettled_output index) ?_
  rintro (error | output)
  · exact Triple.pure fun _ _ h => h
  · refine Triple.bind (owing_fallible fun _ => rfl) ?_
    rintro (error | description)
    · exact Triple.pure fun _ _ h => h
    · exact Triple.pure fun _ _ h => h

/-- The search for a monitor tells of every output that it cannot look at. -/
theorem owing_indexFrom (monitor : MonitorHandle) (limit : Nat) (index : UInt32) :
    Triple (Owing none) (indexFrom monitor limit index) (fun _ => Owing none) := by
  induction limit generalizing index with
  | zero => exact Triple.pure fun _ _ h => h
  | succ limit ih =>
      refine Triple.bind (owing_enumOutput index) ?_
      rintro (error | _ | output)
      · refine Triple.bind (owing_tell [] rfl _ rfl) fun _ => ?_
        exact Triple.pure fun _ _ h => h
      · exact Triple.pure fun _ _ h => h
      · refine Triple.bind (owing_fallible fun _ => rfl) ?_
        rintro (error | description)
        · exact Triple.bind (owing_tell [] rfl _ rfl) fun _ => ih (index + 1)
        · dsimp only
          split
          · exact Triple.pure fun _ _ h => h
          · exact ih (index + 1)

end Adapter

/-- Using a handle owes nothing in the end.  Without a session there is nothing to destroy. -/
theorem Seat.owing_use (index : UInt32) (seat : Seat) (usage : HandleUse)
    (hat : ∀ session, seat = some session → session.IsAt index)
    (hlive : usage = .destroy → seat ≠ none) :
    Triple (Owing none) (seat.use index usage) (fun _ => Owing none) := by
  cases usage with
  | destroy =>
      refine Triple.bind ?_ fun _ => Triple.pure fun _ _ h => h
      cases seat with
      | none => exact absurd rfl (hlive rfl)
      | some session =>
          dsimp only [Seat.destroy]
          split
          · refine Triple.bind (owing_quiet rfl) fun _ => ?_
            exact Triple.bind session.owing_release fun _ => Triple.pure fun _ _ h => h
          · exact Triple.pure fun _ _ h => h
  | update =>
      refine Triple.bind ?_ fun _ => Triple.pure fun _ _ h => h
      cases seat with
      | none => exact Triple.pure fun _ _ h => h
      | some session =>
          exact Triple.bind (Session.owing_update (hat session rfl)) fun _ =>
            Triple.pure fun _ _ h => h
  | setVisible visible =>
      refine Triple.bind ?_ fun _ => Triple.pure fun _ _ h => h
      cases seat with
      | none => exact Triple.pure fun _ _ h => h
      | some session =>
          refine Triple.bind ?_ fun _ => Triple.pure fun _ _ h => h
          unfold Session.setPreviewVisible
          cases session.preview with
          | none => exact Triple.pure fun _ _ h => h
          | some preview =>
              refine Triple.bind ?_ fun _ => Triple.pure fun _ _ h => h
              exact Triple.bind (owing_setVisible _ _) fun _ => Triple.pure fun _ _ h => h
  | window step =>
      unfold Seat.use
      dsimp only
      split
      · exact Triple.pure fun _ _ h => h
      · exact Triple.pure fun _ _ h => h
  | _ => exact Triple.pure fun _ _ h => h

namespace Scenario

/-- The steps that answer with a failure in place of telling it. -/
def DuplicatorStep.asks : DuplicatorStep → Bool
  | .monitors | .monitorInfo _ => true
  | _ => false

namespace DuplicatorState

/-- What is owed at the end of a step is what its reply says. -/
def Replied (reply : Reply) : Assertion := fun past device =>
  ∃ cause, Owing cause past device ∧ ∀ error, cause = some error → reply = .error error

/-- Whoever is shown an answer is told what is owed with it. -/
theorem replied_ofExcept {α : Type} (view : α → Reply) {answer : Except CaptureError α}
    {past : List Entry} {device : Device} (howing : Unsettled answer past device) :
    Replied (.ofExcept view answer) past device := by
  match answer, howing with
  | .ok value, howing => exact ⟨none, howing, nofun⟩
  | .error (.notFound index), howing => exact ⟨none, howing, nofun⟩
  | .error (.platform error), howing =>
      refine ⟨some (.platform error), howing, ?_⟩
      rintro _ ⟨⟩
      rfl
  | .error .accessLost, howing => exact howing.elim
  | .error .timeout, howing => exact howing.elim

/-- The listing owes what it answers with, if it answers at all. -/
theorem unsettled_monitors :
    Triple (Owing none) Duplicator.monitors (fun listed => listed.elim (Owing none) Unsettled) := by
  have hlisted : Triple (Owing none) Adapter.monitors
      (fun listed => Owing (listed.bind unsettled?)) :=
    fun past device howing => Adapter.owing_monitorsFrom _ 0 past device howing
  refine Triple.bind hlisted ?_
  rintro (_ | error | infos)
  · exact Triple.pure fun _ _ h => h
  · exact Triple.pure fun _ _ h => h
  · exact Triple.pure fun _ _ h => h

/-- The listing is shown with what it owes. -/
theorem replied_monitors (duplicator : Duplicator) :
    Triple (Owing none)
      (do
        let listed ← Duplicator.monitors
        Pure.pure (Reply.ofReturned (.ofExcept .monitors) listed, duplicator))
      (fun answered => Replied answered.1) := by
  refine Triple.bind unsettled_monitors ?_
  rintro (_ | listed)
  · exact Triple.pure fun _ _ h => ⟨none, h, nofun⟩
  · exact Triple.pure fun _ _ h => replied_ofExcept .monitors h

/-- What is told of a monitor is shown with what it owes. -/
theorem replied_monitorInfo (index : UInt32) (duplicator : Duplicator) :
    Triple (Owing none)
      (do
        let info ← Duplicator.monitorInfo index
        Pure.pure (Reply.ofExcept .monitor info, duplicator))
      (fun answered => Replied answered.1) :=
  Triple.bind (Adapter.unsettled_monitorInfo index) fun _ =>
    Triple.pure fun _ _ h => replied_ofExcept .monitor h

theorem owing_monitorIndex (monitor : MonitorHandle) :
    Triple (Owing none) (Duplicator.monitorIndex monitor) (fun _ => Owing none) :=
  fun past device howing => Adapter.owing_indexFrom monitor _ 0 past device howing

theorem owing_releaseSessions (sessions : List Session) :
    Triple (Owing none) (Registry.releaseSessions sessions) (fun _ => Owing none) := by
  induction sessions with
  | nil => exact Triple.pure fun _ _ h => h
  | cons session others ih => exact Triple.bind session.owing_release fun _ => ih

/-- After a step nothing is owed but what its reply says, and that only if it asks. -/
theorem owing_step {state : DuplicatorState} (hsound : state.Sound)
    (hplaced : state.sessions.All Session.IsAt) {taken : DuplicatorStep}
    (hlive : ∀ index, taken = .use index .destroy → state.sessions.get? index ≠ none) :
    let done := state.step taken
    ∃ cause, Owing cause done.1.journal done.2.device ∧
      ∀ error, cause = some error → taken.asks = true ∧ done.1.reply = .error error := by
  have hnothing : ∀ device : Device, Owing none [] device := Accounted.nil
  obtain ⟨device, _ | duplicator, handles⟩ := state
  · cases taken <;> exact ⟨none, hnothing _, nofun⟩
  · cases taken with
    | monitors =>
        obtain ⟨cause, howing, hreply⟩ := replied_monitors duplicator [] device (hnothing device)
        exact ⟨cause, howing, fun error hcause => ⟨rfl, hreply error hcause⟩⟩
    | monitorInfo index =>
        obtain ⟨cause, howing, hreply⟩ :=
          replied_monitorInfo index duplicator [] device (hnothing device)
        exact ⟨cause, howing, fun error hcause => ⟨rfl, hreply error hcause⟩⟩
    | monitorIndex monitor =>
        have hfound := Triple.bind (owing_monitorIndex monitor) fun found =>
          Triple.pure fun _ _ h => h
        exact ⟨none, hfound [] device (hnothing device), nofun⟩
    | create index =>
        have hcreated := Seat.owing_create duplicator.registry.config index
          (duplicator.session? ⟨index⟩) [] device (hnothing device)
        refine ⟨none, ?_, nofun⟩
        simp only [step, DuplicatorState.create, duplicator.createSession_eq index device]
        exact hcreated
    | use index usage =>
        refine ⟨none, ?_, nofun⟩
        cases hhandle : handles.get? index with
        | none =>
            simp only [step, hhandle]
            exact hnothing device
        | some handle =>
            obtain rfl : handle = ⟨index⟩ := (hsound index).handle handle hhandle
            have hused := Seat.owing_use index (duplicator.session? ⟨index⟩) usage
              (fun session hsession => hplaced index session hsession)
              fun husage => hlive index (congrArg (DuplicatorStep.use index) husage)
            simp only [step, hhandle, perform, useHandle_eq]
            exact hused [] device (hnothing device)
    | drop =>
        have hreleased := owing_releaseSessions duplicator.registry.sessions.values
        exact ⟨none, hreleased [] device (hnothing device), nofun⟩
    | _ => exact ⟨none, hnothing _, nofun⟩

/-- Where no session is, to destroy it says so and does nothing else. -/
theorem destroy_vacant {state : DuplicatorState} (hsound : state.Sound) {index : UInt32}
    (hvacant : state.sessions.get? index = none) :
    ∀ entry ∈ (state.step (.use index .destroy)).1.journal,
      entry = .notice [] (.unregisteredRelease index) := by
  obtain ⟨device, _ | duplicator, handles⟩ := state
  · exact List.forall_mem_nil _
  · cases hhandle : handles.get? index with
    | none =>
        simp only [step, hhandle]
        exact List.forall_mem_nil _
    | some handle =>
        obtain rfl : handle = ⟨index⟩ := (hsound index).handle handle hhandle
        have hseat : duplicator.session? ⟨index⟩ = none := hvacant
        simp only [step, hhandle, perform, useHandle_eq, hseat]
        exact List.forall_mem_singleton.mpr rfl

/-- A creation on a monitor that does not exist gives no alarm. -/
theorem create_missing {state : DuplicatorState} {index : UInt32}
    (hmissing : (enumOutput index state.device).value = .ok none) :
    ∀ entry ∈ (state.step (.create index)).1.journal, entry.isCalm = true := by
  obtain ⟨device, _ | duplicator, handles⟩ := state
  · exact List.forall_mem_nil _
  · simp only [step, DuplicatorState.create, duplicator.createSession_eq index device]
    exact Seat.calm_create_missing _ _ hmissing

/-- No failure is silent and no alarm is false.  A step that does not answer with its
failures tells each of them as a warning or graver: by the text of its cause, or by the
monitor whose access is lost.  An alarm is given only where a call failed or a handle
without a session is released, and so none when a session is asked for on a monitor that
does not exist. -/
theorem failures_are_told (outputs : List OutputConfig) (config : SessionConfig)
    (before : List DuplicatorStep) (taken : DuplicatorStep) :
    let state := after outputs config before
    let done := (state.step taken).1
    (∀ call error, .call call (.failed error) ∈ done.journal → error ≠ .timeout →
      (∃ spans notice, .notice spans notice ∈ done.journal ∧ notice.Tells call error) ∨
        taken.asks = true ∧ done.reply = .error error) ∧
    (∀ spans notice, .notice spans notice ∈ done.journal → notice.isAlarm = true →
      (∃ call error, .call call (.failed error) ∈ done.journal ∧ error ≠ .timeout) ∨
        ∃ index, taken = .use index .destroy ∧ state.sessions.get? index = none) ∧
    ∀ index, taken = .create index → (enumOutput index state.device).value = .ok none →
      ∀ spans notice, .notice spans notice ∈ done.journal → notice.isAlarm = false := by
  intro state done
  have hsound : state.Sound := sound_after outputs config before
  have hplaced : state.sessions.All Session.IsAt :=
    placed.after_steps outputs config .empty before
  refine ⟨?_, ?_, ?_⟩
  · intro call error hfailed herror
    by_cases hvacant : ∃ index, taken = .use index .destroy ∧ state.sessions.get? index = none
    · obtain ⟨index, rfl, hnone⟩ := hvacant
      cases destroy_vacant hsound hnone _ hfailed
    · obtain ⟨cause, howing, hreply⟩ := owing_step hsound hplaced fun index htaken hnone =>
        hvacant ⟨index, htaken, hnone⟩
      rcases howing.told call error hfailed herror with hcause | htold
      · exact .inr (hreply error hcause)
      · exact .inl htold
  · intro spans notice hnotice halarm
    by_cases hvacant : ∃ index, taken = .use index .destroy ∧ state.sessions.get? index = none
    · exact .inr hvacant
    · obtain ⟨cause, howing, -⟩ := owing_step hsound hplaced fun index htaken hnone =>
        hvacant ⟨index, htaken, hnone⟩
      exact .inl (howing.caused spans notice hnotice halarm)
  · rintro index rfl hmissing spans notice hnotice
    have hcalm := create_missing hmissing _ hnotice
    simpa [Entry.isCalm] using hcalm

/-- A frame that has no texture and cannot be handed back is two failures and two alarms. -/
example :
    let steps : List DuplicatorStep := [.create 0, .world (.queueFault .releaseFrame 5),
      .world (.pushFrames 0 [.notTexture])]
    let polled := ((after singleOutputDevice.outputs .standard steps).step (.use 0 .update)).1
    polled.journal.countP (fun entry => !entry.isCalm) = 4 := by
  decide +kernel

end DuplicatorState
end Scenario
end DesktopCapture
