import DesktopCapture.Proofs.Triple

/-!
# Accounts of failures

An operation tells a failure to the log at once or hands it on to its caller.  Until a
failure is told it is owed, and an operation owes at most one at a time: the one that its
value is.  What is told of it is an alarm, a warning or graver, with the text of its cause;
in turn an alarm is given only while a failure is owed.
-/

namespace DesktopCapture

/-- A notice that warns of something, or is graver. -/
def Notice.isAlarm (notice : Notice) : Bool := notice.level.isRecorded .warn

/-- The notice tells of the failure of a call: of the monitor whose access is lost, or of
any other cause by its text. -/
def Notice.Tells (notice : Notice) (call : Call) : CaptureError → Prop
  | .accessLost => ∃ output timeoutMs, call = .acquire output timeoutMs ∧
      notice.level = .warn ∧
      notice.text = "Lost duplication access for monitor " ++ toString output.toNat
  | error => notice.isAlarm = true ∧ ∃ lead, notice.text = lead ++ error.message

/-- The entries that call for nothing: calls that do not fail, or only because no frame is
ready, and what is told short of an alarm. -/
def Entry.isCalm : Entry → Bool
  | .call _ (.failed error) => error = .timeout
  | .notice _ told => !told.isAlarm
  | _ => true

/-- Every failure in a journal is told there or owed, and every alarm has a failure as its
cause.  What is owed did fail. -/
structure Accounted (owed : Option (Call × CaptureError)) (past : List Entry)
    (device : Device) : Prop where
  told : ∀ call error, .call call (.failed error) ∈ past → error ≠ .timeout →
    owed = some (call, error) ∨ ∃ spans notice, .notice spans notice ∈ past ∧
      notice.Tells call error
  caused : ∀ spans notice, .notice spans notice ∈ past → notice.isAlarm = true →
    ∃ call error, .call call (.failed error) ∈ past ∧ error ≠ .timeout
  failed : ∀ call error, owed = some (call, error) →
    .call call (.failed error) ∈ past ∧ error ≠ .timeout

/-- What is owed is this cause, whichever call it was. -/
def Owing : Option CaptureError → Assertion
  | none => Accounted none
  | some error => fun past device => ∃ call, Accounted (some (call, error)) past device

theorem Owing.told {cause : Option CaptureError} {past : List Entry} {device : Device}
    (howing : Owing cause past device) (call : Call) (error : CaptureError)
    (hfailed : .call call (.failed error) ∈ past) (herror : error ≠ .timeout) :
    cause = some error ∨ ∃ spans notice, .notice spans notice ∈ past ∧
      notice.Tells call error := by
  cases cause with
  | none =>
      rcases Accounted.told howing call error hfailed herror with howed | htold
      · cases howed
      · exact .inr htold
  | some owed =>
      obtain ⟨caller, haccounted⟩ := howing
      rcases haccounted.told call error hfailed herror with howed | htold
      · cases howed
        exact .inl rfl
      · exact .inr htold

theorem Owing.caused {cause : Option CaptureError} {past : List Entry} {device : Device}
    (howing : Owing cause past device) (spans : List Span) (notice : Notice)
    (hnotice : .notice spans notice ∈ past) (halarm : notice.isAlarm = true) :
    ∃ call error, .call call (.failed error) ∈ past ∧ error ≠ .timeout := by
  cases cause with
  | none => exact Accounted.caused howing spans notice hnotice halarm
  | some owed =>
      obtain ⟨caller, haccounted⟩ := howing
      exact haccounted.caused spans notice hnotice halarm

namespace Accounted

variable {owed owed' : Option (Call × CaptureError)} {past journal : List Entry}
  {device : Device}

theorem nil (device : Device) : Accounted none [] device where
  told := nofun
  caused := nofun
  failed := nofun

/-- More is accounted for if what fails in it, or was owed, is told in it or owed now. -/
theorem append (haccounted : Accounted owed past device)
    (htold : ∀ call error, error ≠ .timeout →
      .call call (.failed error) ∈ journal ∨ owed = some (call, error) →
        owed' = some (call, error) ∨ ∃ spans notice, .notice spans notice ∈ journal ∧
          notice.Tells call error)
    (hcaused : ∀ spans notice, .notice spans notice ∈ journal → notice.isAlarm = true →
      ∃ call error, .call call (.failed error) ∈ past ∧ error ≠ .timeout)
    (hfailed : ∀ call error, owed' = some (call, error) →
      .call call (.failed error) ∈ past ++ journal ∧ error ≠ .timeout)
    (device' : Device) : Accounted owed' (past ++ journal) device' where
  told := by
    intro call error hentry herror
    have hdue : .call call (.failed error) ∈ journal ∨ owed = some (call, error) ∨
        ∃ spans notice, .notice spans notice ∈ past ∧ notice.Tells call error := by
      rcases List.mem_append.mp hentry with hpast | hnew
      · exact .inr (haccounted.told call error hpast herror)
      · exact .inl hnew
    rcases or_assoc.mpr hdue with hopen | ⟨spans, notice, hnotice, htells⟩
    · rcases htold call error herror hopen with howed | ⟨spans, notice, hnotice, htells⟩
      · exact .inl howed
      · exact .inr ⟨spans, notice, List.mem_append_right _ hnotice, htells⟩
    · exact .inr ⟨spans, notice, List.mem_append_left _ hnotice, htells⟩
  caused := by
    intro spans notice hnotice halarm
    have hcause : ∃ call error, .call call (.failed error) ∈ past ∧ error ≠ .timeout := by
      rcases List.mem_append.mp hnotice with hpast | hnew
      · exact haccounted.caused spans notice hpast halarm
      · exact hcaused spans notice hnew halarm
    obtain ⟨call, error, hentry, herror⟩ := hcause
    exact ⟨call, error, List.mem_append_left _ hentry, herror⟩
  failed := hfailed

/-- What was owed is still in the journal when more is written. -/
theorem failed_append (haccounted : Accounted owed past device) (journal : List Entry) :
    ∀ call error, owed = some (call, error) →
      .call call (.failed error) ∈ past ++ journal ∧ error ≠ .timeout := by
  intro call error howed
  obtain ⟨hentry, herror⟩ := haccounted.failed call error howed
  exact ⟨List.mem_append_left _ hentry, herror⟩

theorem append_calm (haccounted : Accounted owed past device)
    (hcalm : ∀ entry ∈ journal, entry.isCalm = true) (device' : Device) :
    Accounted owed (past ++ journal) device' := by
  refine haccounted.append ?_ ?_ (haccounted.failed_append journal) device'
  · rintro call error herror (hnew | howed)
    · exact absurd (by simpa [Entry.isCalm] using hcalm _ hnew) herror
    · exact .inl howed
  · intro spans notice hnotice halarm
    have hquiet : (!notice.isAlarm) = true := hcalm _ hnotice
    rw [halarm] at hquiet
    cases hquiet

/-- A failure is owed from its call on. -/
theorem append_failed (haccounted : Accounted none past device) (call : Call)
    {error : CaptureError} (herror : error ≠ .timeout) (device' : Device) :
    Accounted (some (call, error)) (past ++ [.call call (.failed error)]) device' := by
  refine haccounted.append ?_ ?_ ?_ device'
  · rintro _ _ - (hnew | howed)
    · cases List.mem_singleton.mp hnew
      exact .inl rfl
    · cases howed
  · intro spans notice hnotice
    cases List.mem_singleton.mp hnotice
  · rintro _ _ ⟨⟩
    exact ⟨by simp, herror⟩

variable {call : Call} {error : CaptureError}

/-- An alarm has a cause while a failure is owed. -/
theorem append_notice (haccounted : Accounted (some (call, error)) past device)
    (spans : List Span) (notice : Notice) (device' : Device) :
    Accounted (some (call, error)) (past ++ [.notice spans notice]) device' := by
  refine haccounted.append ?_ ?_ (haccounted.failed_append _) device'
  · rintro _ _ - (hnew | howed)
    · cases List.mem_singleton.mp hnew
    · exact .inl howed
  · intro _ _ _ _
    exact ⟨call, error, haccounted.failed call error rfl⟩

/-- A failure that is told is owed no more. -/
theorem append_telling (haccounted : Accounted (some (call, error)) past device)
    (spans : List Span) {notice : Notice} (htells : notice.Tells call error)
    (device' : Device) : Accounted none (past ++ [.notice spans notice]) device' := by
  refine haccounted.append ?_ ?_ ?_ device'
  · rintro _ _ - (hnew | howed)
    · cases List.mem_singleton.mp hnew
    · cases howed
      exact .inr ⟨spans, notice, List.mem_singleton.mpr rfl, htells⟩
  · intro _ _ _ _
    exact ⟨call, error, haccounted.failed call error rfl⟩
  · exact nofun

end Accounted

/-! ## Rules -/

namespace Capture

variable {α : Type} {cause : Option CaptureError}

/-- What calls for nothing leaves what is owed. -/
theorem owing_calm {action : Capture α}
    (hcalm : ∀ device, ∀ entry ∈ (action device).journal, entry.isCalm = true) :
    Triple (Owing cause) action (fun _ => Owing cause) := by
  intro past device howing
  cases cause with
  | none => exact Accounted.append_calm howing (hcalm device) _
  | some error =>
      obtain ⟨call, haccounted⟩ := howing
      exact ⟨call, haccounted.append_calm (hcalm device) _⟩

theorem owing_quiet {spans : List Span} {notice : Notice} (hquiet : notice.isAlarm = false) :
    Triple (Owing cause) (notify spans notice) (fun _ => Owing cause) := by
  refine owing_calm fun device => List.forall_mem_singleton.mpr ?_
  rw [Entry.isCalm, hquiet]
  rfl

theorem owing_endSpan (spans : List Span) :
    Triple (Owing cause) (endSpan spans) (fun _ => Owing cause) :=
  owing_calm fun _ => List.forall_mem_singleton.mpr rfl

theorem owing_release (object : Release) :
    Triple (Owing cause) (release object) (fun _ => Owing cause) :=
  owing_calm fun _ => List.forall_mem_singleton.mpr rfl

theorem owing_setVisible (window : Window) (visible : Bool) :
    Triple (Owing cause) (setVisible window visible) (fun _ => Owing cause) :=
  owing_calm fun _ => List.forall_mem_singleton.mpr rfl

/-- While a failure is owed, whatever notice may be given. -/
theorem owing_notify {error : CaptureError} (spans : List Span) (notice : Notice) :
    Triple (Owing (some error)) (notify spans notice) (fun _ => Owing (some error)) := by
  rintro past device ⟨call, haccounted⟩
  exact ⟨call, haccounted.append_notice spans notice device⟩

/-- A notice that tells of what is owed leaves nothing owed. -/
theorem accounted_tell {call : Call} {error : CaptureError} (spans : List Span)
    {notice : Notice} (htells : notice.Tells call error) :
    Triple (Accounted (some (call, error))) (notify spans notice) (fun _ => Owing none) := by
  intro past device haccounted
  exact haccounted.append_telling spans htells device

theorem owing_tell {error : PlatformError} (spans : List Span) {notice : Notice}
    (halarm : notice.isAlarm = true) (lead : String)
    (htext : notice.text = lead ++ error.message) :
    Triple (Owing (some (.platform error))) (notify spans notice) (fun _ => Owing none) := by
  rintro past device ⟨call, haccounted⟩
  have htells : notice.Tells call (.platform error) := ⟨halarm, lead, htext⟩
  exact accounted_tell spans htells past device haccounted

/-- What is owed after a platform call. -/
def unsettled? : Except PlatformError α → Option CaptureError
  | .error error => some (.platform error)
  | .ok _ => none

theorem owing_fallible {point : FaultPoint} {call : Call} {answer : α → Answer}
    {act : Device → Except PlatformError (α × Device)}
    (hanswer : ∀ value, (Entry.call call (answer value)).isCalm = true) :
    Triple (Owing none) (fallible point call answer act)
      (fun result => Owing (unsettled? result)) := by
  apply Triple.fallible
  · intro past device faults error howing
    have herror : CaptureError.platform error ≠ .timeout := nofun
    exact ⟨call, Accounted.append_failed howing call herror _⟩
  · intro past device value device' howing hact
    exact Accounted.append_calm howing (List.forall_mem_singleton.mpr (hanswer value)) _

/-- What is owed after an acquisition.  That no frame is ready is no failure. -/
theorem owing_acquire (duplication : Duplication) (timeoutMs : UInt32) :
    Triple (Owing none) (acquire duplication timeoutMs) fun
      | .ok _ | .error .timeout => Owing none
      | .error error => Accounted (some (.acquire duplication.output timeoutMs, error)) := by
  intro past device howing
  rcases acquire_cases duplication timeoutMs device with
    ⟨error, device', hacquired⟩ | ⟨resource, device', hacquired⟩
  · rw [hacquired]
    have howed : error ≠ .timeout → Accounted
        (some (.acquire duplication.output timeoutMs, error))
        (past ++ [.call (.acquire duplication.output timeoutMs) (.failed error)]) device' :=
      fun herror => Accounted.append_failed howing _ herror device'
    cases error with
    | timeout =>
        exact Accounted.append_calm howing (List.forall_mem_singleton.mpr rfl) device'
    | _ => exact howed nofun
  · rw [hacquired]
    exact Accounted.append_calm howing (List.forall_mem_singleton.mpr rfl) device'

/-- What is owed for a cause that a query or a start hands on: a platform failure, but not
that there is no output.  Other causes do not occur. -/
def Pending : CaptureError → Assertion
  | .platform error => Owing (some (.platform error))
  | .notFound _ => Owing none
  | _ => fun _ _ => False

/-- What is owed after a query or a start. -/
def Unsettled : Except CaptureError α → Assertion
  | .error cause => Pending cause
  | .ok _ => Owing none

theorem unsettled_calm {β : Type} {result : Except CaptureError α} {action : Capture β}
    (hcalm : ∀ device, ∀ entry ∈ (action device).journal, entry.isCalm = true) :
    Triple (Unsettled result) action (fun _ => Unsettled result) := by
  have hkept : ∀ cause, Triple (Owing cause) action (fun _ => Owing cause) :=
    fun _ => owing_calm hcalm
  rcases result with (index | error | _ | _) | value
  · exact hkept none
  · exact hkept (some (.platform error))
  · exact fun _ _ h => h.elim
  · exact fun _ _ h => h.elim
  · exact hkept none

end Capture
end DesktopCapture
