import DesktopCapture.Proofs.Conduct

/-!
# The frames of a journal

A journal tells which frame of a monitor was taken last: a frame is acquired from
the monitor, its texture is got, and perhaps no texture can be allocated to cache it
in.  A new duplication of the monitor begins anew.  What a session caches is said in
terms of this history and of the copies the device has made.
-/

namespace DesktopCapture

/-- A frame whose texture was got. -/
structure TakenFrame where
  texture : Texture
  /-- No texture could be allocated to cache it in. -/
  unallocated : Bool

/-- What a journal tells of frames. -/
structure FrameHistory where
  /-- The monitor the last frame was acquired from. -/
  source : Option UInt32
  /-- The last frame taken from a monitor since it was duplicated. -/
  latest : UInt32 → Option TakenFrame

namespace FrameHistory

/-- The history before anything was taken. -/
def blank : FrameHistory := ⟨none, fun _ => none⟩

/-- Another last frame for a monitor. -/
def put (latest : UInt32 → Option TakenFrame) (index : UInt32) (frame : Option TakenFrame) :
    UInt32 → Option TakenFrame :=
  fun other => if other = index then frame else latest other

/-- Change the last frame of the monitor the last frame was acquired from. -/
def change (history : FrameHistory) (frame : Option TakenFrame → Option TakenFrame) :
    FrameHistory :=
  match history.source with
  | some output => ⟨some output, put history.latest output (frame (history.latest output))⟩
  | none => history

/-- The history after one more entry. -/
def after (history : FrameHistory) : Entry → FrameHistory
  | .call (.duplicateWithFormats output _) .done | .call (.duplicate output) .done =>
    { history with latest := put history.latest output none }
  | .call (.acquire output _) .done => { history with source := some output }
  | .call .frameTexture (.texture texture) => history.change fun _ => some ⟨texture, false⟩
  | .call (.createTexture ..) (.failed _) =>
    history.change fun frame => frame.map fun taken => { taken with unallocated := true }
  | _ => history

/-- The history a journal tells. -/
def ofJournal (journal : List Entry) : FrameHistory := journal.foldl after blank

theorem ofJournal_append_singleton (past : List Entry) (entry : Entry) :
    ofJournal (past ++ [entry]) = (ofJournal past).after entry := by
  rw [ofJournal, List.foldl_append]
  rfl

@[simp] theorem put_self (latest : UInt32 → Option TakenFrame) (index : UInt32)
    (frame : Option TakenFrame) : put latest index frame index = frame := if_pos rfl

theorem put_other (latest : UInt32 → Option TakenFrame) {index other : UInt32}
    (frame : Option TakenFrame) (hother : other ≠ index) :
    put latest index frame other = latest other := if_neg hother

theorem put_put (latest : UInt32 → Option TakenFrame) (index : UInt32)
    (first second : Option TakenFrame) :
    put (put latest index first) index second = put latest index second := by
  funext other
  by_cases hother : other = index
  · rw [hother, put_self, put_self]
  · rw [put_other _ _ hother, put_other _ _ hother, put_other _ _ hother]

/-- Entries that tell of no frame leave what the journal tells. -/
theorem ofJournal_append (past : List Entry) {written : List Entry}
    (hwritten : ∀ entry ∈ written, ∀ history : FrameHistory, history.after entry = history) :
    ofJournal (past ++ written) = ofJournal past := by
  induction written generalizing past with
  | nil => rw [List.append_nil]
  | cons entry rest ih =>
      have hentry := hwritten entry List.mem_cons_self
      have hrest := ih (past ++ [entry])
        fun other hother => hwritten other (List.mem_cons_of_mem _ hother)
      rw [List.append_assoc, List.singleton_append] at hrest
      rw [hrest, ofJournal_append_singleton, hentry]

theorem after_of_isAside (history : FrameHistory) {entry : Entry}
    (haside : entry.isAside = true) : history.after entry = history := by
  unfold Entry.isAside at haside
  split at haside <;> first | rfl | cases haside

end FrameHistory

/-- A cache shows a frame: it holds a texture unless there is no frame or none could
be allocated, and the texture has the size and the general format of the frame, which
was the last to be copied into it. -/
structure Shows (frame : Option TakenFrame) (cache : FrameCache)
    (copies : List (Nat × Nat)) : Prop where
  absent : cache.texture = none ↔ ∀ taken, frame = some taken → taken.unallocated = true
  present : ∀ texture, cache.texture = some texture → ∃ taken, frame = some taken ∧
    texture.size = taken.texture.size ∧ cache.size = taken.texture.size ∧
    cache.format = .cached taken.texture.format ∧ texture.format = cache.format.native ∧
    (copies.filter fun copy => copy.1 = texture.id).getLast? =
      some (texture.id, taken.texture.id)

/-! ## Actions that take no frame -/

namespace Capture

variable {α β : Type}

/-- An action that takes no frame and copies none. -/
structure TakesNoFrame (action : Capture α) : Prop where
  latest : ∀ past device, (FrameHistory.ofJournal (past ++ (action device).journal)).latest =
    (FrameHistory.ofJournal past).latest
  copies : ∀ device, (action device).device.copies = device.copies

namespace TakesNoFrame

theorem pure (value : α) : TakesNoFrame (pure value) where
  latest := by
    intro past device
    rw [pure_apply, List.append_nil]
  copies := fun _ => rfl

theorem bind {first : Capture α} {next : α → Capture β} (hfirst : first.TakesNoFrame)
    (hnext : ∀ value, (next value).TakesNoFrame) : (first >>= next).TakesNoFrame where
  latest := by
    intro past device
    rw [bind_apply, ← List.append_assoc, (hnext _).latest, hfirst.latest]
  copies := fun device => ((hnext _).copies _).trans (hfirst.copies device)

theorem of_entry {action : Capture α}
    (hentry : ∀ device, ∃ entry, (action device).journal = [entry] ∧
      ∀ history : FrameHistory, (history.after entry).latest = history.latest)
    (hcopies : ∀ device, (action device).device.copies = device.copies) :
    action.TakesNoFrame where
  latest := by
    intro past device
    obtain ⟨entry, hjournal, hafter⟩ := hentry device
    rw [hjournal, FrameHistory.ofJournal_append_singleton, hafter]
  copies := hcopies

theorem notify (spans : List Span) (notice : Notice) :
    (notify spans notice).TakesNoFrame :=
  of_entry (fun _ => ⟨_, rfl, fun _ => rfl⟩) fun _ => rfl

theorem endSpan (spans : List Span) : (endSpan spans).TakesNoFrame :=
  of_entry (fun _ => ⟨_, rfl, fun _ => rfl⟩) fun _ => rfl

theorem release (object : Release) : (release object).TakesNoFrame :=
  of_entry (fun _ => ⟨_, rfl, fun _ => rfl⟩) fun _ => rfl

theorem fallible {point : FaultPoint} {call : Call} {answer : α → Answer}
    {act : Device → Except PlatformError (α × Device)}
    (hafter : ∀ (history : FrameHistory) given,
      (history.after (.call call given)).latest = history.latest)
    (hact : ∀ device value device', act device = .ok (value, device') →
      device'.copies = device.copies) :
    (fallible point call answer act).TakesNoFrame := by
  constructor
  · intro past device
    unfold Capture.fallible
    split
    · exact (FrameHistory.ofJournal_append_singleton _ _).symm ▸ hafter _ _
    · split
      · exact (FrameHistory.ofJournal_append_singleton _ _).symm ▸ hafter _ _
      · exact (FrameHistory.ofJournal_append_singleton _ _).symm ▸ hafter _ _
  · intro device
    unfold Capture.fallible
    split
    · rfl
    · split
      · next hdone => exact hact device _ _ hdone
      · rfl

theorem of_isAside {action : Capture α} (haside : action.IsAside) :
    action.TakesNoFrame where
  latest := by
    intro past device
    rw [FrameHistory.ofJournal_append]
    intro entry hentry history
    exact history.after_of_isAside (haside.entries device entry hentry)
  copies := fun device => (haside.beside device).copies

end TakesNoFrame
end Capture

/-! ## Assertions on frames -/

/-- What is said of the last frames and the copies. -/
def OfFrames (said : (UInt32 → Option TakenFrame) → List (Nat × Nat) → Prop) : Assertion :=
  fun past device => said (FrameHistory.ofJournal past).latest device.copies

/-- The last frames and the copies are these. -/
def Recorded (latest : UInt32 → Option TakenFrame) (copies : List (Nat × Nat)) : Assertion :=
  OfFrames fun latest' copies' => latest' = latest ∧ copies' = copies

/-- The last frames and the copies are these, and a frame of a monitor was acquired. -/
def Acquired (output : UInt32) (latest : UInt32 → Option TakenFrame)
    (copies : List (Nat × Nat)) : Assertion :=
  fun past device => FrameHistory.ofJournal past = ⟨some output, latest⟩ ∧
    device.copies = copies

/-- What is said after a failure, and what otherwise. -/
abbrev onResult {ε α : Type} (failed done : Assertion) : Except ε α → Assertion
  | .ok _ => done
  | .error _ => failed

section

variable {output : UInt32} {latest : UInt32 → Option TakenFrame} {copies : List (Nat × Nat)}

theorem Acquired.recorded {past : List Entry} {device : Device}
    (hacquired : Acquired output latest copies past device) :
    Recorded latest copies past device := by
  refine ⟨?_, hacquired.2⟩
  rw [hacquired.1]

/-- What is recorded after one more entry. -/
theorem Recorded.append {past : List Entry} {device device' : Device} {entry : Entry}
    {latest' : UInt32 → Option TakenFrame} {copies' : List (Nat × Nat)}
    (hrecorded : Recorded latest copies past device)
    (hafter : ∀ history : FrameHistory, history.latest = latest →
      (history.after entry).latest = latest')
    (hcopies : device.copies = copies → device'.copies = copies') :
    Recorded latest' copies' (past ++ [entry]) device' := by
  obtain ⟨hlatest, hcopied⟩ := hrecorded
  refine ⟨?_, hcopies hcopied⟩
  rw [FrameHistory.ofJournal_append_singleton]
  exact hafter _ hlatest

/-- What is acquired after one more entry. -/
theorem Acquired.append {past : List Entry} {device device' : Device} {entry : Entry}
    {latest' : UInt32 → Option TakenFrame}
    (hacquired : Acquired output latest copies past device)
    (hafter : (FrameHistory.mk (some output) latest).after entry = ⟨some output, latest'⟩)
    (hcopies : device'.copies = device.copies) :
    Acquired output latest' copies (past ++ [entry]) device' := by
  obtain ⟨hhistory, hcopied⟩ := hacquired
  refine ⟨?_, hcopies.trans hcopied⟩
  rw [FrameHistory.ofJournal_append_singleton, hhistory]
  exact hafter

namespace Capture

theorem TakesNoFrame.triple {α : Type} {action : Capture α} (haction : action.TakesNoFrame)
    {said : (UInt32 → Option TakenFrame) → List (Nat × Nat) → Prop} :
    Triple (OfFrames said) action (fun _ => OfFrames said) := by
  intro past device h
  change said _ _
  rw [haction.latest, haction.copies]
  exact h

theorem frames_duplicateWithFormats (found : Output) (formats : List NativeFormat) :
    Triple (Recorded latest copies) (duplicateWithFormats found formats) (fun
      | .ok (some _) => Recorded (FrameHistory.put latest found.index none) copies
      | _ => Recorded latest copies) := by
  apply Triple.fallible
  · intro past device faults error h
    exact h.append (fun _ hlatest => hlatest) fun hcopies => hcopies
  · intro past device duplication device' h hact
    obtain ⟨-, rfl, rfl⟩ | ⟨-, -, rfl, rfl⟩ := Device.duplicateWithFormats_ok hact
    · exact h.append (fun _ hlatest => hlatest) fun hcopies => hcopies
    · refine h.append ?_ fun hcopies => hcopies
      rintro history rfl
      rfl

theorem frames_duplicate (found : Output) :
    Triple (Recorded latest copies) (duplicate found) (onResult (Recorded latest copies)
      (Recorded (FrameHistory.put latest found.index none) copies)) := by
  apply Triple.fallible
  · intro past device faults error h
    exact h.append (fun _ hlatest => hlatest) fun hcopies => hcopies
  · intro past device duplication device' h hact
    obtain ⟨-, rfl, rfl⟩ := Device.duplicate_ok hact
    refine h.append ?_ fun hcopies => hcopies
    rintro history rfl
    rfl

theorem frames_acquire (duplication : Duplication) (timeoutMs : UInt32) :
    Triple (Recorded latest copies) (acquire duplication timeoutMs)
      (onResult (Recorded latest copies) (Acquired duplication.output latest copies)) := by
  intro past device h
  have hcopies : (device.acquire duplication).2.copies = device.copies := by
    obtain ⟨heldFrames, hdevice⟩ := Device.acquire_device duplication device
    rw [hdevice]
  unfold acquire
  dsimp only
  split
  · exact h.append (fun _ hlatest => hlatest) fun hcopied => hcopied
  · split
    · next hdone =>
      rw [hdone] at hcopies
      obtain ⟨hlatest, hcopied⟩ := h
      refine ⟨?_, hcopies.trans hcopied⟩
      rw [FrameHistory.ofJournal_append_singleton, ← hlatest]
      rfl
    · next hdone =>
      rw [hdone] at hcopies
      exact h.append (fun _ hlatest => hlatest) hcopies.trans

/-- The texture of an acquired frame makes it the last one taken. -/
theorem frames_frameTexture (resource : FrameResource) :
    Triple (Acquired output latest copies) (frameTexture resource) (fun
      | .ok texture =>
        Acquired output (FrameHistory.put latest output (some ⟨texture, false⟩)) copies
      | .error _ => Recorded latest copies) := by
  apply Triple.fallible
  · intro past device faults error h
    exact (h.append rfl rfl).recorded
  · intro past device texture device' h hact
    obtain ⟨size, format, -, rfl, rfl⟩ := Device.frameTexture_ok hact
    exact h.append rfl rfl

theorem frames_createTexture (size : Size) (format : ColorFormat) :
    Triple (Acquired output latest copies) (createTexture size format) (fun
      | .ok texture => fun past device => Acquired output latest copies past device ∧
        texture.size = size ∧ texture.format = format.native
      | .error _ => Recorded (FrameHistory.put latest output
        ((latest output).map fun taken => { taken with unallocated := true })) copies) := by
  apply Triple.fallible
  · intro past device faults error h
    exact (h.append rfl rfl).recorded
  · intro past device texture device' h hact
    obtain ⟨-, rfl, rfl⟩ := Device.createTexture_ok hact
    exact ⟨h.append rfl rfl, rfl, rfl⟩

theorem frames_copyTexture (destination source : Texture) :
    Triple (Recorded latest copies) (copyTexture destination source)
      (fun _ => Recorded latest (copies ++ [(destination.id, source.id)])) := by
  intro past device h
  refine h.append (fun _ hlatest => hlatest) ?_
  rintro rfl
  rfl

/-- Entries that tell nothing of frames leave the acquired frame the last one. -/
theorem frames_note {entry : Entry}
    (hentry : ∀ history : FrameHistory, history.after entry = history) :
    Triple (Acquired output latest copies) (note entry)
      (fun _ => Acquired output latest copies) :=
  fun _ _ h => h.append (hentry _) rfl

theorem frames_release (object : Release) :
    Triple (Acquired output latest copies) (release object)
      (fun _ => Acquired output latest copies) :=
  fun _ _ h => h.append rfl rfl

end Capture
end
end DesktopCapture
