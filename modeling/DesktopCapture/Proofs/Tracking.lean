import DesktopCapture.Proofs.Renumbering

/-!
# The same under other numbers

An operation on a monitor reads little of the device: the script, the outcomes to come
for that monitor, and the bound target.  On two devices that agree in these it takes the
same course, and only the numbers it is given differ.  One run tracks another if a map
of numbers takes all that the one writes and yields to what the other does.

The map has to take the numbers that are given out in the one run to those of the
other, in their order; of the numbers given out elsewhere nothing is asked.
-/

namespace DesktopCapture

open Capture Scenario

/-- Two devices that look the same to the operations on a monitor, with no fault queued. -/
structure Device.SameView (index : UInt32) (device device' : Device) : Prop where
  setting : device.SameSetting device'
  faults : device.faults = .none
  frames : device'.frames index = device.frames index

/-- The numbers that a journal gives out on one device are taken to those it gives out on
another. -/
def Numbered (names : Nat → Nat) (device device' : Device) (journal : List Entry) : Prop :=
  ∀ n, n < journal.countP Entry.isNumbering →
    names (device.lastId + 1 + n) = device'.lastId + 1 + n

section

variable {names : Nat → Nat} {index : UInt32} {device device' : Device}

namespace Device.SameView

theorem faults' (hview : device.SameView index device') : device'.faults = .none := by
  rw [hview.setting.faults, hview.faults]

theorem symm (hview : device.SameView index device') : device'.SameView index device :=
  ⟨hview.setting.symm, hview.faults', hview.frames.symm⟩

theorem replay (hview : device.SameView index device') (journal : List Entry) :
    (journal.foldl Device.replay device).SameView index
      ((journal.map (Entry.renumber names)).foldl Device.replay device') where
  setting := ((sameSetting_replay journal device).symm.trans hview.setting).trans
    (sameSetting_replay _ device')
  faults := by rw [(sameSetting_replay journal device).faults, hview.faults]
  frames := by
    have hpolled : ∀ entry : Entry, decide ((entry.renumber names).polled? = some index) =
        decide (entry.polled? = some index) := by
      intro entry
      rw [(entry.sameKind_renumber names).polled]
    rw [foldl_replay_frames, foldl_replay_frames, countP_renumber hpolled, hview.frames]

end Device.SameView

theorem Numbered.left {before after : List Entry}
    (hnumbered : Numbered names device device' (before ++ after)) :
    Numbered names device device' before := by
  intro n hn
  refine hnumbered n ?_
  rw [List.countP_append]
  exact Nat.lt_add_right _ hn

theorem Numbered.right {before after : List Entry}
    (hnumbered : Numbered names device device' (before ++ after)) :
    Numbered names (before.foldl Device.replay device)
      ((before.map (Entry.renumber names)).foldl Device.replay device') after := by
  have hsame : (before.map (Entry.renumber names)).countP Entry.isNumbering =
      before.countP Entry.isNumbering :=
    countP_renumber (fun entry => (entry.sameKind_renumber names).isNumbering) before
  intro n hn
  have hlater := hnumbered (before.countP Entry.isNumbering + n) (by
    rw [List.countP_append]
    omega)
  rw [Device.foldl_replay_lastId, Device.foldl_replay_lastId, hsame]
  have hleft : device.lastId + before.countP Entry.isNumbering + 1 + n =
      device.lastId + 1 + (before.countP Entry.isNumbering + n) := by omega
  rw [hleft, hlater]
  omega

end

namespace Capture

variable {α β γ δ : Type} {names : Nat → Nat} {index : UInt32}

/-- On devices that look the same the second action does what the first does, under
other numbers. -/
structure Tracks (names : Nat → Nat) (index : UInt32) (rename : α → β) (action : Capture α)
    (action' : Capture β) : Prop where
  replays : Replays (· = index) action
  follows : ∀ device device' : Device, device.SameView index device' →
    Numbered names device device' (action device).journal →
    let written := (action device).journal.map (Entry.renumber names)
    action' device' =
      ⟨rename (action device).value, written.foldl Device.replay device', written⟩

/-- Two answers of the device: both the same failure, or both values that correspond. -/
inductive SameAnswer (corresponds : α → β → Prop) : Except PlatformError (α × Device) →
    Except PlatformError (β × Device) → Prop
  | failed (error : PlatformError) : SameAnswer corresponds (.error error) (.error error)
  | given {value : α} {value' : β} {after after' : Device}
      (hvalue : corresponds value value') :
      SameAnswer corresponds (.ok (value, after)) (.ok (value', after'))

theorem SameAnswer.unless {corresponds : α → β → Prop} {fails fails' : Bool}
    {error : PlatformError} {value : α} {value' : β} {after after' : Device}
    (hfails : fails' = fails) (hvalue : corresponds value value') :
    SameAnswer corresponds (if fails = true then .error error else .ok (value, after))
      (if fails' = true then .error error else .ok (value', after')) := by
  subst hfails
  cases fails' with
  | true => exact .failed error
  | false => exact .given hvalue

namespace Tracks

theorem pure (rename : α → β) (value : α) :
    Tracks names index rename (pure value) (pure (rename value)) where
  replays := .pure value
  follows := fun _ _ _ _ => rfl

theorem bind {rename : α → β} {rename' : γ → δ} {first : Capture α} {first' : Capture β}
    {next : α → Capture γ} {next' : β → Capture δ}
    (hfirst : Tracks names index rename first first')
    (hnext : ∀ value, Tracks names index rename' (next value) (next' (rename value))) :
    Tracks names index rename' (first >>= next) (first' >>= next') where
  replays := hfirst.replays.bind fun value => (hnext value).replays
  follows := by
    intro device device' hview hnumbered
    have hdevice := hfirst.replays.device device hview.faults
    have hfollows := hfirst.follows device device' hview hnumbered.left
    rw [bind_apply, hdevice] at hnumbered
    have hlast := (hnext (first device).value).follows _ _ (hview.replay _) hnumbered.right
    simp only [bind_apply, hfollows, hdevice, hlast, List.map_append, List.foldl_append]

/-- Actions that write corresponding journals and yield corresponding values whatever
happens. -/
theorem of_always {rename : α → β} {action : Capture α} {action' : Capture β}
    (hreplays : Replays (· = index) action) (hreplays' : Replays (· = index) action')
    (hvalue : ∀ device device', (action' device').value = rename (action device).value)
    (hjournal : ∀ device device', (action' device').journal =
      (action device).journal.map (Entry.renumber names)) :
    Tracks names index rename action action' where
  replays := hreplays
  follows := fun device device' hview _ =>
    hreplays'.apply_eq hview.faults' (hvalue device device') (hjournal device device')

/-- A call that can fail is answered alike. -/
theorem fallible {rename : α → β} {point : FaultPoint} {call : Call} {answer : α → Answer}
    {answer' : β → Answer} {act : Device → Except PlatformError (α × Device)}
    {act' : Device → Except PlatformError (β × Device)}
    (hreplays : Replays (· = index) (fallible point call answer act))
    (hreplays' : Replays (· = index) (Capture.fallible point (call.renumber names) answer' act'))
    (hcall : ∀ given, (Entry.call call given).renumber names =
      .call (call.renumber names) (given.renumber names))
    (hact : ∀ device device' : Device, device.SameView index device' →
      SameAnswer (fun value value' =>
        Numbered names device device' [.call call (answer value)] →
          value' = rename value ∧ answer' value' = (answer value).renumber names)
        (act device) (act' device')) :
    Tracks names index (Except.map rename) (Capture.fallible point call answer act)
      (Capture.fallible point (call.renumber names) answer' act') where
  replays := hreplays
  follows := by
    intro device device' hview hnumbered
    have hsame := hact device device' hview
    have hresult := fallible_of_none point call answer act hview.faults
    have hresult' := fallible_of_none point (call.renumber names) answer' act' hview.faults'
    rw [hresult] at hnumbered ⊢
    refine hreplays'.apply_eq hview.faults' ?_ ?_
    all_goals
      rw [hresult']
      revert hsame hnumbered
      generalize act device = result, act' device' = result'
      intro hnumbered hsame
    · cases hsame with
      | failed error => rfl
      | given hvalue => exact congrArg Except.ok (hvalue hnumbered).1
    · cases hsame with
      | failed error =>
          exact congrArg (fun entry => [entry]) (hcall (.failed (.platform error))).symm
      | given hvalue =>
          dsimp only
          rw [(hvalue hnumbered).2, List.map_cons, hcall, List.map_nil]

/-! ### Calls -/

theorem notify (spans : List Span) (notice : Notice) :
    Tracks names index id (notify spans notice) (Capture.notify spans notice) :=
  of_always ((replayed _).notify _ _) ((replayed _).notify _ _) (fun _ _ => rfl) fun _ _ => rfl

theorem endSpan (spans : List Span) :
    Tracks names index id (endSpan spans) (Capture.endSpan spans) :=
  of_always ((replayed _).endSpan _) ((replayed _).endSpan _) (fun _ _ => rfl) fun _ _ => rfl

theorem release (object : Release) :
    Tracks names index id (release object) (Capture.release (object.renumber names)) :=
  of_always ((replayed _).release _) ((replayed _).release _) (fun _ _ => rfl) fun _ _ => rfl

theorem copyTexture (destination source : Texture) :
    Tracks names index id (copyTexture destination source)
      (Capture.copyTexture (destination.renumber names) (source.renumber names)) :=
  of_always ((replayed _).copyTexture _ _) ((replayed _).copyTexture _ _) (fun _ _ => rfl)
    fun _ _ => rfl

theorem setVisible (window : Window) (visible : Bool) :
    Tracks names index (Window.renumber names) (setVisible window visible)
      (Capture.setVisible (window.renumber names) visible) :=
  of_always ((replayed _).setVisible _ _) ((replayed _).setVisible _ _) (fun _ _ => rfl)
    fun _ _ => rfl

theorem enumOutput (found : UInt32) :
    Tracks names index (Except.map id) (enumOutput found) (Capture.enumOutput found) := by
  refine fallible ((replayed _).enumOutput found) ((replayed _).enumOutput found) (fun _ => rfl)
    fun device device' hview => ?_
  have houtputs : device'.outputs = device.outputs := hview.setting.outputs
  have hfails : device'.enumerationFailsAt = device.enumerationFailsAt :=
    hview.setting.enumerationFailsAt
  unfold Device.enumOutput
  rw [houtputs, hfails]
  split
  · exact .failed _
  · refine .given fun _ => ⟨rfl, ?_⟩
    split <;> rfl

theorem describe (output : Output) :
    Tracks names index (Except.map id) (describe output) (Capture.describe output) := by
  refine fallible ((replayed _).describe output) ((replayed _).describe output) (fun _ => rfl)
    fun device device' hview => ?_
  unfold Device.describe
  split
  · exact .given fun _ => ⟨rfl, rfl⟩
  · exact .failed _

theorem duplicateWithFormats (output : Output) :
    Tracks names index (Except.map id) (duplicateWithFormats output offeredFormats)
      (Capture.duplicateWithFormats output offeredFormats) := by
  refine fallible ((replayed _).duplicateWithFormats output)
    ((replayed _).duplicateWithFormats output) (fun _ => rfl) fun device device' hview => ?_
  unfold Device.duplicateWithFormats
  split
  · exact .given fun _ => ⟨rfl, rfl⟩
  · exact .unless (congrFun hview.setting.fails .duplication) fun _ => ⟨rfl, rfl⟩

theorem duplicate (output : Output) :
    Tracks names index (Except.map id) (duplicate output) (Capture.duplicate output) :=
  fallible ((replayed _).duplicate output) ((replayed _).duplicate output) (fun _ => rfl)
    fun _ _ hview => .unless (congrFun hview.setting.fails .duplication) fun _ => ⟨rfl, rfl⟩

theorem colorInfo (output : Output) :
    Tracks names index (Except.map id) (colorInfo output) (Capture.colorInfo output) :=
  fallible ((replayed _).colorInfo output) ((replayed _).colorInfo output) (fun _ => rfl)
    fun _ _ hview => .unless (congrFun hview.setting.fails .colorInfo) fun _ => ⟨rfl, rfl⟩

theorem resize (swapChain : SwapChain) (size : Size) :
    Tracks names index (Except.map (SwapChain.renumber names)) (resize swapChain size)
      (Capture.resize (swapChain.renumber names) size) :=
  fallible ((replayed _).resize swapChain size)
    ((replayed _).resize (swapChain.renumber names) size) (fun _ => rfl)
    fun _ _ hview => .unless (congrFun hview.setting.fails .resize) fun _ => ⟨rfl, rfl⟩

/-- The number of an entry that gives one out. -/
theorem next_number {device device' : Device} {entry : Entry}
    (hentry : entry.isNumbering = true) (hnumbered : Numbered names device device' [entry]) :
    device'.nextId = names device.nextId :=
  (hnumbered 0 (by simp [hentry])).symm

theorem createTexture (size : Size) (format : ColorFormat) :
    Tracks names index (Except.map (Texture.renumber names)) (createTexture size format)
      (Capture.createTexture size format) := by
  refine fallible ((replayed _).createTexture size format)
    ((replayed _).createTexture size format) (fun _ => rfl) fun device device' hview => ?_
  refine .unless (congrFun hview.setting.fails .createTexture) fun hnumbered => ?_
  have hnext := next_number rfl hnumbered
  simp [Texture.renumber, Answer.renumber, hnext]

theorem createWindow (title : String) (size : Size) :
    Tracks names index (Except.map (Window.renumber names)) (createWindow title size)
      (Capture.createWindow title size) := by
  refine fallible ((replayed _).createWindow title size) ((replayed _).createWindow title size)
    (fun _ => rfl) fun device device' hview => ?_
  refine .unless (congrFun hview.setting.fails .createWindow) fun hnumbered => ?_
  have hnext := next_number rfl hnumbered
  simp [Window.renumber, Answer.renumber, hnext]

theorem createSwapChain (window : Window) (size : Size) :
    Tracks names index (Except.map (SwapChain.renumber names)) (createSwapChain window size)
      (Capture.createSwapChain (window.renumber names) size) := by
  refine fallible ((replayed _).createSwapChain window size)
    ((replayed _).createSwapChain (window.renumber names) size) (fun _ => rfl)
    fun device device' hview => ?_
  refine .unless (congrFun hview.setting.fails .createSwapChain) fun hnumbered => ?_
  have hnext := next_number rfl hnumbered
  simp [SwapChain.renumber, Answer.renumber, hnext, hview.setting.noFrameLatencyWaitable]

theorem frameTexture (resource : FrameResource) :
    Tracks names index (Except.map (Texture.renumber names)) (frameTexture resource)
      (Capture.frameTexture resource) := by
  refine fallible ((replayed _).frameTexture resource) ((replayed _).frameTexture resource)
    (fun _ => rfl) fun device device' hview => ?_
  cases resource with
  | other => exact .failed _
  | texture size format =>
      refine .given fun hnumbered => ?_
      have hnext := next_number rfl hnumbered
      simp [Texture.renumber, Answer.renumber, hnext]

section

variable {duplication : Duplication}

theorem releaseFrame (hown : duplication.output = index) :
    Tracks names index (Except.map id) (releaseFrame duplication)
      (Capture.releaseFrame duplication) :=
  fallible ((replayed _).releaseFrame duplication hown)
    ((replayed _).releaseFrame duplication hown) (fun _ => rfl)
    fun _ _ _ => .given fun _ => ⟨rfl, rfl⟩

theorem acquire (hown : duplication.output = index) :
    Tracks names index id (acquire duplication 0) (Capture.acquire duplication 0) where
  replays := (replayed _).acquire duplication hown
  follows := by
    intro device device' hview _
    have hframes : device'.frames duplication.output = device.frames duplication.output := by
      rw [hown, hview.frames]
    have hacquired : (device'.acquire duplication).1 = (device.acquire duplication).1 := by
      simp only [Device.acquire, hframes]
      split <;> rfl
    have hfaults : device.faults.takeAcquire? = none := by
      rw [hview.faults, Faults.takeAcquire?_none]
    have hfaults' : device'.faults.takeAcquire? = none := by
      rw [hview.faults', Faults.takeAcquire?_none]
    refine ((replayed (· = index)).acquire duplication hown).apply_eq hview.faults' ?_ ?_
    all_goals
      simp only [Capture.acquire, hfaults, hfaults']
      generalize device.acquire duplication = result,
        device'.acquire duplication = result' at hacquired ⊢
      obtain ⟨answer, after⟩ := result
      obtain ⟨_, after'⟩ := result'
      cases hacquired
      cases answer <;> rfl

end

/-- A present cycle borrows the same target and draws the same. -/
theorem draw (preview : Preview) (texture : Texture) :
    Tracks names index id (preview.draw texture)
      ((preview.renumber names).draw (texture.renumber names)) where
  replays := (replayed _).draw preview texture
  follows := by
    intro device device' hview _
    have hcycle : ∀ target fails,
        (preview.renumber names).cycle (texture.renumber names) target fails =
          ((preview.cycle texture target fails).1,
            (preview.cycle texture target fails).2.map (Entry.renumber names)) := by
      intro target fails
      unfold Preview.cycle
      cases fails .bind <;> cases fails .present <;> rfl
    rw [preview.draw_of_none texture hview.faults,
      (preview.renumber names).draw_of_none (texture.renumber names) hview.faults',
      hview.setting.boundTarget, hview.setting.fails, hcycle]
    rfl

end Tracks
end Capture

/-! ## Operations -/

section

variable {names : Nat → Nat} {index : UInt32}

theorem Adapter.tracks_output (found : UInt32) :
    Tracks names index id (output found) (output found) := by
  refine Tracks.bind (.enumOutput found) ?_
  rintro (error | _ | output)
  · exact .pure _ _
  · exact .pure _ _
  · exact .pure _ _

namespace FrameCache

theorem tracks_release (cache : FrameCache) :
    Tracks names index id cache.release (cache.renumber names).release := by
  obtain ⟨_ | texture, size, format, colorSpace⟩ := cache
  · exact .pure _ _
  · exact .release (.texture texture.id)

theorem tracks_fill (cache : FrameCache) (source : Texture) :
    Tracks names index id (cache.fill source)
      ((cache.renumber names).fill (source.renumber names)) := by
  obtain ⟨_ | texture, size, format, colorSpace⟩ := cache
  · exact .pure _ _
  · exact .copyTexture texture source

theorem tracks_reallocate (cache : FrameCache) (source : Texture) (hdr : Bool) :
    Tracks names index (renumber names) (cache.reallocate source hdr)
      ((cache.renumber names).reallocate (source.renumber names) hdr) := by
  refine Tracks.bind cache.tracks_release fun _ => Tracks.bind (.notify _ _) fun _ => ?_
  refine Tracks.bind (.createTexture _ _) ?_
  rintro (error | texture)
  · exact Tracks.bind (.notify _ _) fun _ => .pure _ _
  · exact .pure _ _

theorem tracks_ingest (cache : FrameCache) (source : Texture) (hdr : Bool) :
    Tracks names index (renumber names) (cache.ingest source hdr)
      ((cache.renumber names).ingest (source.renumber names) hdr) := by
  have hfilled : ∀ cache' : FrameCache, Tracks names index (renumber names)
      (do cache'.fill source; Pure.pure cache')
      (do
        (cache'.renumber names).fill (source.renumber names)
        Pure.pure (cache'.renumber names)) :=
    fun cache' => Tracks.bind (cache'.tracks_fill source) fun _ => .pure _ _
  have hfits : (cache.renumber names).fits (source.renumber names).size
      (.cached (source.renumber names).format) =
        cache.fits source.size (.cached source.format) := by
    have htexture : (cache.renumber names).texture.isSome = cache.texture.isSome :=
      Option.isSome_map
    unfold fits
    rw [htexture]
    rfl
  unfold ingest
  rw [hfits]
  split
  · exact Tracks.bind (.pure _ cache) hfilled
  · exact Tracks.bind (cache.tracks_reallocate source hdr) hfilled

end FrameCache

namespace Preview

theorem tracks_assemble (size : Size) (title : String) :
    Tracks names index (Except.map (renumber names)) (assemble size title)
      (assemble size title) := by
  refine Tracks.bind (.createWindow title size) ?_
  rintro (error | window)
  · exact .pure _ _
  · refine Tracks.bind (.createSwapChain window size) ?_
    rintro (error | swapChain)
    · exact Tracks.bind (.release (.window window.id)) fun _ =>
        .pure _ _
    · exact Tracks.bind (.setVisible window true) fun shown =>
        .pure _ _

theorem tracks_create (outer : List Span) (monitor : MonitorInfo) (title : String) :
    Tracks names index (Except.map (renumber names)) (create outer monitor title)
      (create outer monitor title) := by
  refine Tracks.bind (tracks_assemble monitor.size.half title) fun made => ?_
  have hended : Tracks names index (Except.map (renumber names))
      (do Capture.endSpan (outer ++ [.previewCreation]); Pure.pure made)
      (do Capture.endSpan (outer ++ [.previewCreation])
          Pure.pure (made.map (renumber names))) :=
    Tracks.bind (.endSpan _) fun _ => .pure _ _
  cases made with
  | ok preview => exact hended
  | error error => exact Tracks.bind (.notify _ _) fun _ => hended

theorem tracks_fitSurface (preview : Preview) :
    Tracks names index (Except.map (renumber names)) preview.fitSurface
      (preview.renumber names).fitSurface := by
  have hsize : (preview.renumber names).swapChain.size = preview.swapChain.size := rfl
  have hclient : (preview.renumber names).window.clientSize = preview.window.clientSize := rfl
  unfold fitSurface
  rw [hsize, hclient]
  split
  · exact .pure _ _
  · refine Tracks.bind (.resize _ _) ?_
    rintro (error | swapChain)
    · exact .pure _ _
    · exact .pure _ _

theorem tracks_present (preview : Preview) (texture : Option Texture) :
    Tracks names index (Prod.map id (renumber names)) (preview.present texture)
      ((preview.renumber names).present (texture.map (Texture.renumber names))) := by
  have hshowing : (preview.renumber names).isShowing = preview.isShowing := rfl
  cases texture with
  | none => exact .pure _ _
  | some texture =>
      simp only [present, Option.map_some, hshowing]
      split
      · refine Tracks.bind preview.tracks_fitSurface ?_
        rintro (error | fitted)
        · exact .pure _ _
        · exact Tracks.bind (.draw fitted texture) fun drawn =>
            .pure _ _
      · exact .pure _ _

end Preview

namespace Session

theorem tracks_openDuplication (spans : List Span) (output : Output) :
    Tracks names index id (openDuplication spans output) (openDuplication spans output) := by
  refine Tracks.bind (.duplicateWithFormats output) ?_
  rintro (error | _ | duplication)
  · exact .pure _ _
  · refine Tracks.bind (.notify _ _) fun _ => Tracks.bind (.duplicate output) ?_
    rintro (error | duplication)
    · exact .pure _ _
    · exact .pure _ _
  · refine Tracks.bind (.colorInfo output) ?_
    rintro (error | color)
    · exact Tracks.bind (.notify _ _) fun _ => .pure _ _
    · exact .pure _ _

theorem tracks_openPreview (spans : List Span) (output : Output) (title : String) :
    Tracks names index (Option.map (Preview.renumber names)) (openPreview spans output title)
      (openPreview spans output title) := by
  refine Tracks.bind (.describe output) ?_
  rintro (error | description)
  · exact Tracks.bind (.notify _ _) fun _ => .pure _ _
  · refine Tracks.bind (Preview.tracks_create spans _ title) ?_
    rintro (error | preview)
    · exact Tracks.bind (.notify _ _) fun _ => .pure _ _
    · exact .pure _ _

theorem tracks_startWithin (spans : List Span) (monitor : UInt32) (config : SessionConfig) :
    Tracks names index (Except.map (renumber names)) (startWithin spans monitor config)
      (startWithin spans monitor config) := by
  refine Tracks.bind (Adapter.tracks_output monitor) ?_
  rintro (error | output)
  · exact .pure _ _
  · refine Tracks.bind (tracks_openDuplication spans output) ?_
    rintro (error | ⟨duplication, color⟩)
    · exact .pure _ _
    · have hstarted : ∀ preview : Option Preview, Tracks names index
          (Except.map (renumber names))
          (do
            Capture.notify spans (.sessionStarted monitor color)
            Pure.pure (.ok ⟨some duplication, .empty, preview, monitor, color, false, 1⟩) :
              Capture (Except CaptureError Session))
          (do
            Capture.notify spans (.sessionStarted monitor color)
            Pure.pure (.ok ⟨some duplication, .empty, preview.map (Preview.renumber names),
              monitor, color, false, 1⟩)) :=
        fun preview => Tracks.bind (.notify _ _) fun _ => .pure _ _
      dsimp only [id_eq]
      split
      · exact Tracks.bind (tracks_openPreview spans output config.title) hstarted
      · exact Tracks.bind (.pure (Option.map (Preview.renumber names)) none) hstarted

theorem tracks_start (monitor : UInt32) (config : SessionConfig) :
    Tracks names index (Except.map (renumber names)) (start monitor config)
      (start monitor config) := by
  refine Tracks.bind (tracks_startWithin _ monitor config) fun started => ?_
  have hended : Tracks names index (Except.map (renumber names))
      (do Capture.endSpan [.sessionStart monitor]; Pure.pure started)
      (do Capture.endSpan [.sessionStart monitor]; Pure.pure (started.map (renumber names))) :=
    Tracks.bind (.endSpan _) fun _ => .pure _ _
  cases started with
  | ok session => exact hended
  | error error => exact Tracks.bind (.notify _ _) fun _ => hended

theorem tracks_present (session : Session) :
    Tracks names index (renumber names) session.present (session.renumber names).present := by
  have hpreview : (session.renumber names).preview =
      session.preview.map (Preview.renumber names) := rfl
  have htexture : (session.renumber names).texture =
      session.texture.map (Texture.renumber names) := rfl
  unfold present
  rw [hpreview, htexture]
  cases session.preview with
  | none => exact .pure _ _
  | some preview =>
      refine Tracks.bind (preview.tracks_present session.texture) ?_
      rintro ⟨error | _, preview'⟩
      · exact Tracks.bind (.notify _ _) fun _ =>
          .pure _ _
      · exact .pure _ _

section

variable {duplication : Duplication}

theorem tracks_handBack (hown : duplication.output = index) :
    Tracks names index id (handBack duplication) (handBack duplication) := by
  refine Tracks.bind (.releaseFrame hown) ?_
  rintro (error | _)
  · exact .notify _ _
  · exact .pure _ _

theorem tracks_takeFrame (session : Session) (hown : duplication.output = index)
    (resource : FrameResource) :
    Tracks names index (renumber names) (session.takeFrame duplication resource)
      ((session.renumber names).takeFrame duplication resource) := by
  refine Tracks.bind (.frameTexture resource) ?_
  rintro (error | texture)
  · exact Tracks.bind (.notify _ _) fun _ =>
      Tracks.bind (tracks_handBack hown) fun _ => .pure _ _
  · refine Tracks.bind (session.cache.tracks_ingest texture session.color.hdr) fun cache => ?_
    exact Tracks.bind (tracks_handBack hown) fun _ =>
      tracks_present { session with cache, frameAvailable := true }

end

/-- An update of a session of the monitor. -/
theorem tracks_update (session : Session) (hat : session.IsAt index) :
    Tracks names index (Prod.map id (renumber names)) session.update
      (session.renumber names).update := by
  have hshown : Tracks names index (Prod.map id (renumber names))
      (do let shown ← session.present; Pure.pure (true, shown))
      (do let shown ← (session.renumber names).present; Pure.pure (true, shown)) :=
    Tracks.bind session.tracks_present fun shown =>
      .pure _ _
  have hduplication : (session.renumber names).duplication = session.duplication := rfl
  unfold update
  rw [hduplication]
  cases hlive : session.duplication with
  | none => exact .pure _ _
  | some duplication =>
      have hown : duplication.output = index := by rw [hat.duplication duplication hlive]
      refine Tracks.bind (.acquire hown) ?_
      rintro ((found | error | _ | _) | resource)
      · exact Tracks.bind (.notify _ _) fun _ => hshown
      · exact Tracks.bind (.notify _ _) fun _ => hshown
      · refine Tracks.bind (.notify _ _) fun _ =>
          Tracks.bind (.release (.duplication duplication.output)) fun _ => ?_
        exact .pure _ _
      · exact hshown
      · exact Tracks.bind (session.tracks_takeFrame hown resource) fun taken =>
          .pure _ _

theorem tracks_setPreviewVisible (session : Session) (visible : Bool) :
    Tracks names index (renumber names) (session.setPreviewVisible visible)
      ((session.renumber names).setPreviewVisible visible) := by
  have hpreview : (session.renumber names).preview =
      session.preview.map (Preview.renumber names) := rfl
  unfold setPreviewVisible
  rw [hpreview]
  cases session.preview with
  | none => exact .pure _ _
  | some preview =>
      have hset : Tracks names index (Preview.renumber names) (preview.setVisible visible)
          ((preview.renumber names).setVisible visible) :=
        Tracks.bind (.setVisible preview.window visible) fun window =>
          .pure _ _
      exact Tracks.bind hset fun shown =>
        .pure _ _

theorem tracks_release (session : Session) :
    Tracks names index id session.release (session.renumber names).release := by
  obtain ⟨duplication, cache, preview, _, _, _, _⟩ := session
  rw [release_eq, release_eq]
  have hduplication : Tracks names index id
      (duplication.elim (Pure.pure ()) fun duplication =>
        Capture.release (.duplication duplication.output))
      (duplication.elim (Pure.pure ()) fun duplication =>
        Capture.release (.duplication duplication.output)) := by
    cases duplication with
    | none => exact .pure _ _
    | some duplication => exact .release (.duplication duplication.output)
  refine Tracks.bind hduplication fun _ => Tracks.bind cache.tracks_release fun _ => ?_
  cases preview with
  | none => exact .pure _ _
  | some preview =>
      exact Tracks.bind (.release (.swapChain preview.swapChain.id)) fun _ =>
        .release (.window preview.window.id)

end Session

/-! ## Cells -/

namespace Seat

theorem tracks_create (config : SessionConfig) (seat : Seat) :
    Tracks names index (Prod.map id (Option.map (Session.renumber names)))
      (Seat.create config index seat)
      (Seat.create config index (seat.map (Session.renumber names))) := by
  cases seat with
  | some session => exact .pure _ _
  | none =>
      refine Tracks.bind (Session.tracks_start index config) ?_
      rintro ((found | error | _ | _) | session)
      · exact Tracks.bind (.notify _ _) fun _ => .pure _ _
      · exact Tracks.bind (.notify _ _) fun _ => .pure _ _
      · exact Tracks.bind (.notify _ _) fun _ => .pure _ _
      · exact Tracks.bind (.notify _ _) fun _ => .pure _ _
      · exact .pure _ _

theorem tracks_destroy (seat : Seat) :
    Tracks names index (Option.map (Session.renumber names)) (Seat.destroy index seat)
      (Seat.destroy index (seat.map (Session.renumber names))) := by
  cases seat with
  | none => exact Tracks.bind (.notify _ _) fun _ => .pure _ none
  | some session =>
      have hrefs : (session.renumber names).refs = session.refs := rfl
      simp only [Seat.destroy, Option.map_some, hrefs]
      split
      · exact Tracks.bind (.notify _ _) fun _ =>
          Tracks.bind session.tracks_release fun _ => .pure _ none
      · exact .pure _ _

/-- A handle of the monitor is used. -/
theorem tracks_use (seat : Seat) (hat : ∀ session, seat = some session → session.IsAt index)
    (usage : HandleUse) :
    Tracks names index (Prod.map (Reply.renumber names) (Option.map (Session.renumber names)))
      (Seat.use index seat usage)
      (Seat.use index (seat.map (Session.renumber names)) usage) := by
  cases usage with
  | destroy => exact Tracks.bind seat.tracks_destroy fun left => .pure _ _
  | update =>
      have hupdated : Tracks names index (Prod.map id (Option.map (Session.renumber names)))
          seat.update (Seat.update (seat.map (Session.renumber names))) := by
        cases seat with
        | none => exact .pure _ _
        | some session =>
            exact Tracks.bind (session.tracks_update (hat session rfl)) fun result =>
              .pure _ _
      exact Tracks.bind hupdated fun result => .pure _ _
  | setVisible visible =>
      have hset : Tracks names index (Option.map (Session.renumber names))
          (seat.setVisible visible)
          (Seat.setVisible visible (seat.map (Session.renumber names))) := by
        cases seat with
        | none => exact .pure _ none
        | some session =>
            exact Tracks.bind (session.tracks_setPreviewVisible visible) fun shown =>
              .pure _ _
      exact Tracks.bind hset fun shown => .pure _ _
  | window step =>
      rcases seat with _ | ⟨duplication, cache, _ | preview, monitor, color, available, refs⟩
      · exact .pure _ _
      · exact .pure _ _
      · cases step with
        | close => exact .pure _ _
        | resize size => exact .pure _ _
  | texture =>
      rcases seat with _ | ⟨duplication, ⟨_ | texture⟩, preview, monitor, color, available, refs⟩
      · exact .pure _ _
      · exact .pure _ _
      · exact .pure _ _
  | colorSpace => cases seat <;> exact .pure _ _
  | sdrWhite => cases seat <;> exact .pure _ _
  | isHdr => cases seat <;> exact .pure _ _
  | frameAvailable => cases seat <;> exact .pure _ _
  | session => cases seat <;> exact .pure _ _

end Seat

/-- Whatever is done about the monitor is done alike under other numbers. -/
theorem Scenario.Cell.tracks_perform (config : SessionConfig) {cell : Cell}
    (hat : ∀ session, cell.session = some session → session.IsAt index)
    (operation : Operation) :
    Tracks names index (Prod.map (Reply.renumber names) (renumber names))
      (cell.perform config index operation)
      ((cell.renumber names).perform config index operation) := by
  obtain ⟨handle, seat⟩ := cell
  cases operation with
  | create =>
      refine Tracks.bind (seat.tracks_create config) ?_
      rintro ⟨_ | got, left⟩
      · exact .pure _ _
      · exact .pure _ _
  | use usage =>
      cases handle with
      | none => exact .pure _ _
      | some handle =>
          exact Tracks.bind (seat.tracks_use hat usage) fun result =>
            .pure _ _

end

end DesktopCapture
