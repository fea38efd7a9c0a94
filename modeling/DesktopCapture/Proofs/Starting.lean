import DesktopCapture.Proofs.Aside
import DesktopCapture.Proofs.Ledger
import DesktopCapture.Proofs.Refusals

/-!
# How a session starts

A start asks for the output, duplicates it, and may make a preview.  Each of the three
stages is given by the ways it can end, with what is called in each of them and what comes
of it.  The first two stages decide whether there is a session and what its colour is, and
the third one only whether the session has a preview.
-/

namespace DesktopCapture

open Capture

/-- Half the size of the monitor at an output. -/
def OutputConfig.halfSize (config : OutputConfig) : Size :=
  let info := MonitorInfo.ofDescription config.description
  ⟨info.width / 2, info.height / 2⟩

/-- How a preview's window and swap chain are made. -/
inductive Preview.Assembles (title : String) (size : Size) :
    List Entry → Except PlatformError Preview → Prop
  | windowless {error : PlatformError} :
      Assembles title size [.call (.createWindow title size) (.failed (.platform error))]
        (.error error)
  | chainless {window : Nat} {error : PlatformError} :
      Assembles title size
        [.call (.createWindow title size) (.number window),
          .call (.createSwapChain window size) (.failed (.platform error)),
          .release (.window window)]
        (.error error)
  | assembled {window swapChain : Nat} {waitable : Bool} :
      Assembles title size
        [.call (.createWindow title size) (.number window),
          .call (.createSwapChain window size) (.number swapChain),
          .call (.setVisible window true) .done]
        (.ok ⟨⟨swapChain, size, waitable, []⟩, ⟨window, true, size⟩⟩)

/-- An output is found at its index. -/
theorem Capture.enumOutput_found {index : UInt32} {device : Device} {output : Output}
    (hasked : (enumOutput index device).value = .ok (some output)) :
    device.outputs[index.toNat]? = some output.config ∧ output.index = index := by
  rcases fallible_cases .enumOutput (.enumOutput index)
      (fun output => if output.isSome then .done else .absent) (Device.enumOutput index)
      device with
    ⟨error, faults, hfailed⟩ | ⟨found, device', hact, hdone⟩
  · rw [enumOutput, hfailed] at hasked
    cases hasked
  · rw [enumOutput, hdone] at hasked
    cases hasked
    obtain ⟨-, hfound, -⟩ := Device.enumOutput_ok hact
    obtain ⟨config, hconfig, rfl⟩ := Option.map_eq_some_iff.mp hfound.symm
    exact ⟨hconfig, rfl⟩

namespace Session

/-- How an output is duplicated and the colour of its monitor is found. -/
inductive Opens (spans : List Span) (output : Output) :
    List Entry → Except PlatformError (Duplication × ColorInfo) → Prop
  | refused {error : PlatformError} :
      Opens spans output
        [.call (.duplicateWithFormats output.index offeredFormats) (.failed (.platform error))]
        (.error error)
  | colored :
      Opens spans output
        [.call (.duplicateWithFormats output.index offeredFormats) .done,
          .call (.colorInfo output.index) .done]
        (.ok (⟨output.index⟩, output.config.color))
  | uncolored {error : PlatformError} :
      Opens spans output
        [.call (.duplicateWithFormats output.index offeredFormats) .done,
          .call (.colorInfo output.index) (.failed (.platform error)),
          .notice spans (.colorInfoUnread error)]
        (.ok (⟨output.index⟩, .standard))
  | unduplicated {error : PlatformError} :
      Opens spans output
        [.call (.duplicateWithFormats output.index offeredFormats) .absent,
          .notice spans .baselineMode,
          .call (.duplicate output.index) (.failed (.platform error))]
        (.error error)
  | baseline :
      Opens spans output
        [.call (.duplicateWithFormats output.index offeredFormats) .absent,
          .notice spans .baselineMode, .call (.duplicate output.index) .done]
        (.ok (⟨output.index⟩, .standard))

/-- How a preview of an output's monitor is made, if it can be. -/
inductive OpensPreview (spans : List Span) (output : Output) (title : String) :
    List Entry → Option Preview → Prop
  | undescribed {error : PlatformError} :
      OpensPreview spans output title
        [.call (.describe output.index) (.failed (.platform error)),
          .notice spans (.previewDescriptorUnreadable error)] none
  | unassembled {made : List Entry} {error : PlatformError}
      (hmade : Preview.Assembles title output.config.halfSize made (.error error)) :
      OpensPreview spans output title
        (.call (.describe output.index) .done :: (made ++
          [.notice (spans ++ [.previewCreation]) (.previewCreationEnded error),
            .spanEnd (spans ++ [.previewCreation]), .notice spans (.previewFailed error)]))
        none
  | assembled {made : List Entry} {preview : Preview}
      (hmade : Preview.Assembles title output.config.halfSize made (.ok preview)) :
      OpensPreview spans output title
        (.call (.describe output.index) .done ::
          (made ++ [.spanEnd (spans ++ [.previewCreation])])) (some preview)

/-- The preview of a session is made if the session is to have one. -/
inductive Furnishes (spans : List Span) (output : Output) (config : SessionConfig) :
    List Entry → Option Preview → Prop
  | bare (hbare : config.preview = false) : Furnishes spans output config [] none
  | asked {journal : List Entry} {preview : Option Preview} (hasked : config.preview = true)
      (hopens : OpensPreview spans output config.title journal preview) :
      Furnishes spans output config journal preview

/-- The entries of a start that went well. -/
def startedEntries (index : UInt32) (color : ColorInfo) (opened furnished : List Entry) :
    List Entry :=
  .call (.enumOutput index) .done :: (opened ++ (furnished ++
    [.notice [.sessionStart index] (.sessionStarted index color),
      .spanEnd [.sessionStart index]]))

/-- How a session starts on an index. -/
inductive Starts (index : UInt32) (config : SessionConfig) (device : Device) :
    List Entry → Except CaptureError Session → Prop
  | unenumerated {error : PlatformError}
      (hasked : (enumOutput index device).value = .error error) :
      Starts index config device
        [.call (.enumOutput index) (.failed (.platform error)),
          .notice [.sessionStart index] (.startEnded (.platform error)),
          .spanEnd [.sessionStart index]]
        (.error (.platform error))
  | missing (hasked : (enumOutput index device).value = .ok none) :
      Starts index config device
        [.call (.enumOutput index) .absent,
          .notice [.sessionStart index] (.startEnded (.notFound index)),
          .spanEnd [.sessionStart index]]
        (.error (.notFound index))
  | refused {described : OutputConfig} {opened : List Entry} {error : PlatformError}
      (hasked : (enumOutput index device).value = .ok (some ⟨index, described⟩))
      (hopens : Opens [.sessionStart index] ⟨index, described⟩ opened (.error error)) :
      Starts index config device
        (.call (.enumOutput index) .done :: (opened ++
          [.notice [.sessionStart index] (.startEnded (.platform error)),
            .spanEnd [.sessionStart index]]))
        (.error (.platform error))
  | started {described : OutputConfig} {opened furnished : List Entry}
      {duplication : Duplication} {color : ColorInfo} {preview : Option Preview}
      (hasked : (enumOutput index device).value = .ok (some ⟨index, described⟩))
      (hopens : Opens [.sessionStart index] ⟨index, described⟩ opened
        (.ok (duplication, color)))
      (hfurnishes : Furnishes [.sessionStart index] ⟨index, described⟩ config furnished
        preview) :
      Starts index config device
        (startedEntries index color opened furnished)
        (.ok ⟨some duplication, .empty, preview, index, color, false, 1⟩)

end Session

/-! ## Every start goes one of these ways -/

theorem Preview.assemble_assembles (title : String) (size : Size) (device : Device) :
    Assembles title size (assemble size title device).journal
      (assemble size title device).value := by
  simp only [assemble, bind_apply]
  rcases fallible_cases .createWindow (.createWindow title size) (fun window => .number window.id)
      (Device.createWindow title size) device with
    ⟨error, faults, hwindow⟩ | ⟨window, device', hact, hwindow⟩
  · rw [createWindow, hwindow]
    exact .windowless
  · obtain ⟨-, rfl, -⟩ := Device.createWindow_ok hact
    rw [createWindow, hwindow]
    simp only [bind_apply]
    rcases fallible_cases .createSwapChain (.createSwapChain device.nextId size)
        (fun swapChain => .number swapChain.id) (Device.createSwapChain size) device' with
      ⟨error, faults, hchain⟩ | ⟨swapChain, device'', hact', hchain⟩
    · rw [createSwapChain, hchain]
      exact .chainless
    · obtain ⟨-, rfl, -⟩ := Device.createSwapChain_ok hact'
      rw [createSwapChain, hchain]
      exact .assembled

namespace Session

theorem openDuplication_opens (spans : List Span) (output : Output) (device : Device) :
    Opens spans output (openDuplication spans output device).journal
      (openDuplication spans output device).value := by
  simp only [openDuplication, bind_apply]
  rcases fallible_cases .duplicateWithFormats
      (.duplicateWithFormats output.index offeredFormats)
      (fun duplication => if duplication.isSome then .done else .absent)
      (Device.duplicateWithFormats output offeredFormats) device with
    ⟨error, faults, hasked⟩ | ⟨negotiated, device', hact, hasked⟩
  · rw [duplicateWithFormats, hasked]
    exact .refused
  · rw [duplicateWithFormats, hasked]
    rcases Device.duplicateWithFormats_ok hact with ⟨-, rfl, -⟩ | ⟨-, -, rfl, -⟩
    · simp only [bind_apply, notify, note]
      rcases fallible_cases .duplicate (.duplicate output.index) (fun _ => .done)
          (Device.duplicate output) device' with
        ⟨error, faults, hduplicated⟩ | ⟨duplication, device'', hact', hduplicated⟩
      · rw [duplicate, hduplicated]
        exact .unduplicated
      · obtain ⟨-, rfl, -⟩ := Device.duplicate_ok hact'
        rw [duplicate, hduplicated]
        exact .baseline
    · simp only [bind_apply]
      rcases fallible_cases .colorInfo (.colorInfo output.index) (fun _ => .done)
          (Device.colorInfo output) device' with
        ⟨error, faults, hread⟩ | ⟨color, device'', hact', hread⟩
      · rw [colorInfo, hread]
        exact .uncolored
      · obtain ⟨-, rfl, -⟩ := Device.colorInfo_ok hact'
        rw [colorInfo, hread]
        exact .colored

theorem openPreview_opensPreview (spans : List Span) (output : Output) (title : String)
    (device : Device) :
    OpensPreview spans output title (openPreview spans output title device).journal
      (openPreview spans output title device).value := by
  simp only [openPreview, bind_apply]
  rcases fallible_cases .describe (.describe output.index) (fun _ => .done)
      (Device.describe output) device with
    ⟨error, faults, hread⟩ | ⟨description, device', hact, hread⟩
  · rw [describe, hread]
    exact .undescribed
  · obtain ⟨-, rfl, -⟩ := Device.describe_ok hact
    rw [describe, hread]
    have hmade := Preview.assemble_assembles title output.config.halfSize device'
    have hhalf : (MonitorInfo.ofDescription output.config.description).size.half =
        output.config.halfSize := rfl
    simp only [Preview.create, hhalf, bind_apply]
    revert hmade
    cases (Preview.assemble output.config.halfSize title device').value with
    | error error =>
        intro hmade
        have hunassembled := @OpensPreview.unassembled spans output title _ _ hmade
        simpa [notify, endSpan, note] using hunassembled
    | ok preview =>
        intro hmade
        have hassembled := @OpensPreview.assembled spans output title _ _ hmade
        simpa [notify, endSpan, note] using hassembled

theorem start_starts (index : UInt32) (config : SessionConfig) (device : Device) :
    Starts index config device (start index config device).journal
      (start index config device).value := by
  simp only [start, startWithin, Adapter.output, bind_apply]
  rcases fallible_cases .enumOutput (.enumOutput index)
      (fun output => if output.isSome then .done else .absent) (Device.enumOutput index)
      device with
    ⟨error, faults, hasked⟩ | ⟨found, device', hact, hasked⟩
  · have hvalue : (enumOutput index device).value = .error error := by rw [enumOutput, hasked]
    rw [enumOutput, hasked]
    exact .unenumerated hvalue
  · have hvalue : (enumOutput index device).value = .ok found := by rw [enumOutput, hasked]
    rw [enumOutput, hasked]
    obtain ⟨-, rfl, rfl⟩ := Device.enumOutput_ok hact
    cases hfound : device'.outputs[index.toNat]? with
    | none =>
        rw [hfound] at hvalue
        exact .missing hvalue
    | some described =>
        rw [hfound] at hvalue
        have hopens := openDuplication_opens [.sessionStart index] ⟨index, described⟩ device'
        simp only [Option.map_some, pure_apply, bind_apply]
        revert hopens
        cases (openDuplication [.sessionStart index] ⟨index, described⟩ device').value with
        | error error =>
            intro hopens
            have hrefused := @Starts.refused index config device' _ _ _ hvalue hopens
            simpa [notify, endSpan, note] using hrefused
        | ok opened =>
            intro hopens
            let middle := (openDuplication [.sessionStart index] ⟨index, described⟩ device').device
            cases hpreview : config.preview with
            | false =>
                have hstarted := Starts.started hvalue hopens (.bare hpreview)
                simpa [startedEntries, notify, endSpan, note] using hstarted
            | true =>
                have hmade := openPreview_opensPreview [.sessionStart index] ⟨index, described⟩
                  config.title middle
                have hstarted := Starts.started hvalue hopens (.asked hpreview hmade)
                simpa [startedEntries, notify, endSpan, note] using hstarted

/-! ## What the entries of a start tell -/

section

variable {spans : List Span} {output : Output} {journal : List Entry}

theorem Opens.not_aside {result : Except PlatformError (Duplication × ColorInfo)}
    (hopens : Opens spans output journal result) :
    ∀ entry ∈ journal, entry.isAside = false := by
  cases hopens <;> simp [Entry.isAside]

theorem Opens.not_released {result : Except PlatformError (Duplication × ColorInfo)}
    (hopens : Opens spans output journal result) (object : Release) :
    .release object ∉ journal := by
  cases hopens <;> simp

theorem Opens.color {duplication : Duplication} {color : ColorInfo}
    (hopens : Opens spans output journal (.ok (duplication, color))) :
    color = if .call (.duplicateWithFormats output.index offeredFormats) .done ∈ journal ∧
        .call (.colorInfo output.index) .done ∈ journal
      then output.config.color else ⟨false, .eighty⟩ := by
  cases hopens <;> simp [ColorInfo.standard]

theorem Furnishes.aside {config : SessionConfig} {preview : Option Preview}
    (hfurnishes : Furnishes spans output config journal preview) :
    ∀ entry ∈ journal, entry.isAside = true := by
  cases hfurnishes with
  | bare => exact List.forall_mem_nil _
  | asked hasked hopens =>
      cases hopens with
      | undescribed => simp [Entry.isAside]
      | unassembled hmade => cases hmade <;> simp [Entry.isAside]
      | assembled hmade => cases hmade; simp [Entry.isAside]

/-- There is a preview exactly if one is asked for and all that it takes is there. -/
theorem Furnishes.isSome_iff {config : SessionConfig} {preview : Option Preview}
    (hfurnishes : Furnishes spans output config journal preview) :
    preview.isSome = true ↔ config.preview = true ∧
      .call (.describe output.index) .done ∈ journal ∧
      ∃ window swapChain,
        .call (.createWindow config.title output.config.halfSize) (.number window) ∈ journal ∧
        .call (.createSwapChain window output.config.halfSize) (.number swapChain) ∈ journal := by
  cases hfurnishes with
  | bare hbare => simp [hbare]
  | asked hasked hopens =>
      cases hopens with
      | undescribed => simp
      | unassembled hmade => cases hmade <;> simp
      | assembled hmade => cases hmade; simp [hasked]

theorem Furnishes.preview {config : SessionConfig} {preview : Preview}
    (hfurnishes : Furnishes spans output config journal (some preview)) :
    preview.window.visible = true ∧ preview.window.clientSize = output.config.halfSize ∧
      preview.swapChain.size = output.config.halfSize ∧ preview.swapChain.resizes = [] ∧
      .call (.createWindow config.title output.config.halfSize) (.number preview.window.id) ∈
        journal ∧
      .call (.createSwapChain preview.window.id output.config.halfSize)
        (.number preview.swapChain.id) ∈ journal := by
  cases hfurnishes with
  | asked hasked hopens =>
      cases hopens with
      | assembled hmade => cases hmade; simp

theorem Furnishes.release_iff {config : SessionConfig} {preview : Option Preview}
    (hfurnishes : Furnishes spans output config journal preview) (object : Release) :
    .release object ∈ journal ↔ ∃ window error, object = .window window ∧
      .call (.createWindow config.title output.config.halfSize) (.number window) ∈ journal ∧
      .call (.createSwapChain window output.config.halfSize) (.failed error) ∈ journal := by
  cases hfurnishes with
  | bare hbare => simp
  | asked hasked hopens =>
      cases hopens with
      | undescribed => simp
      | unassembled hmade => cases hmade <;> simp
      | assembled hmade => cases hmade; simp

end

section

variable {index : UInt32} {opened furnished journal : List Entry} {color : ColorInfo}

theorem mem_started_aside (hjournal : startedEntries index color opened furnished = journal)
    (hopened : ∀ entry ∈ opened, entry.isAside = false) {call : Call} {answer : Answer}
    (haside : (Entry.call call answer).isAside = true) :
    .call call answer ∈ journal ↔ .call call answer ∈ furnished := by
  have hnotopened : .call call answer ∉ opened := by
    intro hentry
    rw [hopened _ hentry] at haside
    cases haside
  have hnotasked : call ≠ .enumOutput index := by
    rintro rfl
    cases haside
  simp [← hjournal, startedEntries, hnotopened, hnotasked]

theorem mem_started_capturing
    (hjournal : startedEntries index color opened furnished = journal)
    (hfurnished : ∀ entry ∈ furnished, entry.isAside = true) {call : Call} {answer : Answer}
    (hcapturing : (Entry.call call answer).isAside = false)
    (hentry : Entry.call call answer ≠ .call (.enumOutput index) .done) :
    .call call answer ∈ journal ↔ .call call answer ∈ opened := by
  have hnotfurnished : .call call answer ∉ furnished := by
    intro hmember
    rw [hfurnished _ hmember] at hcapturing
    cases hcapturing
  rw [← hjournal, startedEntries, List.mem_cons, List.mem_append, List.mem_append]
  simp [hnotfurnished, hentry]

end

/-- A session that was started on an output, told by the entries of its start. -/
structure IsFresh (index : UInt32) (config : SessionConfig) (described : OutputConfig)
    (journal : List Entry) (session : Session) : Prop where
  state : session.state = .active
  monitor : session.monitor = index
  refs : session.refs = 1
  unmarked : session.frameAvailable = false
  cache : session.cache = .empty
  /-- The colour is read from the device if the output negotiates and the read succeeds. -/
  color : session.color =
    if .call (.duplicateWithFormats index offeredFormats) .done ∈ journal ∧
      .call (.colorInfo index) .done ∈ journal
    then described.color else ⟨false, .eighty⟩
  preview_iff : session.preview.isSome = true ↔ config.preview = true ∧
    .call (.describe index) .done ∈ journal ∧ ∃ window swapChain,
      .call (.createWindow config.title described.halfSize)
        (.number window) ∈ journal ∧
      .call (.createSwapChain window described.halfSize)
        (.number swapChain) ∈ journal
  preview : ∀ preview, session.preview = some preview →
    preview.window.visible = true ∧ preview.window.clientSize = described.halfSize ∧
    preview.swapChain.size = described.halfSize ∧ preview.swapChain.resizes = [] ∧
    .call (.createWindow config.title described.halfSize) (.number preview.window.id) ∈
      journal ∧
    .call (.createSwapChain preview.window.id described.halfSize)
      (.number preview.swapChain.id) ∈ journal
  /-- A window that gets no swap chain is released, and nothing else is. -/
  release_iff : ∀ object, .release object ∈ journal ↔ ∃ window error,
    object = .window window ∧
    .call (.createWindow config.title described.halfSize) (.number window) ∈ journal ∧
    .call (.createSwapChain window described.halfSize) (.failed error) ∈ journal

theorem Starts.isFresh {index : UInt32} {config : SessionConfig} {device : Device}
    {journal : List Entry} {session : Session}
    (hstarts : Starts index config device journal (.ok session)) :
    ∃ described, device.outputs[index.toNat]? = some described ∧
      IsFresh index config described journal session := by
  cases hstarts with
  | @started described opened furnished duplication color preview hasked hopens hfurnishes =>
  refine ⟨described, (enumOutput_found hasked).1, ?_⟩
  generalize hjournal : startedEntries index color opened furnished = journal
  have hnegotiated : .call (.duplicateWithFormats index offeredFormats) .done ∈ journal ↔
      .call (.duplicateWithFormats index offeredFormats) .done ∈ opened :=
    mem_started_capturing hjournal hfurnishes.aside rfl nofun
  have hread : .call (.colorInfo index) .done ∈ journal ↔
      .call (.colorInfo index) .done ∈ opened :=
    mem_started_capturing hjournal hfurnishes.aside rfl nofun
  have hdescribed : .call (.describe index) .done ∈ journal ↔
      .call (.describe index) .done ∈ furnished :=
    mem_started_aside hjournal hopens.not_aside rfl
  have hwindow : ∀ answer, .call (.createWindow config.title described.halfSize) answer ∈
      journal ↔ .call (.createWindow config.title described.halfSize) answer ∈ furnished :=
    fun _ => mem_started_aside hjournal hopens.not_aside rfl
  have hchain : ∀ window answer, .call (.createSwapChain window described.halfSize) answer ∈
      journal ↔ .call (.createSwapChain window described.halfSize) answer ∈ furnished :=
    fun _ _ => mem_started_aside hjournal hopens.not_aside rfl
  have hreleased : ∀ object, .release object ∈ journal ↔ .release object ∈ furnished := by
    intro object
    have hnotopened : .release object ∉ opened := hopens.not_released object
    simp [← hjournal, startedEntries, hnotopened]
  constructor
  · rfl
  · rfl
  · rfl
  · rfl
  · rfl
  · exact hopens.color.trans (if_congr (and_congr hnegotiated hread).symm rfl rfl)
  · rw [hdescribed]
    simp only [hwindow, hchain]
    exact hfurnishes.isSome_iff
  · rintro made rfl
    rw [hwindow, hchain]
    exact hfurnishes.preview
  · intro object
    rw [hreleased]
    simp only [hwindow, hchain]
    exact hfurnishes.release_iff object

/-! ## The outcome of a start -/

section

variable {index : UInt32} {config : SessionConfig} {device : Device} {journal : List Entry}
  {result : Except CaptureError Session}

end

/-- A window that gets no swap chain does not outlive the start, and the session has no
preview. -/
example :
    let device := (Scenario.singleOutputDevice.setFailing .createSwapChain true)
    let done := start 0 .standard device
    (done.value.toOption.map Session.preview, released done.journal) =
      (some none, [.window (device.lastId + 1)]) := by
  decide +kernel

end Session
end DesktopCapture
