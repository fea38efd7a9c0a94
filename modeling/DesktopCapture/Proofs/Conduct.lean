import DesktopCapture.Proofs.Aside
import DesktopCapture.Registry

/-!
# What operations write and yield

Some facts about an operation hold whatever the device is and however its calls
end: which entries it can write to the journal, and what can be said of its value.
Among the entries, those matter that begin or end the session of a monitor.  Only
the start of a session asks for a duplication, and no operation of a session
announces an end.
-/

namespace DesktopCapture

namespace Entry

/-- The monitor a duplication is asked for. -/
def starts? : Entry → Option UInt32
  | .call (.duplicateWithFormats output _) _ | .call (.duplicate output) _ => some output
  | _ => none

/-- The monitor whose session is announced to end, or has a handle released that it
does not have. -/
def ends? : Entry → Option UInt32
  | .notice _ (.destroyingSession monitor) | .notice _ (.unregisteredRelease monitor) =>
    some monitor
  | _ => none

/-- An entry that neither begins nor ends a session. -/
def IsWithin (entry : Entry) : Prop := entry.starts? = none ∧ entry.ends? = none

/-- An entry that may begin the session of a monitor and ends none. -/
def IsStarting (index : UInt32) (entry : Entry) : Prop :=
  (∀ other, entry.starts? = some other → other = index) ∧ entry.ends? = none

/-- The entries of taking in a frame: the textures it is cached in, and what the log is
told of them. -/
def isCaching : Entry → Bool
  | .call (.createTexture ..) _ | .call (.copyTexture ..) _ | .release (.texture _) => true
  | .notice _ (.allocatingTexture ..) | .notice _ (.textureFailed _) => true
  | .notice _ (.frameTextureFailed _) => true
  | _ => false

theorem isWithin_of_isCaching {entry : Entry} (hcaching : entry.isCaching = true) :
    entry.IsWithin := by
  unfold isCaching at hcaching
  split at hcaching <;> first | exact ⟨rfl, rfl⟩ | cases hcaching

theorem isStarting_of_within {entry : Entry} {index : UInt32}
    (hstarts : entry.starts? = none) (hends : entry.ends? = none) :
    entry.IsStarting index := by
  refine ⟨?_, hends⟩
  intro other hother
  rw [hstarts] at hother
  cases hother

theorem isStarting_of_starts {entry : Entry} {index : UInt32}
    (hstarts : entry.starts? = some index) (hends : entry.ends? = none) :
    entry.IsStarting index := by
  refine ⟨?_, hends⟩
  intro other hother
  rw [hstarts] at hother
  exact (Option.some.inj hother).symm

end Entry

/-- What is said of a result if it is no failure. -/
def OnSuccess {ε α : Type} (fact : α → Prop) : Except ε α → Prop
  | .ok value => fact value
  | .error _ => True

namespace Capture

variable {α β : Type}

/-- Whatever the device is, an action writes such entries and has such a value. -/
structure Does (action : Capture α) (entries : Entry → Prop) (fact : α → Prop) : Prop where
  writes : ∀ device, ∀ entry ∈ (action device).journal, entries entry
  yields : ∀ device, fact (action device).value

namespace Does

variable {entries entries' : Entry → Prop} {fact : α → Prop} {fact' : β → Prop}

theorem pure {value : α} (hfact : fact value) : Does (pure value) entries fact where
  writes := by
    intro device entry hentry
    rw [pure_apply] at hentry
    cases hentry
  yields := fun _ => hfact

/-- A value of which nothing is to be said. -/
theorem done {value : α} : Does (Pure.pure value) entries (fun _ => True) := pure trivial

/-- An action of which nothing is to be said. -/
theorem any (action : Capture α) : Does action (fun _ => True) (fun _ => True) where
  writes := fun _ _ _ => trivial
  yields := fun _ => trivial

theorem bind {first : Capture α} {next : α → Capture β}
    (hfirst : Does first entries fact)
    (hnext : ∀ value, fact value → Does (next value) entries fact') :
    Does (first >>= next) entries fact' := by
  constructor
  · intro device entry hentry
    rw [bind_apply, List.mem_append] at hentry
    rcases hentry with hbefore | hafter
    · exact hfirst.writes device entry hbefore
    · exact (hnext _ (hfirst.yields device)).writes _ entry hafter
  · intro device
    exact (hnext _ (hfirst.yields device)).yields _

theorem weaken {fact'' : α → Prop} {action : Capture α} (hdoes : Does action entries fact)
    (hentries : ∀ entry, entries entry → entries' entry)
    (hfact : ∀ value, fact value → fact'' value) : Does action entries' fact'' where
  writes := fun device entry hentry => hentries entry (hdoes.writes device entry hentry)
  yields := fun device => hfact _ (hdoes.yields device)

theorem note {entry : Entry} (hentry : entries entry) :
    Does (note entry) entries (fun _ => True) where
  writes := by
    intro device written hwritten
    rwa [List.mem_singleton.mp hwritten]
  yields := fun _ => trivial

theorem release {object : Release} (hentry : entries (.release object)) :
    Does (release object) entries (fun _ => True) where
  writes := by
    intro device written hwritten
    rwa [List.mem_singleton.mp hwritten]
  yields := fun _ => trivial

theorem always {call : Call} {answer : Device → Answer} {act : Device → Device}
    (hentry : ∀ answer, entries (.call call answer)) :
    Does (always call answer act) entries (fun _ => True) where
  writes := by
    intro device written hwritten
    rw [List.mem_singleton.mp hwritten]
    exact hentry _
  yields := fun _ => trivial

/-- A call writes itself; what it hands out comes from the device. -/
theorem fallible {fact : Except PlatformError α → Prop} {point : FaultPoint} {call : Call}
    {answer : α → Answer} {act : Device → Except PlatformError (α × Device)}
    (hentry : ∀ answer, entries (.call call answer))
    (hfailed : ∀ error, fact (.error error))
    (hdone : ∀ device value device', act device = .ok (value, device') → fact (.ok value)) :
    Does (fallible point call answer act) entries fact := by
  have hsplit : ∀ device, ∃ given : Answer,
      (Capture.fallible point call answer act device).journal = [.call call given] ∧
        fact (Capture.fallible point call answer act device).value := by
    intro device
    rcases fallible_cases point call answer act device with
      ⟨error, faults, hresult⟩ | ⟨value, device', hact, hresult⟩
    · rw [hresult]
      exact ⟨_, rfl, hfailed error⟩
    · rw [hresult]
      exact ⟨_, rfl, hdone device value device' hact⟩
  constructor
  · intro device written hwritten
    obtain ⟨given, hjournal, -⟩ := hsplit device
    rw [hjournal] at hwritten
    rw [List.mem_singleton.mp hwritten]
    exact hentry given
  · intro device
    obtain ⟨-, -, hfact⟩ := hsplit device
    exact hfact

/-- A call of which only its entry matters. -/
theorem call {point : FaultPoint} {call : Call} {answer : α → Answer}
    {act : Device → Except PlatformError (α × Device)}
    (hentry : ∀ answer, entries (.call call answer)) :
    Does (Capture.fallible point call answer act) entries (fun _ => True) :=
  fallible hentry (fun _ => trivial) (fun _ _ _ _ => trivial)

theorem acquire {duplication : Duplication} {timeoutMs : UInt32}
    (hentry : ∀ answer, entries (.call (.acquire duplication.output timeoutMs) answer)) :
    Does (acquire duplication timeoutMs) entries (fun _ => True) where
  writes := by
    intro device written hwritten
    rcases acquire_cases duplication timeoutMs device with
      ⟨error, device', hacquired⟩ | ⟨resource, device', hacquired⟩
    · rw [hacquired] at hwritten
      rw [List.mem_singleton.mp hwritten]
      exact hentry _
    · rw [hacquired] at hwritten
      rw [List.mem_singleton.mp hwritten]
      exact hentry _
  yields := fun _ => trivial

end Does

/-- A fact of the value goes with whatever else is said after the action. -/
theorem Triple.and_yields {before : Assertion} {after : α → Assertion} {action : Capture α}
    {fact : α → Prop} (htriple : Triple before action after)
    (hfact : ∀ device, fact (action device).value) :
    Triple before action (fun value past device => after value past device ∧ fact value) := by
  intro past device hbefore
  exact ⟨htriple past device hbefore, hfact device⟩

theorem IsAside.does {action : Capture α} (haside : action.IsAside) :
    Does action Entry.IsWithin (fun _ => True) where
  writes := by
    intro device entry hentry
    have hwritten := haside.entries device entry hentry
    unfold Entry.isAside at hwritten
    split at hwritten <;> first | exact ⟨rfl, rfl⟩ | cases hwritten
  yields := fun _ => trivial

end Capture

open Capture

namespace FrameCache

theorem does_release (cache : FrameCache) :
    Does cache.release (fun entry => entry.isCaching = true) (fun _ => True) := by
  unfold release
  cases cache.texture with
  | none => exact Does.done
  | some texture => exact Does.release rfl

/-- Taking in a frame is about textures, and says something to the log. -/
theorem does_ingest (cache : FrameCache) (source : Texture) (hdr : Bool) :
    Does (cache.ingest source hdr) (fun entry => entry.isCaching = true) (fun _ => True) := by
  have hreallocated : Does (cache.reallocate source hdr)
      (fun entry => entry.isCaching = true) (fun _ => True) := by
    refine Does.bind cache.does_release fun _ _ => ?_
    refine Does.bind (Does.note rfl) fun _ _ => ?_
    refine Does.bind (Does.call fun _ => rfl) fun result _ => ?_
    cases result with
    | ok texture => exact Does.done
    | error error => exact Does.bind (Does.note rfl) fun _ _ => Does.done
  have hcopied : ∀ cache' : FrameCache,
      Does (cache'.fill source) (fun entry => entry.isCaching = true) (fun _ => True) := by
    intro cache'
    unfold fill
    cases cache'.texture with
    | none => exact Does.done
    | some texture => exact Does.always fun _ => rfl
  have hfilled : ∀ cache' : FrameCache, Does (do cache'.fill source; pure cache')
      (fun entry => entry.isCaching = true) (fun _ => True) :=
    fun cache' => Does.bind (hcopied cache') fun _ _ => Does.done
  unfold ingest
  split
  · exact Does.bind (Does.done) fun cache' _ => hfilled cache'
  · exact Does.bind hreallocated fun cache' _ => hfilled cache'

end FrameCache

namespace Session

/-- A session as it is when it started. -/
def IsNew (index : UInt32) (session : Session) : Prop :=
  ∃ preview color, session = ⟨some ⟨index⟩, .empty, preview, index, color, false, 1⟩

/-- A later state of the same session: it is the same monitor's, its handles are
the same, and its duplication is the same or lost. -/
structure Continues (session session' : Session) : Prop where
  monitor : session'.monitor = session.monitor
  color : session'.color = session.color
  refs : session'.refs = session.refs
  duplication : session'.duplication = session.duplication ∨ session'.duplication = none

theorem does_openDuplication (spans : List Span) (output : Output) :
    Does (openDuplication spans output) (Entry.IsStarting output.index)
      (OnSuccess fun opened => opened.1 = ⟨output.index⟩) := by
  have hnegotiated : Does (duplicateWithFormats output offeredFormats)
      (Entry.IsStarting output.index)
      (OnSuccess fun negotiated => ∀ duplication ∈ negotiated,
        duplication = ⟨output.index⟩) := by
    apply Does.fallible (fun _ => Entry.isStarting_of_starts rfl rfl) (fun _ => trivial)
    intro device negotiated device' hact
    obtain ⟨-, rfl, -⟩ | ⟨-, -, rfl, -⟩ := Device.duplicateWithFormats_ok hact
    · exact nofun
    · rintro duplication ⟨⟩
      rfl
  have hduplicated : Does (duplicate output) (Entry.IsStarting output.index)
      (OnSuccess fun duplication => duplication = ⟨output.index⟩) := by
    apply Does.fallible (fun _ => Entry.isStarting_of_starts rfl rfl) (fun _ => trivial)
    intro device duplication device' hact
    obtain ⟨-, rfl, -⟩ := Device.duplicate_ok hact
    rfl
  refine Does.bind hnegotiated fun negotiated hoffered => ?_
  rcases negotiated with error | _ | duplication
  · exact Does.pure trivial
  · refine Does.bind (Does.note (Entry.isStarting_of_within rfl rfl)) fun _ _ => ?_
    refine Does.bind hduplicated fun duplicated hbaseline => ?_
    cases duplicated with
    | error error => exact Does.pure trivial
    | ok duplication => exact Does.pure hbaseline
  · refine Does.bind (Does.call fun _ => Entry.isStarting_of_within rfl rfl) fun color _ => ?_
    cases color with
    | ok color => exact Does.pure (hoffered duplication rfl)
    | error error =>
        exact Does.bind (Does.note (Entry.isStarting_of_within rfl rfl)) fun _ _ =>
          Does.pure (hoffered duplication rfl)

theorem does_output (index : UInt32) :
    Does (Adapter.output index) Entry.IsWithin
      (OnSuccess fun output => output.index = index) := by
  have henumerated : Does (enumOutput index) Entry.IsWithin
      (OnSuccess fun found => ∀ output ∈ found, output.index = index) := by
    apply Does.fallible (fun _ => ⟨rfl, rfl⟩) (fun _ => trivial)
    intro device found device' hact
    obtain ⟨-, rfl, -⟩ := Device.enumOutput_ok hact
    intro output houtput
    obtain ⟨config, -, rfl⟩ := Option.map_eq_some_iff.mp houtput
    rfl
  refine Does.bind henumerated fun found hindex => ?_
  rcases found with error | _ | output
  · exact Does.pure trivial
  · exact Does.pure trivial
  · exact Does.pure (hindex output rfl)

theorem does_startWithin (spans : List Span) (index : UInt32) (config : SessionConfig) :
    Does (startWithin spans index config) (Entry.IsStarting index)
      (OnSuccess (IsNew index)) := by
  have hwithin : ∀ entry : Entry, entry.IsWithin → entry.IsStarting index :=
    fun entry hentry => Entry.isStarting_of_within hentry.1 hentry.2
  refine Does.bind ((does_output index).weaken hwithin fun _ h => h) fun found hindex => ?_
  cases found with
  | error error => exact Does.pure trivial
  | ok output =>
      have hopened := does_openDuplication spans output
      rw [show output.index = index from hindex] at hopened
      refine Does.bind hopened fun opened hduplication => ?_
      rcases opened with error | ⟨duplication, color⟩
      · exact Does.pure trivial
      · have hstarted : ∀ preview : Option Preview, Does
            (do
              notify spans (.sessionStarted index color)
              pure (.ok
                { duplication := some duplication
                  cache := .empty
                  preview
                  monitor := index
                  color
                  frameAvailable := false
                  refs := 1 }))
            (Entry.IsStarting index) (@OnSuccess CaptureError Session (IsNew index)) := by
          intro preview
          refine Does.bind (Does.note (Entry.isStarting_of_within rfl rfl)) fun _ _ => ?_
          apply Does.pure
          rw [show duplication = ⟨index⟩ from hduplication]
          exact ⟨preview, color, rfl⟩
        dsimp only
        split
        · exact Does.bind ((aside_openPreview spans output config.title).does.weaken hwithin
            fun _ h => h) fun preview _ => hstarted preview
        · exact Does.bind Does.done fun preview _ => hstarted preview

/-- A start only asks for a duplication of its own monitor, and the session is that
monitor's. -/
theorem does_start (index : UInt32) (config : SessionConfig) :
    Does (start index config) (Entry.IsStarting index) (OnSuccess (IsNew index)) := by
  refine Does.bind (does_startWithin [.sessionStart index] index config)
    fun started hsession => ?_
  have hended : Does (do endSpan [.sessionStart index]; pure started)
      (Entry.IsStarting index) (OnSuccess (IsNew index)) :=
    Does.bind (Does.note (Entry.isStarting_of_within rfl rfl)) fun _ _ => Does.pure hsession
  cases started with
  | ok session => exact hended
  | error error =>
      exact Does.bind (Does.note (Entry.isStarting_of_within rfl rfl)) fun _ _ => hended

theorem does_present (session : Session) :
    Does session.present Entry.IsWithin
      (fun session' => ∃ preview, session' = { session with preview }) where
  writes := session.aside_present.does.writes
  yields := session.present_value

theorem does_takeFrame (session : Session) (duplication : Duplication)
    (resource : FrameResource) :
    Does (session.takeFrame duplication resource) Entry.IsWithin
      (fun session' => session.Continues session') := by
  have hhanded : Does (handBack duplication) Entry.IsWithin (fun _ => True) := by
    refine Does.bind (Does.call fun _ => ⟨rfl, rfl⟩) fun handed _ => ?_
    cases handed with
    | ok _ => exact Does.done
    | error error => exact Does.note ⟨rfl, rfl⟩
  refine Does.bind (Does.call fun _ => ⟨rfl, rfl⟩) fun queried _ => ?_
  cases queried with
  | error error =>
      refine Does.bind (Does.note ⟨rfl, rfl⟩) fun _ _ => ?_
      exact Does.bind hhanded fun _ _ => Does.pure ⟨rfl, rfl, rfl, .inl rfl⟩
  | ok texture =>
      have hingested := (session.cache.does_ingest texture session.color.hdr).weaken
        (fun _ => Entry.isWithin_of_isCaching) fun _ h => h
      refine Does.bind hingested fun cache _ => ?_
      refine Does.bind hhanded fun _ _ => ?_
      refine (does_present { session with cache, frameAvailable := true }).weaken
        (fun _ h => h) ?_
      rintro session' ⟨preview, rfl⟩
      exact ⟨rfl, rfl, rfl, .inl rfl⟩

theorem does_update (session : Session) :
    Does session.update Entry.IsWithin (fun result => session.Continues result.2) := by
  have hshown : Does (do let session ← session.present; pure (true, session))
      Entry.IsWithin (fun result => session.Continues result.2) := by
    refine Does.bind session.does_present fun session' hsession' => ?_
    obtain ⟨preview, rfl⟩ := hsession'
    exact Does.pure ⟨rfl, rfl, rfl, .inl rfl⟩
  unfold update
  rcases session.duplication with _ | duplication
  · exact Does.pure ⟨rfl, rfl, rfl, .inl rfl⟩
  · refine Does.bind (Does.acquire fun _ => ⟨rfl, rfl⟩) fun acquired _ => ?_
    rcases acquired with (index | error | _ | _) | resource
    · exact Does.bind (Does.note ⟨rfl, rfl⟩) fun _ _ => hshown
    · exact Does.bind (Does.note ⟨rfl, rfl⟩) fun _ _ => hshown
    · refine Does.bind (Does.note ⟨rfl, rfl⟩) fun _ _ => ?_
      exact Does.bind (Does.release ⟨rfl, rfl⟩) fun _ _ =>
        Does.pure ⟨rfl, rfl, rfl, .inr rfl⟩
    · exact hshown
    · exact Does.bind (session.does_takeFrame duplication resource)
        fun session' hsession' => Does.pure hsession'

theorem does_setPreviewVisible (session : Session) (visible : Bool) :
    Does (session.setPreviewVisible visible) Entry.IsWithin
      (fun session' => ∃ preview, session' = { session with preview }) where
  writes := (session.aside_setPreviewVisible visible).does.writes
  yields := session.setPreviewVisible_value visible

theorem does_release (session : Session) :
    Does session.release Entry.IsWithin (fun _ => True) := by
  have hduplication : Does
      (session.duplication.elim (pure ()) fun duplication =>
        Capture.release (.duplication duplication.output))
      Entry.IsWithin (fun _ => True) := by
    cases session.duplication with
    | none => exact Does.done
    | some duplication => exact Does.release ⟨rfl, rfl⟩
  rw [release_eq]
  refine Does.bind hduplication fun _ _ => ?_
  refine Does.bind (session.cache.does_release.weaken
    (fun _ => Entry.isWithin_of_isCaching) fun _ h => h) fun _ _ => ?_
  cases session.preview with
  | none => exact Does.done
  | some preview => exact preview.aside_release.does

end Session
end DesktopCapture
