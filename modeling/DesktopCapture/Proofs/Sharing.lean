import DesktopCapture.Proofs.Turn

/-!
# Sessions shared by consumers

Any number of consumers take their steps in any order.  A consumer holds a handle
from the step that gets it to the step in which it gives it back.  As long as every
consumer gives back only what it holds, the count of a session is the number of
handles held on its monitor, so a session lives exactly as long as somebody holds a
handle on it.
-/

namespace DesktopCapture
namespace Scenario

/-- A step and the consumer that takes it. -/
structure ConsumerStep where
  consumer : Nat
  step : DuplicatorStep

/-- The handles held by consumers after a transfer with one of them.  A handle got
twice is listed twice. -/
def held (consumer : Nat) (handles : List (Nat × Handle)) : Transfer → List (Nat × Handle)
  | .none => handles
  | .got handle => (consumer, handle) :: handles
  | .returned handle => handles.erase (consumer, handle)

/-- How many of the handles held are on a monitor. -/
def heldOn (handles : List (Nat × Handle)) (index : UInt32) : Nat :=
  handles.countP fun holding => holding.2 = ⟨index⟩

theorem heldOn_pos {handles : List (Nat × Handle)} {index : UInt32} :
    0 < heldOn handles index ↔ ∃ consumer, (consumer, ⟨index⟩) ∈ handles := by
  rw [heldOn, List.countP_pos_iff]
  constructor
  · rintro ⟨⟨consumer, handle⟩, hmember, hhandle⟩
    have hsame : handle = ⟨index⟩ := by simpa using hhandle
    exact ⟨consumer, hsame ▸ hmember⟩
  · rintro ⟨consumer, hmember⟩
    exact ⟨(consumer, ⟨index⟩), hmember, by simp⟩

theorem heldOn_cons (consumer : Nat) (handle : Handle) (handles : List (Nat × Handle))
    (index : UInt32) : heldOn ((consumer, handle) :: handles) index =
      heldOn handles index + if index = handle.monitor then 1 else 0 := by
  obtain ⟨monitor⟩ := handle
  rw [heldOn, heldOn, List.countP_cons]
  by_cases hindex : index = monitor <;> simp [hindex, eq_comm]

theorem heldOn_erase {consumer : Nat} {handle : Handle} {handles : List (Nat × Handle)}
    (hmember : (consumer, handle) ∈ handles) (index : UInt32) : heldOn handles index =
      heldOn (handles.erase (consumer, handle)) index +
        if index = handle.monitor then 1 else 0 := by
  rw [← heldOn_cons]
  exact (List.perm_cons_erase hmember).countP_eq _

/-- The state of a run of consumers. -/
structure SharedState where
  state : DuplicatorState
  /-- Who holds which handles. -/
  held : List (Nat × Handle)

namespace SharedState

/-- The state before the first step. -/
def initial (outputs : List OutputConfig) (config : SessionConfig) : SharedState :=
  ⟨.initial outputs config, []⟩

/-- Take a consumer's step. -/
def step (shared : SharedState) (taken : ConsumerStep) : Record × SharedState :=
  let done := shared.state.step taken.step
  (done.1,
    { state := done.2
      held := Scenario.held taken.consumer shared.held
        (.of shared.state.handles taken.step done.1.reply) })

/-- Whether a consumer may take a step: it gives back only handles it holds, and
nobody drops the duplicator. -/
def permits (shared : SharedState) (taken : ConsumerStep) : Bool :=
  match taken.step with
  | .drop => false
  | .use index .destroy => (shared.state.handles.get? index).any fun handle =>
    shared.held.contains (taken.consumer, handle)
  | _ => true

/-- Whether every step is permitted when it is taken. -/
def isDisciplined (shared : SharedState) : List ConsumerStep → Bool
  | [] => true
  | taken :: rest => shared.permits taken && (shared.step taken).2.isDisciplined rest

/-- The state after steps. -/
def run (shared : SharedState) (steps : List ConsumerStep) : SharedState :=
  (runFrom step shared steps).2

/-- Everything that happens in steps. -/
def history (shared : SharedState) (steps : List ConsumerStep) : List Entry :=
  journal (runFrom step shared steps).1

theorem run_cons (shared : SharedState) (taken : ConsumerStep)
    (rest : List ConsumerStep) :
    shared.run (taken :: rest) = (shared.step taken).2.run rest := by
  rw [run, runFrom_cons]
  rfl

theorem run_append (shared : SharedState) (before steps : List ConsumerStep) :
    shared.run (before ++ steps) = (shared.run before).run steps := by
  rw [run, runFrom_append]
  rfl

theorem isDisciplined_append {shared : SharedState} {before steps : List ConsumerStep} :
    shared.isDisciplined (before ++ steps) = true ↔
      shared.isDisciplined before = true ∧ (shared.run before).isDisciplined steps = true := by
  induction before generalizing shared with
  | nil => simp [isDisciplined, run]
  | cons taken rest ih =>
      rw [List.cons_append, isDisciplined, isDisciplined, Bool.and_eq_true,
        Bool.and_eq_true, ih, and_assoc]
      rfl

theorem history_cons (shared : SharedState) (taken : ConsumerStep)
    (rest : List ConsumerStep) : shared.history (taken :: rest) =
      (shared.step taken).1.journal ++ (shared.step taken).2.history rest := by
  simp [history, journal]

end SharedState
end Scenario

open Scenario

/-! ## One step -/

/-- The same session at a later time, however many handles it has. -/
structure Session.IsLater (session session' : Session) : Prop where
  monitor : session'.monitor = session.monitor
  color : session'.color = session.color
  duplication : session'.duplication = session.duplication ∨ session'.duplication = none

theorem Session.IsLater.refl (session : Session) : session.IsLater session :=
  ⟨rfl, rfl, .inl rfl⟩

theorem Session.IsLater.trans {first second third : Session}
    (hbefore : first.IsLater second) (hafter : second.IsLater third) :
    first.IsLater third := by
  refine ⟨hafter.monitor.trans hbefore.monitor, hafter.color.trans hbefore.color, ?_⟩
  rcases hafter.duplication with hsame | hlost
  · rw [hsame]
    exact hbefore.duplication
  · exact .inr hlost

/-- A count is that of a session, or zero if there is none. -/
def Counts : Option Session → Nat → Prop
  | none, count => count = 0
  | some session, count => session.refs = count ∧ 0 < count

theorem Counts.of_continues {before after : Option Session} {count : Nat}
    (hcount : Counts before count) (hrel : Option.Rel Session.Continues before after) :
    Counts after count := by
  cases hrel with
  | none => exact hcount
  | some hcontinues => exact ⟨hcontinues.refs.trans hcount.1, hcount.2⟩

/-- What the journal of a step says of the sessions before and after it. -/
structure Orderly (sessions sessions' : MonitorTable Session) (journal : List Entry) :
    Prop where
  starts : ∀ entry ∈ journal, ∀ index, entry.starts? = some index →
    sessions.get? index = none
  ends : ∀ entry ∈ journal, ∀ index, entry.ends? = some index →
    sessions'.get? index = none
  registered : ∀ spans index, .notice spans (.unregisteredRelease index) ∉ journal
  later : ∀ index session session', sessions.get? index = some session →
    sessions'.get? index = some session' → session.IsLater session'

theorem isLater_insert {sessions : MonitorTable Session} {index : UInt32}
    {session session' : Session} (hlive : sessions.get? index = some session)
    (hlater : session.IsLater session') :
    ∀ other before after, sessions.get? other = some before →
      (sessions.insert index session').get? other = some after → before.IsLater after := by
  intro other before after hbefore hafter
  rw [MonitorTable.get?_insert] at hafter
  by_cases hother : other = index
  · rw [hother, hlive] at hbefore
    rw [if_pos hother] at hafter
    cases hbefore
    cases hafter
    exact hlater
  · rw [if_neg hother, hbefore] at hafter
    cases hafter
    exact .refl before

theorem Steady.isLater {sessions sessions' : MonitorTable Session}
    (hsteady : Steady sessions sessions') : ∀ index session session',
      sessions.get? index = some session → sessions'.get? index = some session' →
        session.IsLater session' := by
  intro index session session' hlive hlive'
  have hrel := hsteady index
  rw [hlive, hlive'] at hrel
  cases hrel with
  | some hcontinues =>
      exact ⟨hcontinues.monitor, hcontinues.color, hcontinues.duplication⟩

theorem isLater_self (sessions : MonitorTable Session) : ∀ index session session',
    sessions.get? index = some session → sessions.get? index = some session' →
      session.IsLater session' :=
  (Steady.refl sessions).isLater

section

variable {sessions sessions' : MonitorTable Session} {transfer : Transfer}
  {journal : List Entry}

/-- Entries within sessions are in order whatever happens. -/
theorem Orderly.of_within (hwithin : ∀ entry ∈ journal, entry.IsWithin)
    (hlater : ∀ index session session', sessions.get? index = some session →
      sessions'.get? index = some session' → session.IsLater session') :
    Orderly sessions sessions' journal where
  starts := by
    intro entry hentry index hstarts
    rw [(hwithin entry hentry).1] at hstarts
    cases hstarts
  ends := by
    intro entry hentry index hends
    rw [(hwithin entry hentry).2] at hends
    cases hends
  registered := by
    intro spans index hentry
    cases (hwithin _ hentry).2
  later := hlater

theorem Orderly.of_starting {index : UInt32} (hvacant : sessions.get? index = none)
    (hstarting : ∀ entry ∈ journal, entry.IsStarting index)
    (hlater : ∀ other session session', sessions.get? other = some session →
      sessions'.get? other = some session' → session.IsLater session') :
    Orderly sessions sessions' journal where
  starts := by
    intro entry hentry other hstarts
    rw [(hstarting entry hentry).1 other hstarts]
    exact hvacant
  ends := by
    intro entry hentry other hends
    rw [(hstarting entry hentry).2] at hends
    cases hends
  registered := by
    intro spans other hentry
    cases (hstarting _ hentry).2
  later := hlater

/-- If only handles with a session are given back, the journal of a turn is in
order. -/
theorem Turn.orderly (hturn : Turn sessions transfer journal sessions')
    (hregistered : ∀ handle, transfer = .returned handle →
      sessions.get? handle.monitor ≠ none) :
    Orderly sessions sessions' journal := by
  cases hturn with
  | steady hwithin hsteady => exact .of_within hwithin hsteady.isLater
  | refused hvacant hstarting =>
      exact .of_starting hvacant hstarting (isLater_self sessions)
  | @started index _ session hvacant hstarting hnew =>
      apply Orderly.of_starting hvacant hstarting
      intro other before after hbefore hafter
      rw [MonitorTable.get?_insert] at hafter
      split at hafter
      · next hother =>
        rw [hother, hvacant] at hbefore
        cases hbefore
      · exact isLater_self sessions other before after hbefore hafter
  | joined hlive =>
      exact .of_within (List.forall_mem_nil _) (isLater_insert hlive ⟨rfl, rfl, .inl rfl⟩)
  | left hlive hrefs =>
      exact .of_within (List.forall_mem_nil _) (isLater_insert hlive ⟨rfl, rfl, .inl rfl⟩)
  | @ended handle session journal hlive hrefs hwithin =>
      have hremaining : ∀ index before after, sessions.get? index = some before →
          (sessions.erase handle.monitor).get? index = some after →
            before.IsLater after := by
        intro index before after hbefore hafter
        rw [MonitorTable.get?_erase] at hafter
        split at hafter
        · cases hafter
        · exact isLater_self sessions index before after hbefore hafter
      have hrest := Orderly.of_within hwithin hremaining
      constructor
      · intro entry hentry index hstarts
        rcases List.mem_cons.mp hentry with rfl | hentry
        · cases hstarts
        · exact hrest.starts entry hentry index hstarts
      · intro entry hentry index hends
        rcases List.mem_cons.mp hentry with rfl | hentry
        · cases hends
          rw [MonitorTable.get?_erase, if_pos rfl]
        · exact hrest.ends entry hentry index hends
      · intro spans index hentry
        rcases List.mem_cons.mp hentry with hfirst | hentry
        · cases hfirst
        · exact hrest.registered spans index hentry
      · exact hremaining
  | missed hvacant => exact absurd hvacant (hregistered _ rfl)

/-- If only handles that are held are given back, a turn keeps the counts those of
the handles. -/
theorem Turn.counts {consumer : Nat} {handles : List (Nat × Handle)}
    (hturn : Turn sessions transfer journal sessions')
    (hcounts : ∀ index, Counts (sessions.get? index) (heldOn handles index))
    (hholds : ∀ handle, transfer = .returned handle → (consumer, handle) ∈ handles)
    (index : UInt32) :
    Counts (sessions'.get? index) (heldOn (held consumer handles transfer) index) := by
  have hcount := hcounts index
  cases hturn with
  | steady hwithin hsteady => exact hcount.of_continues (hsteady index)
  | refused hvacant hstarting => exact hcount
  | @started monitor _ session hvacant hstarting hnew =>
      rw [held, heldOn_cons, MonitorTable.get?_insert]
      by_cases hindex : index = monitor
      · obtain ⟨preview, color, rfl⟩ := hnew
        rw [hindex, hvacant] at hcount
        rw [if_pos hindex, if_pos hindex, hindex,
          show heldOn handles monitor = 0 from hcount]
        exact ⟨rfl, Nat.one_pos⟩
      · rwa [if_neg hindex, if_neg hindex]
  | @joined monitor session hlive =>
      rw [held, heldOn_cons, MonitorTable.get?_insert]
      by_cases hindex : index = monitor
      · rw [hindex, hlive] at hcount
        rw [if_pos hindex, if_pos hindex, hindex, ← hcount.1]
        exact ⟨rfl, Nat.succ_pos _⟩
      · rwa [if_neg hindex, if_neg hindex]
  | @left handle session hlive hrefs =>
      have hless := heldOn_erase (hholds handle rfl) index
      rw [held, MonitorTable.get?_insert]
      by_cases hindex : index = handle.monitor
      · rw [hindex, hlive] at hcount
        rw [if_pos hindex, hindex] at hless
        rw [if_pos hindex, hindex]
        have hrefs' := hcount.1
        refine ⟨?_, ?_⟩
        · change session.refs - 1 = _
          omega
        · omega
      · rw [if_neg hindex, Nat.add_zero] at hless
        rwa [if_neg hindex, ← hless]
  | @ended handle session journal hlive hrefs hwithin =>
      have hless := heldOn_erase (hholds handle rfl) index
      rw [held, MonitorTable.get?_erase]
      by_cases hindex : index = handle.monitor
      · rw [hindex, hlive] at hcount
        rw [if_pos hindex, hindex] at hless
        rw [if_pos hindex, hindex]
        have hrefs' := hcount.1
        change heldOn _ _ = 0
        omega
      · rw [if_neg hindex, Nat.add_zero] at hless
        rwa [if_neg hindex, ← hless]
  | @missed handle hvacant =>
      have hpositive := heldOn_pos.mpr ⟨consumer, hholds handle rfl⟩
      have hzero := hcounts handle.monitor
      rw [hvacant] at hzero
      exact absurd hzero (Nat.ne_of_gt hpositive)

end

namespace Scenario.SharedState

/-- The duplicator is there and its sessions count the handles held. -/
structure Counted (shared : SharedState) : Prop where
  duplicator : ∃ duplicator, shared.state.duplicator = some duplicator
  counts : ∀ index, Counts (shared.state.sessions.get? index) (heldOn shared.held index)

theorem Counted.live {shared : SharedState} (hcounted : shared.Counted) {index : UInt32} :
    shared.state.sessions.get? index ≠ none ↔
      ∃ consumer, (consumer, ⟨index⟩) ∈ shared.held := by
  have hcount := hcounted.counts index
  rw [← heldOn_pos]
  cases hlive : shared.state.sessions.get? index with
  | none =>
      rw [hlive] at hcount
      rw [show heldOn shared.held index = 0 from hcount]
      simp
  | some session =>
      rw [hlive] at hcount
      simpa using hcount.2

theorem counted_initial (outputs : List OutputConfig) (config : SessionConfig) :
    (initial outputs config).Counted where
  duplicator := ⟨_, rfl⟩
  counts := fun _ => rfl

/-- A permitted step gives back only what its consumer holds. -/
theorem holds_of_permits {shared : SharedState} {taken : ConsumerStep}
    (hpermits : shared.permits taken = true) (reply : Reply) (handle : Handle)
    (htransfer : Transfer.of shared.state.handles taken.step reply = .returned handle) :
    (taken.consumer, handle) ∈ shared.held := by
  unfold permits at hpermits
  unfold Transfer.of at htransfer
  split at htransfer
  · cases htransfer
  · next _ index hstep =>
    simp only [hstep] at hpermits
    cases hremembered : shared.state.handles.get? index with
    | none =>
        rw [hremembered] at hpermits
        cases hpermits
    | some remembered =>
        rw [hremembered] at hpermits htransfer
        cases htransfer
        simpa using hpermits
  · cases htransfer

/-- A permitted step keeps the counts, and its journal is in order. -/
theorem counted_step {shared : SharedState} {taken : ConsumerStep}
    (hcounted : shared.Counted) (hpermits : shared.permits taken = true) :
    (shared.step taken).2.Counted ∧
      Orderly shared.state.sessions (shared.step taken).2.state.sessions
        (shared.step taken).1.journal := by
  have htaken : taken.step ≠ .drop := by
    intro hdrop
    simp [permits, hdrop] at hpermits
  obtain ⟨duplicator, hduplicator⟩ := hcounted.duplicator
  obtain ⟨hleft, hturn⟩ := step_turn hduplicator htaken
  have hholds := holds_of_permits hpermits (shared.state.step taken.step).1.reply
  refine ⟨⟨hleft, hturn.counts hcounted.counts hholds⟩, ?_⟩
  apply hturn.orderly
  intro handle htransfer
  exact hcounted.live.mpr ⟨taken.consumer, hholds handle htransfer⟩

/-! ## Whole runs -/

theorem counted_run {shared : SharedState} (hcounted : shared.Counted)
    {steps : List ConsumerStep} (hdisciplined : shared.isDisciplined steps = true) :
    (shared.run steps).Counted ∧
      ∀ spans index, .notice spans (.unregisteredRelease index) ∉ shared.history steps := by
  induction steps generalizing shared with
  | nil => exact ⟨hcounted, fun _ _ => List.not_mem_nil⟩
  | cons taken rest ih =>
      rw [isDisciplined, Bool.and_eq_true] at hdisciplined
      obtain ⟨hnext, horderly⟩ := counted_step hcounted hdisciplined.1
      obtain ⟨hlast, hregistered⟩ := ih hnext hdisciplined.2
      rw [run_cons]
      refine ⟨hlast, ?_⟩
      intro spans index hentry
      rw [history_cons, List.mem_append] at hentry
      rcases hentry with hnow | hlater
      · exact horderly.registered spans index hnow
      · exact hregistered spans index hlater

/-- While handles on a monitor are held without a gap, its session is the same one. -/
theorem stays {shared : SharedState} (hcounted : shared.Counted)
    {steps : List ConsumerStep} (hdisciplined : shared.isDisciplined steps = true)
    {index : UInt32}
    (hheld : ∀ taken, taken <+: steps →
      ∃ consumer, (consumer, ⟨index⟩) ∈ (shared.run taken).held)
    {session : Session} (hlive : shared.state.sessions.get? index = some session) :
    (∀ entry ∈ shared.history steps,
      entry.starts? ≠ some index ∧ entry.ends? ≠ some index) ∧
      ∃ session', (shared.run steps).state.sessions.get? index = some session' ∧
        session.IsLater session' := by
  induction steps generalizing shared session with
  | nil => exact ⟨List.forall_mem_nil _, session, hlive, .refl session⟩
  | cons taken rest ih =>
      rw [isDisciplined, Bool.and_eq_true] at hdisciplined
      obtain ⟨hnext, horderly⟩ := counted_step hcounted hdisciplined.1
      have hheld' : ∀ others, others <+: rest →
          ∃ consumer, (consumer, ⟨index⟩) ∈ ((shared.step taken).2.run others).held := by
        intro others hprefix
        rw [← run_cons]
        exact hheld (taken :: others) (List.cons_prefix_cons.mpr ⟨rfl, hprefix⟩)
      have hlive' := hnext.live.mpr (hheld' [] (List.nil_prefix))
      obtain ⟨session', hsession'⟩ := Option.ne_none_iff_exists'.mp hlive'
      obtain ⟨hrest, last, hlast, hlater⟩ := ih hnext hdisciplined.2 hheld' hsession'
      rw [run_cons]
      refine ⟨?_, last, hlast, ?_⟩
      · intro entry hentry
        rw [history_cons, List.mem_append] at hentry
        rcases hentry with hnow | hlater
        · constructor
          · intro hstarts
            rw [horderly.starts entry hnow index hstarts] at hlive
            cases hlive
          · intro hends
            exact hlive' (horderly.ends entry hnow index hends)
        · exact hrest entry hlater
      · exact (horderly.later index session session' hlive hsession').trans hlater

/-- However consumers take turns, if each gives back only what it holds, a session is
live exactly while a handle on its monitor is held, and it counts these handles.
Nobody gives back a handle without a session, and while handles on a monitor are
held without a gap, no duplication of it is asked for and its session is not ended. -/
theorem sessions_live_while_held (outputs : List OutputConfig) (config : SessionConfig)
    (steps : List ConsumerStep)
    (hdisciplined : (initial outputs config).isDisciplined steps = true) :
    let shared := initial outputs config
    let last := shared.run steps
    (∀ index, (∃ session, last.state.sessions.get? index = some session) ↔
      ∃ consumer, (consumer, ⟨index⟩) ∈ last.held) ∧
    (∀ index session, last.state.sessions.get? index = some session →
      session.refs = heldOn last.held index) ∧
    (∀ spans index, .notice spans (.unregisteredRelease index) ∉ shared.history steps) ∧
    (∀ before during index, steps = before ++ during →
      (∀ taken, taken <+: during →
        ∃ consumer, (consumer, ⟨index⟩) ∈ (shared.run (before ++ taken)).held) →
      (∀ entry ∈ (shared.run before).history during,
        entry.starts? ≠ some index ∧ entry.ends? ≠ some index) ∧
      ∃ session session', (shared.run before).state.sessions.get? index = some session ∧
        last.state.sessions.get? index = some session' ∧ session.IsLater session') := by
  intro shared last
  obtain ⟨hcounted, hregistered⟩ := counted_run (counted_initial outputs config) hdisciplined
  refine ⟨?_, ?_, hregistered, ?_⟩
  · intro index
    rw [← Option.ne_none_iff_exists']
    exact hcounted.live
  · intro index session hlive
    have hcount := hcounted.counts index
    rw [show (initial outputs config).run steps = last from rfl, hlive] at hcount
    exact hcount.1
  · rintro before during index rfl hheld
    obtain ⟨hbefore, hduring⟩ := isDisciplined_append.mp hdisciplined
    obtain ⟨hfirst, -⟩ := counted_run (counted_initial outputs config) hbefore
    simp only [run_append] at hheld
    have hlive := hfirst.live.mpr (hheld [] List.nil_prefix)
    obtain ⟨session, hsession⟩ := Option.ne_none_iff_exists'.mp hlive
    obtain ⟨hquiet, session', hsession', hlater⟩ := stays hfirst hduring hheld hsession
    refine ⟨hquiet, session, session', hsession, ?_, hlater⟩
    rw [show last = (shared.run before).run during from run_append _ _ _]
    exact hsession'

/-- Two consumers share a session; the first gives its handle back. -/
theorem sessions_live_while_held_two :
    let shared := initial singleOutputDevice.outputs .standard
    let steps : List ConsumerStep :=
      [⟨0, .create 0⟩, ⟨1, .create 0⟩, ⟨0, .use 0 .update⟩, ⟨0, .use 0 .destroy⟩]
    shared.isDisciplined steps = true ∧ (shared.run steps).held = [(1, ⟨0⟩)] ∧
      ∃ session, (shared.run steps).state.sessions.get? 0 = some session ∧
        session.refs = 1 := by
  intro shared steps
  have hdisciplined : shared.isDisciplined steps = true := by decide +kernel
  have hheld : (shared.run steps).held = [(1, ⟨0⟩)] := by decide +kernel
  obtain ⟨hlive, hrefs, -, -⟩ :=
    sessions_live_while_held singleOutputDevice.outputs .standard steps hdisciplined
  obtain ⟨session, hsession⟩ := (hlive 0).mpr ⟨1, by rw [hheld]; exact List.mem_cons_self⟩
  refine ⟨hdisciplined, hheld, session, hsession, ?_⟩
  rw [hrefs 0 session hsession, hheld]
  rfl

end Scenario.SharedState
end DesktopCapture
