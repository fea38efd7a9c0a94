import DesktopCapture.Proofs.HeldFrames
import DesktopCapture.Proofs.Tracking

/-!
# Monitors do not interfere

Sessions of different monitors share the device: the numbers it gives out, its bound
target, its script and its counters.  All the same an operation on one monitor leaves the
session of another as it is, and it does not matter which of two operations comes first,
short of the numbers and of the order of what the device lists.

What an operation reads of the device, no operation on another monitor changes; what it
does to the device is in its journal, and what two journals do together does not depend
on their order.
-/

namespace DesktopCapture

open Capture Scenario

/-! ## Blocks of numbers exchanged -/

/-- The numbers with two blocks behind `base` exchanged, the first of `first` numbers and
the second of `second`. -/
def exchange (base first second id : Nat) : Nat :=
  if id ≤ base then id
  else if id ≤ base + first then id + second
  else if id ≤ base + first + second then id - first
  else id

theorem exchange_exchange (base first second id : Nat) :
    exchange base second first (exchange base first second id) = id := by
  unfold exchange
  split
  · rfl
  · grind

theorem exchange_old {base id : Nat} (first second : Nat) (hold : id ≤ base) :
    exchange base first second id = id := if_pos hold

theorem exchange_first {base first second n : Nat} (hn : n < first) :
    exchange base first second (base + 1 + n) = base + second + 1 + n := by
  have hnew : ¬base + 1 + n ≤ base := by omega
  have hblock : base + 1 + n ≤ base + first := by omega
  rw [exchange, if_neg hnew, if_pos hblock]
  omega

theorem exchange_second {base first second n : Nat} (hn : n < second) :
    exchange base first second (base + first + 1 + n) = base + 1 + n := by
  have hnew : ¬base + first + 1 + n ≤ base := by omega
  have hlater : ¬base + first + 1 + n ≤ base + first := by omega
  have hblock : base + first + 1 + n ≤ base + first + second := by omega
  rw [exchange, if_neg hnew, if_neg hlater, if_pos hblock]
  omega

theorem exchange_bijective (base first second : Nat) :
    Function.Bijective (exchange base first second) :=
  Function.bijective_iff_has_inverse.mpr ⟨exchange base second first,
    exchange_exchange base first second, exchange_exchange base second first⟩

/-! ## Journals exchanged -/

/-- Two lists grew from the same one by the same parts, the second by the later part
first and under other names. -/
def Exchanged {β : Type} (rename : β → β) (old left right : List β) : Prop :=
  ∃ earlier later, left = old ++ (earlier ++ later) ∧
    right = old ++ (later ++ earlier).map rename

/-- Two devices came of the same one by the same entries in another order: they are the
same but for the numbers and the order in their lists. -/
structure Device.Exchanged (names : Nat → Nat) (before device device' : Device) : Prop where
  setting : device.SameSetting device'
  frames : device'.frames = device.frames
  releases : DesktopCapture.Exchanged (Release.renumber names) before.releases
    device.releases device'.releases
  offeredFormats : device'.offeredFormats = device.offeredFormats
  baselineDuplications : device'.baselineDuplications = device.baselineDuplications
  acquires : device'.acquires = device.acquires
  heldFrames : device'.heldFrames = device.heldFrames
  texturesCreated : device'.texturesCreated = device.texturesCreated
  liveTextures : device'.liveTextures = device.liveTextures
  copies : DesktopCapture.Exchanged (Prod.map names names) before.copies
    device.copies device'.copies
  swapChainCopies : DesktopCapture.Exchanged (Prod.map names (Prod.map names id))
    before.swapChainCopies device.swapChainCopies device'.swapChainCopies
  restores : device'.restores = device.restores
  clears : device'.clears = device.clears
  presents : DesktopCapture.Exchanged (Present.renumber names) before.presents
    device.presents device'.presents
  windowTitles : DesktopCapture.Exchanged id before.windowTitles
    device.windowTitles device'.windowTitles
  lastId : device'.lastId = device.lastId

namespace Device

variable {names : Nat → Nat}

/-- What entries list, they list in either order. -/
theorem exchanged_list {β : Type} (field : Device → List β) (listed : Entry → Option β)
    {rename : β → β}
    (hentry : ∀ device entry,
      field (device.replay entry) = field device ++ (listed entry).toList)
    (hrename : ∀ entry : Entry, listed (entry.renumber names) = (listed entry).map rename)
    (earlier later : List Entry) (device : Device) :
    DesktopCapture.Exchanged rename (field device)
      (field ((earlier ++ later).foldl replay device))
      (field (((later ++ earlier).map (Entry.renumber names)).foldl replay device)) := by
  refine ⟨earlier.filterMap listed, later.filterMap listed, ?_, ?_⟩
  · rw [foldl_replay_list field listed hentry, List.filterMap_append]
  · rw [foldl_replay_list field listed hentry, List.filterMap_map, ← List.filterMap_append,
      List.map_filterMap]
    exact congrArg (fun view => field device ++ List.filterMap view (later ++ earlier))
      (funext hrename)

/-- What entries count, they count in either order. -/
theorem exchanged_count (field : Device → Nat) (counted : Entry → Bool)
    (hentry : ∀ device entry,
      field (device.replay entry) = field device + (counted entry).toNat)
    (hsame : ∀ entry : Entry, counted (entry.renumber names) = counted entry)
    (earlier later : List Entry) (device : Device) :
    field (((later ++ earlier).map (Entry.renumber names)).foldl replay device) =
      field ((earlier ++ later).foldl replay device) := by
  rw [foldl_replay_count field counted hentry, foldl_replay_count field counted hentry,
    countP_renumber hsame, List.countP_append, List.countP_append,
    Nat.add_comm (later.countP counted)]

/-- Two journals replayed in either order do the same to a device, as far as held frames
and live textures allow it. -/
theorem exchanged_replay {earlier later : List Entry} {device left right : Device}
    (hleft : left = (earlier ++ later).foldl replay device)
    (hright : right = ((later ++ earlier).map (Entry.renumber names)).foldl replay device)
    (hheld : right.heldFrames = left.heldFrames)
    (hlive : right.liveTextures = left.liveTextures) :
    device.Exchanged names left right := by
  have hcount : ∀ (field : Device → Nat) (counted : Entry → Bool),
      (∀ device entry, field (device.replay entry) = field device + (counted entry).toNat) →
      (∀ entry : Entry, counted (entry.renumber names) = counted entry) →
        field right = field left := by
    intro field counted hentry hkind
    rw [hleft, hright]
    exact exchanged_count field counted hentry hkind earlier later device
  have hlist : ∀ {β : Type} (field : Device → List β) (listed : Entry → Option β)
      {rename : β → β},
      (∀ device entry, field (device.replay entry) = field device ++ (listed entry).toList) →
      (∀ entry : Entry, listed (entry.renumber names) = (listed entry).map rename) →
        DesktopCapture.Exchanged rename (field device) (field left) (field right) := by
    intro β field listed rename hentry hrename
    rw [hleft, hright]
    exact exchanged_list field listed hentry hrename earlier later device
  have hkind := Entry.sameKind_renumber names
  constructor
  · rw [hleft, hright]
    exact (sameSetting_replay _ device).symm.trans (sameSetting_replay _ device)
  · funext index
    have hpolled : ∀ entry : Entry, decide ((entry.renumber names).polled? = some index) =
        decide (entry.polled? = some index) := by
      intro entry
      rw [(hkind entry).polled]
    rw [hleft, hright, foldl_replay_frames, foldl_replay_frames, countP_renumber hpolled,
      List.countP_append, List.countP_append, Nat.add_comm]
  · exact hlist Device.releases Entry.released? (fun _ _ => by rw [replay_eq])
      Entry.released?_renumber
  · have hany : ((later ++ earlier).map (Entry.renumber names)).any Entry.isNegotiation =
        (earlier ++ later).any Entry.isNegotiation := by
      have hview : Entry.isNegotiation ∘ Entry.renumber names = Entry.isNegotiation :=
        funext fun entry => (hkind entry).isNegotiation
      rw [List.any_map, hview, List.any_append, List.any_append, Bool.or_comm]
    rw [hleft, hright, foldl_replay_offeredFormats, foldl_replay_offeredFormats, hany]
  · exact hcount Device.baselineDuplications Entry.isBaseline (fun _ _ => by rw [replay_eq])
      fun entry => (hkind entry).isBaseline
  · exact hcount Device.acquires Entry.isPoll (fun _ _ => by rw [replay_eq])
      fun entry => (hkind entry).isPoll
  · exact hheld
  · exact hcount Device.texturesCreated Entry.isAllocation (fun _ _ => by rw [replay_eq])
      fun entry => (hkind entry).isAllocation
  · exact hlive
  · exact hlist Device.copies Entry.copied? (fun _ _ => by rw [replay_eq])
      Entry.copied?_renumber
  · exact hlist Device.swapChainCopies Entry.drawn? (fun _ _ => by rw [replay_eq])
      Entry.drawn?_renumber
  · exact hcount Device.restores Entry.isRestore (fun _ _ => by rw [replay_eq])
      fun entry => (hkind entry).isRestore
  · exact hcount Device.clears Entry.isClear (fun _ _ => by rw [replay_eq])
      fun entry => (hkind entry).isClear
  · exact hlist Device.presents Entry.presented? (fun _ _ => by rw [replay_eq])
      Entry.presented?_renumber
  · refine hlist Device.windowTitles Entry.titled? (fun _ _ => by rw [replay_eq]) fun entry => ?_
    rw [Entry.titled?_renumber, Option.map_id_fun, id]
  · exact hcount Device.lastId Entry.isNumbering (fun _ _ => by rw [replay_eq])
      fun entry => (hkind entry).isNumbering

end Device

/-! ## Two operations -/

/-- What is done about one monitor leaves the view that another has of the device. -/
theorem Device.SameView.of_replays {α : Type} {index other : UInt32} {action : Capture α}
    (hreplays : Replays (· = other) action) (hother : other ≠ index) {device : Device}
    (hfaults : device.faults = .none) : device.SameView index (action device).device := by
  have hunpolled : (action device).journal.countP (fun entry => entry.polled? = some index) =
      0 := by
    rw [List.countP_eq_zero]
    intro entry hentry hpolled
    have hhandled := Entry.handled?_of_polled? (of_decide_eq_true hpolled)
    exact hother (hreplays.handles device entry hentry index hhandled).symm
  rw [hreplays.device device hfaults]
  refine ⟨sameSetting_replay _ device, hfaults, ?_⟩
  rw [foldl_replay_frames, hunpolled, List.drop_zero]

/-- Two actions on different monitors, each of which takes the same course under other
numbers, come to the same in either order. -/
theorem Capture.Tracks.commute {α β : Type} {index other : UInt32} (hother : other ≠ index)
    {action : Capture α} {action' : Capture β} {rename : (Nat → Nat) → α → α}
    {rename' : (Nat → Nat) → β → β} {device : Device} (hfaults : device.faults = .none)
    (htracks : ∀ names : Nat → Nat, (∀ id, id ≤ device.lastId → names id = id) →
      Tracks names index (rename names) action action)
    (htracks' : ∀ names : Nat → Nat, (∀ id, id ≤ device.lastId → names id = id) →
      Tracks names other (rename' names) action' action') :
    ∃ names : Nat → Nat, Function.Bijective names ∧
      (∀ id, id ≤ device.lastId → names id = id) ∧
      let first := action device
      let second := action' first.device
      let first' := action' device
      let second' := action first'.device
      (second'.value = rename names first.value ∧
        second'.journal = first.journal.map (Entry.renumber names)) ∧
      (first'.value = rename' names second.value ∧
        first'.journal = second.journal.map (Entry.renumber names)) ∧
      second.device = (first.journal ++ second.journal).foldl Device.replay device ∧
      second'.device = ((second.journal ++ first.journal).map
        (Entry.renumber names)).foldl Device.replay device := by
  let first := action device
  let second := action' first.device
  let names := exchange device.lastId (first.journal.countP Entry.isNumbering)
    (second.journal.countP Entry.isNumbering)
  have hold : ∀ id, id ≤ device.lastId → names id = id := fun id => exchange_old _ _
  have hfirst := htracks names hold
  have hsecond := htracks' names hold
  have hdevice : first.device = first.journal.foldl Device.replay device :=
    hfirst.replays.device device hfaults
  -- Taken first, the second action is given its numbers earlier.
  have hview : device.SameView other first.device :=
    .of_replays hfirst.replays (Ne.symm hother) hfaults
  have hearlier : Numbered names first.device device second.journal := by
    intro n hn
    rw [hdevice, Device.foldl_replay_lastId]
    exact exchange_second hn
  have hfirst' := hsecond.follows first.device device hview.symm hearlier
  -- Taken second, the first action is given its numbers later.
  let first' := action' device
  have hview' : device.SameView index first'.device :=
    .of_replays hsecond.replays hother hfaults
  have hjournal' : first'.journal = second.journal.map (Entry.renumber names) :=
    congrArg Traced.journal hfirst'
  have hdevice' : first'.device = first'.journal.foldl Device.replay device :=
    hsecond.replays.device device hfaults
  have hcount : first'.journal.countP Entry.isNumbering =
      second.journal.countP Entry.isNumbering := by
    rw [hjournal']
    exact countP_renumber (fun entry => (entry.sameKind_renumber names).isNumbering) _
  have hlater : Numbered names device first'.device first.journal := by
    intro n hn
    rw [hdevice', Device.foldl_replay_lastId, hcount]
    exact exchange_first hn
  have hsecond' := hfirst.follows device first'.device hview' hlater
  refine ⟨names, exchange_bijective _ _ _, hold, ⟨congrArg Traced.value hsecond',
    congrArg Traced.journal hsecond'⟩, ⟨congrArg Traced.value hfirst', hjournal'⟩, ?_, ?_⟩
  · rw [List.foldl_append, ← hdevice]
    exact hsecond.replays.device first.device hview.faults'
  · rw [List.map_append, List.foldl_append, ← hjournal', ← hdevice']
    exact congrArg Traced.device hsecond'

namespace Scenario

namespace DuplicatorState

/-- Two steps about different monitors, each of which does something to its cell. -/
theorem step_step {state : DuplicatorState} {duplicator : Duplicator}
    (hduplicator : state.duplicator = some duplicator) (hsound : state.Sound)
    {index other : UInt32} (hother : other ≠ index) (operation operation' : Operation) :
    let config := duplicator.registry.config
    let first := (state.cell index).perform config index operation state.device
    let second := (state.cell other).perform config other operation' first.device
    (state.step (operation.toStep index)).1 = ⟨first.value.1, first.journal⟩ ∧
    (state.step (operation.toStep index)).2.step (operation'.toStep other) =
      (⟨second.value.1, second.journal⟩,
        (state.putCell index first.value.2 first.device).putCell other second.value.2
          second.device) := by
  intro config first second
  have hfirst : state.step (operation.toStep index) = (⟨first.value.1, first.journal⟩,
      state.putCell index first.value.2 first.device) :=
    step_toStep hduplicator (hsound index) operation
  have hput : (state.putCell index first.value.2 first.device).duplicator =
      some (duplicator.setSeat index first.value.2.session) :=
    duplicator_putCell hduplicator index _ _
  have hcell : (state.putCell index first.value.2 first.device).cell other =
      state.cell other := by
    rw [cell_putCell hduplicator, if_neg hother]
  have hsecond := step_toStep hput (hcell ▸ hsound other) operation'
  rw [hcell] at hsecond
  rw [hfirst]
  exact ⟨rfl, hsecond⟩

/-- The cells after two steps. -/
theorem cell_putCell_putCell {state : DuplicatorState} {duplicator : Duplicator}
    (hduplicator : state.duplicator = some duplicator) (index other third : UInt32)
    (cell cell' : Cell) (device device' : Device) :
    ((state.putCell index cell device).putCell other cell' device').cell third =
      if third = other then cell' else if third = index then cell else state.cell third := by
  have hput := duplicator_putCell hduplicator index cell device
  rw [cell_putCell hput, cell_putCell hduplicator]

/-- The sessions under other numbers have as many textures. -/
theorem countP_textures_renumber (names : Nat → Nat) (sessions : MonitorTable Session) :
    (sessions.map (Session.renumber names)).values.countP (fun session =>
      session.texture.isSome) =
        sessions.values.countP fun session => session.texture.isSome := by
  rw [MonitorTable.values_map, List.countP_map]
  refine List.countP_congr fun session _ => ?_
  have htexture : (session.renumber names).texture.isSome = session.texture.isSome :=
    Option.isSome_map
  rw [Function.comp_apply, htexture]

/-- A step about one monitor leaves the session of another and what is to come for it. -/
theorem step_other {state : DuplicatorState} {duplicator : Duplicator}
    (hduplicator : state.duplicator = some duplicator) (hsound : state.Sound)
    (hplaced : state.sessions.All Session.IsAt) (hfaults : state.device.faults = .none)
    {index other : UInt32} (hother : other ≠ index) (operation : Operation) :
    let done := state.step (operation.toStep index)
    done.2.sessions.get? other = state.sessions.get? other ∧
      done.2.device.frames other = state.device.frames other := by
  intro done
  have hcell : done.2.cell other = state.cell other := by
    rw [show done.2.cell other = _ from cell_toStep hduplicator (hsound index) operation other,
      if_neg hother]
  have hreplays : Replays (· = index)
      ((state.cell index).perform duplicator.registry.config index operation) := by
    refine (replayed _).perform _ _ _ _ fun _ session hlive => ?_
    refine (replayed _).update fun duplication hduplication => ?_
    rw [(hplaced index session hlive).duplication duplication hduplication]
  have hview := Device.SameView.of_replays hreplays (Ne.symm hother) hfaults
  refine ⟨congrArg Cell.session hcell, ?_⟩
  rw [show done = _ from step_toStep hduplicator (hsound index) operation]
  exact hview.frames

/-- As many textures live as sessions show one. -/
theorem liveTextures_after (outputs : List OutputConfig) (config : SessionConfig)
    (steps : List DuplicatorStep) :
    (after outputs config steps).device.liveTextures =
      (after outputs config steps).sessions.values.countP
        fun session => session.texture.isSome := by
  have hplaced := placed.after_steps outputs config .empty steps
  have howned := owned.after_steps outputs config (Ledger.initial outputs) steps
  exact (howned.balanced hplaced).liveTextures

/-- Cells keep their numbers if all numbers given out stay. -/
theorem cell_renumber_eq_self {state : DuplicatorState} {past : List Entry}
    (howned : Owned state.sessions past state.device) {names : Nat → Nat}
    (hold : ∀ id, id ≤ state.device.lastId → names id = id) (index : UInt32) :
    (state.cell index).renumber names = state.cell index := by
  have hsession : (state.sessions.get? index).map (Session.renumber names) =
      state.sessions.get? index := by
    cases hlive : state.sessions.get? index with
    | none => rfl
    | some session => exact congrArg some (howned.renumber_eq_self hold hlive)
  exact congrArg (Cell.mk (state.handles.get? index)) hsession

/-- What two steps come to in the one order is what they come to in the other under other
numbers: the records, the cells, and the device if it is known to have as many live
textures. -/
theorem step_exchange {state : DuplicatorState} {duplicator : Duplicator} {past : List Entry}
    (hduplicator : state.duplicator = some duplicator) (hsound : state.Sound)
    (hplaced : state.sessions.All Session.IsAt)
    (howned : Owned state.sessions past state.device) (hfaults : state.device.faults = .none)
    {index other : UInt32} (hother : other ≠ index) (operation operation' : Operation) :
    let first := state.step (operation.toStep index)
    let second := first.2.step (operation'.toStep other)
    let first' := state.step (operation'.toStep other)
    let second' := first'.2.step (operation.toStep index)
    ∃ names : Nat → Nat, Function.Bijective names ∧
      (∀ id, id ≤ state.device.lastId → names id = id) ∧
      second'.1 = first.1.renumber names ∧ first'.1 = second.1.renumber names ∧
      (∀ third, second'.2.cell third = (second.2.cell third).renumber names) ∧
      (second'.2.device.liveTextures = second.2.device.liveTextures →
        state.device.Exchanged names second.2.device second'.2.device) := by
  intro first second first' second'
  obtain ⟨hfirst, hsecond⟩ := step_step hduplicator hsound hother operation operation'
  obtain ⟨hfirst', hsecond'⟩ := step_step hduplicator hsound (Ne.symm hother) operation'
    operation
  have htracks : ∀ (monitor : UInt32) (operation : Operation) (names : Nat → Nat),
      (∀ id, id ≤ state.device.lastId → names id = id) →
        Tracks names monitor (Prod.map (Reply.renumber names) (Cell.renumber names))
          ((state.cell monitor).perform duplicator.registry.config monitor operation)
          ((state.cell monitor).perform duplicator.registry.config monitor operation) := by
    intro monitor operation names hold
    have hperformed : Tracks names monitor _
        ((state.cell monitor).perform duplicator.registry.config monitor operation)
        (((state.cell monitor).renumber names).perform _ _ _) :=
      Cell.tracks_perform duplicator.registry.config (hplaced monitor) operation
    rwa [cell_renumber_eq_self howned hold monitor] at hperformed
  obtain ⟨names, hbijective, hold, ⟨hvalue, hjournal⟩, ⟨hvalue', hjournal'⟩, hdevice,
    hdevice'⟩ := Tracks.commute hother hfaults (htracks index operation)
      (htracks other operation')
  have hheld : ∀ (earlier later : UInt32) (operation operation' : Operation),
      ((state.cell later).perform duplicator.registry.config later operation'
        ((state.cell earlier).perform duplicator.registry.config earlier operation
          state.device).device).device.heldFrames = state.device.heldFrames := by
    intro earlier later operation operation'
    have hfaults' := (htracks earlier operation id fun _ _ => rfl).replays.faults hfaults
    rw [Cell.perform_heldFrames _ _ _ _ hfaults', Cell.perform_heldFrames _ _ _ _ hfaults]
  have hreply := congrArg Prod.fst hvalue
  have hreply' := congrArg Prod.fst hvalue'
  refine ⟨names, hbijective, hold, ?_, ?_, ?_, ?_⟩
  · rw [show second' = _ from hsecond', show first.1 = _ from hfirst, Record.renumber, ← hjournal]
    exact congrArg (Record.mk · _) hreply
  · rw [show first'.1 = _ from hfirst', show second = _ from hsecond, Record.renumber,
      ← hjournal']
    exact congrArg (Record.mk · _) hreply'
  · intro third
    rw [show second' = _ from hsecond', show second = _ from hsecond,
      cell_putCell_putCell hduplicator, cell_putCell_putCell hduplicator]
    by_cases hthird : third = index
    · rw [if_pos hthird, if_neg (hthird ▸ Ne.symm hother), if_pos hthird]
      exact congrArg Prod.snd hvalue
    · by_cases hthird' : third = other
      · rw [if_neg hthird, if_pos hthird', if_pos hthird']
        exact congrArg Prod.snd hvalue'
      · rw [if_neg hthird, if_neg hthird', if_neg hthird', if_neg hthird,
          cell_renumber_eq_self howned hold]
  · rw [show second' = _ from hsecond', show second = _ from hsecond]
    exact Device.exchanged_replay hdevice hdevice'
      ((hheld other index operation' operation).trans
        (hheld index other operation operation').symm)

/-- An operation on one monitor leaves the session of another and the outcomes to come for
it as they are.  Two operations on different monitors, with no fault queued, have the same
replies and make the same calls whichever is taken first, up to a renumbering of what they
are given; and they leave the same handles, the same sessions and the same device, up to
the numbers and the order in the device's lists. -/
theorem monitors_do_not_interfere (outputs : List OutputConfig) (config : SessionConfig)
    (before : List DuplicatorStep)
    (hfaults : (after outputs config before).device.faults = .none)
    {index other : UInt32} (hother : other ≠ index) (operation operation' : Operation) :
    let state := after outputs config before
    let first := state.step (operation.toStep index)
    let second := first.2.step (operation'.toStep other)
    let first' := state.step (operation'.toStep other)
    let second' := first'.2.step (operation.toStep index)
    (first.2.sessions.get? other = state.sessions.get? other ∧
      first.2.device.frames other = state.device.frames other) ∧
    ∃ names : Nat → Nat, Function.Bijective names ∧
      (∀ id, id ≤ state.device.lastId → names id = id) ∧
      second'.1 = first.1.renumber names ∧ first'.1 = second.1.renumber names ∧
      second'.2.handles = second.2.handles ∧
      second'.2.sessions = second.2.sessions.map (Session.renumber names) ∧
      state.device.Exchanged names second.2.device second'.2.device := by
  intro state first second first' second'
  rcases hduplicator : state.duplicator with _ | duplicator
  · have hsessions : state.sessions = .empty := by rw [sessions, hduplicator]
    have hfirst : first = (⟨.dropped, []⟩, state) := toStep_dropped hduplicator _ _
    have hfirst' : first' = (⟨.dropped, []⟩, state) := toStep_dropped hduplicator _ _
    have hsecond : second = (⟨.dropped, []⟩, state) := by
      rw [show second = first.2.step (operation'.toStep other) from rfl, hfirst,
        toStep_dropped hduplicator]
    have hsecond' : second' = (⟨.dropped, []⟩, state) := by
      rw [show second' = first'.2.step (operation.toStep index) from rfl, hfirst',
        toStep_dropped hduplicator]
    have hunchanged : state.device = ([] ++ []).foldl Device.replay state.device := rfl
    rw [hfirst, hsecond, hfirst', hsecond']
    refine ⟨⟨rfl, rfl⟩, id, Function.bijective_id, fun _ _ => rfl, rfl, rfl, rfl, ?_,
      Device.exchanged_replay hunchanged rfl rfl rfl⟩
    rw [hsessions]
    rfl
  · have hsound : state.Sound := sound_after outputs config before
    have hplaced : state.sessions.All Session.IsAt :=
      placed.after_steps outputs config .empty before
    have howned : Owned state.sessions (history outputs config before) state.device :=
      owned.after_steps outputs config (Ledger.initial outputs) before
    obtain ⟨names, hbijective, hold, hrecord, hrecord', hcells, hexchanged⟩ :=
      step_exchange hduplicator hsound hplaced howned hfaults hother operation operation'
    have hhandles : second'.2.handles = second.2.handles :=
      MonitorTable.ext_get? fun third => congrArg Cell.handle (hcells third)
    have hsessions : second'.2.sessions = second.2.sessions.map (Session.renumber names) := by
      refine MonitorTable.ext_get? fun third => ?_
      rw [MonitorTable.get?_map]
      exact congrArg Cell.session (hcells third)
    have hlive : second'.2.device.liveTextures = second.2.device.liveTextures := by
      have hleft := liveTextures_after outputs config
        (before ++ [operation.toStep index, operation'.toStep other])
      have hright := liveTextures_after outputs config
        (before ++ [operation'.toStep other, operation.toStep index])
      rw [after_append] at hleft hright
      have hcount := countP_textures_renumber names second.2.sessions
      rw [← hsessions] at hcount
      exact hright.trans (hcount.trans hleft.symm)
    exact ⟨step_other hduplicator hsound hplaced hfaults hother operation, names, hbijective,
      hold, hrecord, hrecord', hhandles, hsessions, hexchanged hlive⟩

/-- Two monitors are polled, each with a frame to come, in either order. -/
theorem monitors_do_not_interfere_polled :
    let outputs := singleOutputDevice.outputs ++ singleOutputDevice.outputs
    let before : List DuplicatorStep :=
      [.create 0, .create 1, .world (.pushFrames 0 [.frame ⟨640, 480⟩ .bgra8]),
        .world (.pushFrames 1 [.frame ⟨800, 600⟩ .bgra8])]
    (after outputs .standard before).device.faults = .none ∧ (1 : UInt32) ≠ 0 ∧
    ∃ names : Nat → Nat, Function.Bijective names ∧
      (after outputs .standard (before ++ [.use 1 .update, .use 0 .update])).sessions =
        (after outputs .standard (before ++ [.use 0 .update, .use 1 .update])).sessions.map
          (Session.renumber names) := by
  intro outputs before
  have hfaults : (after outputs .standard before).device.faults = .none := by
    subst outputs before
    rfl
  have hother : (1 : UInt32) ≠ 0 := by decide
  clear_value outputs before
  obtain ⟨-, names, hbijective, -, -, -, -, hsessions, -⟩ :=
    monitors_do_not_interfere outputs .standard before hfaults hother (.use .update)
      (.use .update)
  refine ⟨hfaults, hother, names, hbijective, ?_⟩
  rw [after_append, after_append]
  exact hsessions

end DuplicatorState
end Scenario
end DesktopCapture
