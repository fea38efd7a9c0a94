import DesktopCapture.Proofs.Listing

/-!
# The search for a monitor

The search walks along the row of outputs as the listing does, but it passes over outputs
that it cannot look at.  It finds the first readable output that is connected to the monitor,
unless the enumeration fails before, and tells the log of each output that it passes over
because its descriptor cannot be read.
-/

namespace DesktopCapture

open Capture

/-! ## What the search tells the log -/

/-- What an entry tells the log. -/
def Entry.notice? : Entry → Option Notice
  | .notice _ said => some said
  | _ => none

/-- What a journal tells the log. -/
def noticed (journal : List Entry) : List Notice := journal.filterMap Entry.notice?

@[simp] theorem noticed_nil : noticed [] = [] := rfl

@[simp] theorem noticed_call (call : Call) (answer : Answer) (rest : List Entry) :
    noticed (.call call answer :: rest) = noticed rest := rfl

@[simp] theorem noticed_notice (spans : List Span) (notice : Notice) (rest : List Entry) :
    noticed (.notice spans notice :: rest) = notice :: noticed rest := rfl

namespace Encounter

/-- What the search complains of at an index. -/
def complaint? (index : UInt32) : Encounter → Option Notice
  | .barred => some (.outputUnavailable index Device.enumerationFailure)
  | .unreadable => some (.descriptorUnreadable index Device.descriptionFailure)
  | _ => none

/-- What a search answers that ends at an index. -/
def found (index : UInt32) : Encounter → Int32
  | .barred | .vacant => -1
  | _ => index.toInt32

/-- Whether the search for a monitor goes on. -/
def IsPassed (monitor : MonitorHandle) : Encounter → Prop
  | .barred | .vacant => False
  | .unreadable => True
  | .readable description => description.monitor ≠ monitor

end Encounter

/-! ## One step -/

section

variable {device : Device} {monitor : MonitorHandle}

/-- The search goes on past what it passes over, and complains of it. -/
theorem indexFrom_passed (hfaults : device.faults = .none) {position : Nat}
    (hpassed : (device.encounter (.ofNat position)).IsPassed monitor) (limit : Nat) :
    let walked := Adapter.indexFrom monitor (limit + 1) (.ofNat position) device
    let rest := Adapter.indexFrom monitor limit (.ofNat (position + 1)) device
    walked.value = rest.value ∧
      noticed walked.journal =
        ((device.encounter (.ofNat position)).complaint? (.ofNat position)).toList ++
          noticed rest.journal := by
  intro walked rest
  simp only [walked, rest, Adapter.indexFrom, UInt32.ofNat_add]
  cases hmet : device.encounter (.ofNat position) with
  | barred =>
      rw [hmet] at hpassed
      exact hpassed.elim
  | vacant =>
      rw [hmet] at hpassed
      exact hpassed.elim
  | unreadable =>
      obtain ⟨output, hfound, hdescribed⟩ := describe_unreadable hfaults hmet
      simp [hfound, hdescribed, notify, note, Encounter.complaint?]
  | readable description =>
      rw [hmet] at hpassed
      obtain ⟨output, hfound, hdescribed⟩ := describe_readable hfaults hmet
      have hother : description.monitor ≠ monitor := hpassed
      simp [hfound, hdescribed, hother, Encounter.complaint?]

/-- Where a search comes to an end within its limit, a larger limit makes no difference to
anything it does. -/
theorem indexFrom_stable {limit more : Nat} {index : UInt32} (hle : limit ≤ more)
    (hends : (Adapter.indexFrom monitor limit index device).value ≠ none) :
    Adapter.indexFrom monitor more index device =
      Adapter.indexFrom monitor limit index device := by
  induction limit generalizing index device more with
  | zero => exact absurd rfl hends
  | succ limit ih =>
      obtain ⟨more, rfl⟩ := Nat.exists_eq_add_of_le' (Nat.le_trans (Nat.le_add_left 1 limit) hle)
      have hle := Nat.le_of_succ_le_succ hle
      rcases hfound : enumOutput index device with ⟨error | _ | output, found, journal⟩
      · simp [Adapter.indexFrom, hfound]
      · simp [Adapter.indexFrom, hfound]
      · rcases hdescribed : describe output found with ⟨error | description, described, journal⟩
        · have hrest : (Adapter.indexFrom monitor limit (index + 1) described).value ≠ none := by
            simpa [Adapter.indexFrom, hfound, hdescribed, notify, note] using hends
          simp [Adapter.indexFrom, hfound, hdescribed, notify, note, ih hle hrest]
        · by_cases hsame : description.monitor = monitor
          · simp [Adapter.indexFrom, hfound, hdescribed, hsame]
          · have hrest : (Adapter.indexFrom monitor limit (index + 1) described).value ≠ none := by
              simpa [Adapter.indexFrom, hfound, hdescribed, hsame] using hends
            simp [Adapter.indexFrom, hfound, hdescribed, hsame, ih hle hrest]

/-- The search ends at what it does not pass over. -/
theorem indexFrom_ended (hfaults : device.faults = .none) {index : UInt32}
    (hended : ¬(device.encounter index).IsPassed monitor) (limit : Nat) :
    let walked := Adapter.indexFrom monitor (limit + 1) index device
    walked.value = some ((device.encounter index).found index) ∧
      noticed walked.journal = ((device.encounter index).complaint? index).toList := by
  intro walked
  simp only [walked, Adapter.indexFrom]
  cases hmet : device.encounter index with
  | barred =>
      simp [enumOutput_barred hfaults hmet, notify, note, Encounter.found,
        Encounter.complaint?]
  | vacant =>
      simp [enumOutput_vacant hfaults hmet, Encounter.found, Encounter.complaint?]
  | unreadable =>
      rw [hmet] at hended
      exact (hended trivial).elim
  | readable description =>
      rw [hmet] at hended
      obtain ⟨output, hfound, hdescribed⟩ := describe_readable hfaults hmet
      have hsame : description.monitor = monitor := not_not.mp hended
      simp [hfound, hdescribed, hsame, Encounter.found, Encounter.complaint?]

/-! ## Walking along the row -/

/-- The search passes over outputs of the row only. -/
theorem Device.lt_of_isPassed {index : UInt32}
    (hpassed : (device.encounter index).IsPassed monitor) :
    index.toNat < device.outputs.length := by
  cases hmet : device.encounter index with
  | unreadable =>
      obtain ⟨-, config, hconfig, -⟩ := encounter_eq_unreadable_iff.mp hmet
      exact (List.getElem?_eq_some_iff.mp hconfig).1
  | readable description =>
      obtain ⟨-, config, hconfig, -⟩ := encounter_eq_readable_iff.mp hmet
      exact (List.getElem?_eq_some_iff.mp hconfig).1
  | _ =>
      rw [hmet] at hpassed
      exact hpassed.elim

/-- From every position of the row the search walks to the first output that it does not pass
over, or past the end of the row, and answers by what it meets there. -/
theorem indexFrom_ends (monitor : MonitorHandle) (hfaults : device.faults = .none)
    (hcount : device.outputs.length < 2 ^ 32) {start : Nat}
    (hstart : start ≤ device.outputs.length) :
    ∃ last, start ≤ last ∧ last ≤ device.outputs.length ∧
      (∀ position, start ≤ position → position < last →
        (device.encounter (.ofNat position)).IsPassed monitor) ∧
      ¬(device.encounter (.ofNat last)).IsPassed monitor ∧
      ∀ limit, device.outputs.length < start + limit →
        let walked := Adapter.indexFrom monitor limit (.ofNat start) device
        walked.value = some ((device.encounter (.ofNat last)).found (.ofNat last)) ∧
        noticed walked.journal = (List.range' start (last + 1 - start)).filterMap fun position =>
          (device.encounter (.ofNat position)).complaint? (.ofNat position) := by
  -- The recursion is on what is left of the row.
  by_cases hpassed : (device.encounter (.ofNat start)).IsPassed monitor
  · have hwithin : start < device.outputs.length := by
      rw [← Device.toNat_position hcount hstart]
      exact Device.lt_of_isPassed hpassed
    obtain ⟨last, hle, hlast, hbetween, hended, hwalked⟩ :=
      indexFrom_ends monitor hfaults hcount (Nat.succ_le_of_lt hwithin)
    refine ⟨last, by omega, hlast, ?_, hended, ?_⟩
    · intro position hfrom hbefore
      rcases Nat.eq_or_lt_of_le hfrom with rfl | hafter
      · exact hpassed
      · exact hbetween position hafter hbefore
    · intro limit hlimit
      obtain ⟨fewer, rfl⟩ := Nat.exists_eq_add_one.mpr (show 0 < limit by omega)
      obtain ⟨hvalue, hnoticed⟩ := indexFrom_passed hfaults hpassed fewer
      obtain ⟨hrest, hrestNoticed⟩ := hwalked fewer (by omega)
      refine ⟨hvalue.trans hrest, hnoticed.trans ?_⟩
      rw [hrestNoticed, show last + 1 - start = last + 1 - start.succ + 1 by omega,
        List.range'_succ, List.filterMap_cons]
      cases (device.encounter (.ofNat start)).complaint? (.ofNat start) with
      | none => rfl
      | some complaint => rfl
  · refine ⟨start, Nat.le_refl start, hstart, by omega, hpassed, ?_⟩
    intro limit hlimit
    obtain ⟨fewer, rfl⟩ := Nat.exists_eq_add_one.mpr (show 0 < limit by omega)
    obtain ⟨hvalue, hnoticed⟩ := indexFrom_ended hfaults hpassed fewer
    refine ⟨hvalue, hnoticed.trans ?_⟩
    rw [Nat.add_sub_cancel_left, List.range'_one, List.filterMap_cons]
    cases (device.encounter (.ofNat start)).complaint? (.ofNat start) with
    | none => rfl
    | some complaint => rfl
termination_by device.outputs.length - start

/-! ## What is found -/

/-- A monitor can be found at an index: the enumeration does not fail up to it, and the output
there can be read and is connected to the monitor. -/
def Device.Connects (device : Device) (monitor : MonitorHandle) (index : UInt32) : Prop :=
  (∀ earlier, earlier ≤ index → device.enumerationFailsAt ≠ some earlier) ∧
    ∃ config, device.outputs[index.toNat]? = some config ∧ config.describable = true ∧
      config.description.monitor = monitor

/-- The descriptor of the output of an index cannot be read. -/
def Device.isUnreadable (device : Device) (index : UInt32) : Bool :=
  device.outputs[index.toNat]?.any fun config => !config.describable

/-- What the search has to complain of before a position: each output whose descriptor cannot
be read. -/
def Device.complaintsBefore (device : Device) (position : Nat) : List Notice :=
  ((List.range position).filter fun earlier => device.isUnreadable (.ofNat earlier)).map
    fun earlier => .descriptorUnreadable (.ofNat earlier) descriptionFailure

/-- A search from the beginning of the row passes over everything before a position, and not
over what it meets there. -/
structure Device.StopsAt (device : Device) (monitor : MonitorHandle) (last : Nat) : Prop where
  position : (UInt32.ofNat last).toNat = last
  passed : ∀ position, position < last →
    (device.encounter (.ofNat position)).IsPassed monitor
  ended : ¬(device.encounter (.ofNat last)).IsPassed monitor

namespace Device

/-- Where a monitor can be found, its output is met. -/
theorem Connects.met {index : UInt32} (hconnects : device.Connects monitor index) :
    ∃ description, device.encounter index = .readable description ∧
      description.monitor = monitor := by
  obtain ⟨hopen, config, hconfig, hdescribable, hmonitor⟩ := hconnects
  refine ⟨config.description, ?_, hmonitor⟩
  have hhere := hopen index (UInt32.le_refl index)
  exact encounter_eq_readable_iff.mpr ⟨hhere, config, hconfig, hdescribable, rfl⟩

theorem Connects.lt {index : UInt32} (hconnects : device.Connects monitor index) :
    index.toNat < device.outputs.length := by
  obtain ⟨-, config, hconfig, -⟩ := hconnects
  exact (List.getElem?_eq_some_iff.mp hconfig).1

/-- Where a monitor can be found, it can be told of. -/
theorem Connects.told (hfaults : device.faults = .none) {index : UInt32}
    (hconnects : device.Connects monitor index) :
    ∃ config, device.outputs[index.toNat]? = some config ∧
      config.description.monitor = monitor ∧
      device.info index = .ok (.ofDescription config.description) := by
  obtain ⟨hopen, config, hconfig, hdescribable, hmonitor⟩ := hconnects
  have hhere := hopen index (UInt32.le_refl index)
  refine ⟨config, hconfig, hmonitor, (info_eq_ok_iff hfaults).mpr ?_⟩
  exact ⟨hhere, config, hconfig, hdescribable, rfl⟩

theorem Connects.not_isPassed {index : UInt32} (hconnects : device.Connects monitor index) :
    ¬(device.encounter index).IsPassed monitor := by
  obtain ⟨description, hmet, hmonitor⟩ := hconnects.met
  rw [hmet]
  exact not_not.mpr hmonitor

/-- Up to where a monitor can be found, every index has an output. -/
theorem Connects.found_ne {index earlier : UInt32} (hconnects : device.Connects monitor index)
    (hle : earlier ≤ index) :
    device.encounter earlier ≠ .barred ∧ device.encounter earlier ≠ .vacant := by
  constructor
  · intro hbarred
    exact hconnects.1 earlier hle (encounter_eq_barred_iff.mp hbarred)
  · intro hvacant
    have hbeyond := (encounter_eq_vacant_iff.mp hvacant).2
    have hwithin := hconnects.lt
    have hnumbers := UInt32.le_iff_toNat_le.mp hle
    omega

/-- A search stops where the monitor is first found, if it is found at all. -/
theorem Connects.first {last : Nat} (hstops : device.StopsAt monitor last) {index : UInt32}
    (hconnects : device.Connects monitor index) :
    device.Connects monitor (.ofNat last) ∧ .ofNat last ≤ index := by
  have hle : .ofNat last ≤ index := by
    by_contra hless
    rw [UInt32.not_le, UInt32.lt_iff_toNat_lt, hstops.position] at hless
    have hpassed := hstops.passed index.toNat hless
    rw [UInt32.ofNat_toNat] at hpassed
    exact hconnects.not_isPassed hpassed
  have hended := hstops.ended
  refine ⟨⟨fun earlier hearlier => ?_, ?_⟩, hle⟩
  · exact hconnects.1 earlier (UInt32.le_trans hearlier hle)
  · obtain ⟨hopen, hoccupied⟩ := hconnects.found_ne hle
    cases hmet : device.encounter (.ofNat last) with
    | readable description =>
        rw [hmet] at hended
        obtain ⟨-, config, hconfig, hdescribable, rfl⟩ := encounter_eq_readable_iff.mp hmet
        exact ⟨config, hconfig, hdescribable, not_not.mp hended⟩
    | unreadable =>
        rw [hmet] at hended
        exact (hended trivial).elim
    | barred => exact (hopen hmet).elim
    | vacant => exact (hoccupied hmet).elim

/-- Where a search stops it answers with the index if the monitor is found there. -/
theorem StopsAt.found_cases {last : Nat} (hstops : device.StopsAt monitor last) :
    (device.Connects monitor (.ofNat last) ∧
        (device.encounter (.ofNat last)).found (.ofNat last) = Int32.ofNat last) ∨
      (¬device.Connects monitor (.ofNat last) ∧
        (device.encounter (.ofNat last)).found (.ofNat last) = -1) := by
  have hended := hstops.ended
  cases hmet : device.encounter (.ofNat last) with
  | barred =>
      refine .inr ⟨fun hconnects => ?_, rfl⟩
      exact (hconnects.found_ne (UInt32.le_refl _)).1 hmet
  | vacant =>
      refine .inr ⟨fun hconnects => ?_, rfl⟩
      exact (hconnects.found_ne (UInt32.le_refl _)).2 hmet
  | unreadable =>
      rw [hmet] at hended
      exact (hended trivial).elim
  | readable description =>
      rw [hmet] at hended
      obtain ⟨hopen, config, hconfig, hdescribable, rfl⟩ := encounter_eq_readable_iff.mp hmet
      refine .inl ⟨⟨?_, config, hconfig, hdescribable, not_not.mp hended⟩, rfl⟩
      intro earlier hearlier hbarred
      rcases UInt32.le_iff_lt_or_eq.mp hearlier with hless | rfl
      · rw [UInt32.lt_iff_toNat_lt, hstops.position] at hless
        have hpassed := hstops.passed earlier.toNat hless
        rw [UInt32.ofNat_toNat, encounter_eq_barred_iff.mpr hbarred] at hpassed
        exact hpassed
      · exact hopen hbarred

/-- Of what it passes over, the search complains of the outputs that cannot be read. -/
theorem complaint?_of_isPassed {index : UInt32}
    (hpassed : (device.encounter index).IsPassed monitor) :
    (device.encounter index).complaint? index =
      if device.isUnreadable index then some (.descriptorUnreadable index descriptionFailure)
      else none := by
  cases hmet : device.encounter index with
  | unreadable =>
      obtain ⟨-, config, hconfig, hunreadable⟩ := encounter_eq_unreadable_iff.mp hmet
      simp [Encounter.complaint?, isUnreadable, hconfig, hunreadable]
  | readable description =>
      obtain ⟨-, config, hconfig, hdescribable, -⟩ := encounter_eq_readable_iff.mp hmet
      simp [Encounter.complaint?, isUnreadable, hconfig, hdescribable]
  | _ =>
      rw [hmet] at hpassed
      exact hpassed.elim

/-- Before the monitor is found the search complains of the outputs that cannot be read. -/
theorem StopsAt.complaints {last : Nat} (hstops : device.StopsAt monitor last)
    (hconnects : device.Connects monitor (.ofNat last)) :
    ((List.range (last + 1)).filterMap fun position =>
        (device.encounter (.ofNat position)).complaint? (.ofNat position)) =
      device.complaintsBefore last := by
  obtain ⟨description, hmet, -⟩ := hconnects.met
  have hquiet : [last].filterMap (fun position =>
      (device.encounter (.ofNat position)).complaint? (.ofNat position)) = [] := by
    simp [hmet, Encounter.complaint?]
  rw [List.range_succ, List.filterMap_append, hquiet, List.append_nil, complaintsBefore,
    ← List.filterMap_eq_map', List.filterMap_filter]
  refine List.filterMap_congr fun position hmember => ?_
  exact complaint?_of_isPassed (hstops.passed position (List.mem_range.mp hmember))

/-- Where a search stops is the first index of the monitor, if the monitor is found there. -/
theorem StopsAt.isLeast_iff {last : Nat} (hstops : device.StopsAt monitor last)
    (hconnects : device.Connects monitor (.ofNat last)) {index : UInt32} :
    IsLeast {index | device.Connects monitor index} index ↔ index = .ofNat last := by
  constructor
  · rintro ⟨hfound, hlower⟩
    exact UInt32.le_antisymm (hlower hconnects) (hfound.first hstops).2
  · rintro rfl
    exact ⟨hconnects, fun other hother => (hother.first hstops).2⟩

end Device

end

/-- The search for a monitor comes to an end.  It answers with the first index where the
monitor can be found, and with `-1` if it can be found nowhere.  What it finds can be told of,
and it is connected to the monitor; of the outputs before, the search has complained of those
that cannot be read, once of each and of nothing else.  A walk with any limit beyond the end of
the row is the same walk, call by call. -/
theorem search_finds_least (device : Device) (monitor : MonitorHandle)
    (hfaults : device.faults = .none) (hcount : device.outputs.length ≤ 2 ^ 31) :
    let searched := Duplicator.monitorIndex monitor device
    ∃ found, searched.value = some found ∧
      (∀ index : UInt32, found.toInt = index.toNat ↔
        IsLeast {index | device.Connects monitor index} index) ∧
      (found = -1 ↔ ∀ index, ¬device.Connects monitor index) ∧
      (∀ index : UInt32, found.toInt = index.toNat →
        (∃ config, device.outputs[index.toNat]? = some config ∧
          config.description.monitor = monitor ∧
          (Duplicator.monitorInfo index device).value =
            .ok (.ofDescription config.description)) ∧
        noticed searched.journal = device.complaintsBefore index.toNat ∧
        ∀ notice ∈ noticed searched.journal, notice.level = .error) ∧
      ∀ limit, device.outputs.length < limit →
        Adapter.indexFrom monitor limit 0 device = searched := by
  intro searched
  have hwithin : device.outputs.length < 2 ^ 32 := by omega
  obtain ⟨last, -, hlast, hbetween, hended, hwalked⟩ :=
    indexFrom_ends monitor hfaults hwithin (Nat.zero_le device.outputs.length)
  have hstops : device.StopsAt monitor last :=
    { position := Device.toNat_position hwithin hlast
      passed := fun position => hbetween position (Nat.zero_le position)
      ended := hended }
  obtain ⟨hvalue, hnoticed⟩ := hwalked (device.outputs.length + 1) (by omega)
  change searched.value = _ at hvalue
  change noticed searched.journal = _ at hnoticed
  have hwhole : ∀ limit, device.outputs.length < limit →
      Adapter.indexFrom monitor limit 0 device = searched := by
    intro limit hlimit
    apply indexFrom_stable (Nat.succ_le_of_lt hlimit)
    rw [show (Adapter.indexFrom monitor device.outputs.length.succ 0 device).value = _ from hvalue]
    exact Option.some_ne_none _
  refine ⟨_, hvalue, ?_⟩
  rcases hstops.found_cases with ⟨hconnects, hfound⟩ | ⟨hnowhere, hnone⟩
  · rw [hfound]
    have hnumber : (Int32.ofNat last).toInt = last := by
      have hreadable := hconnects.lt
      rw [hstops.position] at hreadable
      rw [Int32.toInt_ofNat_of_lt (by omega)]
    have hindex : ∀ index : UInt32,
        (Int32.ofNat last).toInt = index.toNat ↔ index = .ofNat last := by
      intro index
      rw [hnumber, ← UInt32.toNat_inj, hstops.position, Int.ofNat_inj, eq_comm]
    refine ⟨?_, ?_, ?_, hwhole⟩
    · intro index
      rw [hindex, hstops.isLeast_iff hconnects]
    · refine iff_of_false ?_ fun hnever => hnever _ hconnects
      intro hnone
      rw [hnone] at hnumber
      exact absurd hnumber (by simp)
    · intro index hanswer
      obtain rfl := (hindex index).mp hanswer
      have hcomplaints := hstops.complaints hconnects
      rw [List.range_eq_range', ← Nat.sub_zero (last + 1), ← hnoticed] at hcomplaints
      refine ⟨?_, by rwa [hstops.position], ?_⟩
      · exact hconnects.told hfaults
      · intro notice hmember
        rw [hcomplaints] at hmember
        obtain ⟨position, -, rfl⟩ := List.mem_map.mp hmember
        rfl
  · rw [hnone]
    have hnever : ∀ index, ¬device.Connects monitor index := by
      intro index hconnects
      exact hnowhere (hconnects.first hstops).1
    have hother : ∀ index : UInt32, (-1 : Int32).toInt ≠ index.toNat := by
      intro index
      simp
    refine ⟨?_, iff_of_true rfl hnever, ?_, hwhole⟩
    · intro index
      exact iff_of_false (hother index) fun hleast => hnever index hleast.1
    · intro index hanswer
      exact absurd hanswer (hother index)

/-- The first of two outputs connected to the monitor is found behind one that cannot be read
and before the enumeration fails. -/
theorem search_finds_least_behind :
    let output : MonitorHandle → Bool → OutputConfig := fun monitor describable =>
      ⟨⟨monitor, .zero, .identity⟩, .standard, true, describable⟩
    let device : Device := { Device.ofOutputs
      [output 20 false, output 10 true, output 20 true, output 20 true] with
      enumerationFailsAt := some 3 }
    let searched := Duplicator.monitorIndex 20 device
    device.faults = .none ∧ device.outputs.length ≤ 2 ^ 31 ∧ searched.value = some 2 ∧
      IsLeast {index | device.Connects 20 index} 2 ∧
      noticed searched.journal = [.descriptorUnreadable 0 Device.descriptionFailure] := by
  intro output device searched
  obtain ⟨found, hfound, hleast, -, hanswered, -⟩ := search_finds_least device 20 rfl (by decide)
  have hvalue : searched.value = some 2 := by decide +kernel
  obtain rfl : found = 2 := Option.some.inj (hfound.symm.trans hvalue)
  have hanswer : (2 : Int32).toInt = (2 : UInt32).toNat := by decide
  obtain ⟨-, hnoticed, -⟩ := hanswered 2 hanswer
  exact ⟨rfl, by decide, hvalue, (hleast 2).mp hanswer, hnoticed⟩

end DesktopCapture
