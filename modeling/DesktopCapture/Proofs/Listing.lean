import DesktopCapture.Duplicator
import DesktopCapture.Proofs.Replay
import Mathlib.Algebra.Group.Nat.Defs
import Mathlib.Order.Bounds.Defs

/-!
# The row of outputs

At each index of the row of outputs a query meets one of four things: the enumeration
fails, the row has ended, the output's descriptor cannot be read, or it can.  While no
fault is queued, the query for one monitor and every step of a walk along the row answer by
what they meet, and leave the device as it was.

The listing of all monitors thus agrees with the queries for one: it lists what they tell
up to the first of them that fails, and it fails with them unless the row has ended there.
Walks are given a limit, and one that its limit cuts off has no answer.  So it is part of the
agreement that the listing ends, and what ended once stays as it is under every larger limit
(`monitorsFrom_stable`).
-/

namespace DesktopCapture

open Capture

/-! ## What stands at an index -/

/-- What a query meets at an index. -/
inductive Encounter
  /-- The enumeration fails. -/
  | barred
  /-- The row has ended. -/
  | vacant
  /-- An output whose descriptor cannot be read. -/
  | unreadable
  /-- An output with this descriptor. -/
  | readable (description : OutputDescription)

namespace Device

/-- How the enumeration of an output fails. -/
def enumerationFailure : PlatformError := scriptedFailure "MockAdapter::EnumOutputs"

/-- How the reading of a descriptor fails. -/
def descriptionFailure : PlatformError := scriptedFailure "MockOutput::GetDesc"

/-- What a query meets at an index of the row of outputs. -/
def encounter (device : Device) (index : UInt32) : Encounter :=
  if device.enumerationFailsAt = some index then .barred
  else match device.outputs[index.toNat]? with
    | none => .vacant
    | some config => if config.describable then .readable config.description else .unreadable

section

variable {device : Device} {index : UInt32}

theorem encounter_eq_barred_iff :
    device.encounter index = .barred ↔ device.enumerationFailsAt = some index := by
  unfold encounter
  grind

theorem encounter_eq_vacant_iff :
    device.encounter index = .vacant ↔
      device.enumerationFailsAt ≠ some index ∧ device.outputs.length ≤ index.toNat := by
  unfold encounter
  grind

theorem encounter_eq_unreadable_iff :
    device.encounter index = .unreadable ↔
      device.enumerationFailsAt ≠ some index ∧ ∃ config,
        device.outputs[index.toNat]? = some config ∧ config.describable = false := by
  unfold encounter
  grind

theorem encounter_eq_readable_iff {description : OutputDescription} :
    device.encounter index = .readable description ↔
      device.enumerationFailsAt ≠ some index ∧ ∃ config,
        device.outputs[index.toNat]? = some config ∧ config.describable = true ∧
          config.description = description := by
  unfold encounter
  grind

end

end Device

namespace Encounter

/-- What the query for one monitor answers. -/
def info (index : UInt32) : Encounter → Except CaptureError MonitorInfo
  | .barred => .error (.platform Device.enumerationFailure)
  | .vacant => .error (.notFound index)
  | .unreadable => .error (.platform Device.descriptionFailure)
  | .readable description => .ok (.ofDescription description)

theorem info_eq_ok_iff {met : Encounter} {index : UInt32} {monitor : MonitorInfo} :
    met.info index = .ok monitor ↔
      ∃ description, met = .readable description ∧ .ofDescription description = monitor := by
  cases met with
  | readable description => simp [info]
  | _ => simp [info]

/-- A query for a monitor fails as the platform does, or past the end of the row. -/
theorem info_eq_error {met : Encounter} {index : UInt32} {error : CaptureError}
    (hfailed : met.info index = .error error) :
    error = .notFound index ∧ met = .vacant ∨ ∃ failure, error = .platform failure := by
  cases met with
  | barred =>
      cases hfailed
      exact .inr ⟨_, rfl⟩
  | vacant =>
      cases hfailed
      exact .inl ⟨rfl, rfl⟩
  | unreadable =>
      cases hfailed
      exact .inr ⟨_, rfl⟩
  | readable description => cases hfailed

end Encounter

/-! ## Looking at one output -/

section

variable {device : Device} {index : UInt32}

theorem enumOutput_barred (hfaults : device.faults = .none)
    (hmet : device.encounter index = .barred) :
    enumOutput index device =
      ⟨.error Device.enumerationFailure, device,
        [.call (.enumOutput index) (.failed (.platform Device.enumerationFailure))]⟩ := by
  have hfails := Device.encounter_eq_barred_iff.mp hmet
  rw [enumOutput, fallible_of_none _ _ _ _ hfaults, Device.enumOutput, if_pos hfails]
  rfl

theorem enumOutput_vacant (hfaults : device.faults = .none)
    (hmet : device.encounter index = .vacant) :
    enumOutput index device = ⟨.ok none, device, [.call (.enumOutput index) .absent]⟩ := by
  obtain ⟨hopen, hvacant⟩ := Device.encounter_eq_vacant_iff.mp hmet
  rw [enumOutput, fallible_of_none _ _ _ _ hfaults, Device.enumOutput, if_neg hopen,
    List.getElem?_eq_none hvacant]
  rfl

theorem enumOutput_occupied (hfaults : device.faults = .none) {config : OutputConfig}
    (hopen : device.enumerationFailsAt ≠ some index)
    (hconfig : device.outputs[index.toNat]? = some config) :
    enumOutput index device =
      ⟨.ok (some ⟨index, config⟩), device, [.call (.enumOutput index) .done]⟩ := by
  rw [enumOutput, fallible_of_none _ _ _ _ hfaults, Device.enumOutput, if_neg hopen, hconfig]
  rfl

theorem describe_unreadable (hfaults : device.faults = .none)
    (hmet : device.encounter index = .unreadable) :
    ∃ output, enumOutput index device =
        ⟨.ok (some output), device, [.call (.enumOutput index) .done]⟩ ∧
      describe output device = ⟨.error Device.descriptionFailure, device,
        [.call (.describe index) (.failed (.platform Device.descriptionFailure))]⟩ := by
  obtain ⟨hopen, config, hconfig, hunreadable⟩ := Device.encounter_eq_unreadable_iff.mp hmet
  refine ⟨⟨index, config⟩, enumOutput_occupied hfaults hopen hconfig, ?_⟩
  rw [describe, fallible_of_none _ _ _ _ hfaults, Device.describe, hunreadable]
  rfl

theorem describe_readable (hfaults : device.faults = .none) {description : OutputDescription}
    (hmet : device.encounter index = .readable description) :
    ∃ output, enumOutput index device =
        ⟨.ok (some output), device, [.call (.enumOutput index) .done]⟩ ∧
      describe output device = ⟨.ok description, device,
        [.call (.describe index) .done]⟩ := by
  obtain ⟨hopen, config, hconfig, hdescribable, rfl⟩ :=
    Device.encounter_eq_readable_iff.mp hmet
  refine ⟨⟨index, config⟩, enumOutput_occupied hfaults hopen hconfig, ?_⟩
  rw [describe, fallible_of_none _ _ _ _ hfaults, Device.describe, hdescribable]
  rfl

/-- What the query for one monitor answers. -/
def Device.info (device : Device) (index : UInt32) : Except CaptureError MonitorInfo :=
  (Adapter.monitorInfo index device).value

/-- The query for one monitor answers by what it meets. -/
theorem Device.info_eq (hfaults : device.faults = .none) :
    device.info index = (device.encounter index).info index := by
  unfold Device.info
  cases hmet : device.encounter index with
  | barred =>
      simp [Adapter.monitorInfo, Adapter.output, enumOutput_barred hfaults hmet, Encounter.info]
  | vacant =>
      simp [Adapter.monitorInfo, Adapter.output, enumOutput_vacant hfaults hmet, Encounter.info]
  | unreadable =>
      obtain ⟨output, hfound, hdescribed⟩ := describe_unreadable hfaults hmet
      simp [Adapter.monitorInfo, Adapter.output, hfound, hdescribed, Encounter.info]
  | readable description =>
      obtain ⟨output, hfound, hdescribed⟩ := describe_readable hfaults hmet
      simp [Adapter.monitorInfo, Adapter.output, hfound, hdescribed, Encounter.info]

/-- A monitor can be told of exactly if the enumeration reaches a readable output. -/
theorem Device.info_eq_ok_iff (hfaults : device.faults = .none) {monitor : MonitorInfo} :
    device.info index = .ok monitor ↔
      device.enumerationFailsAt ≠ some index ∧ ∃ config,
        device.outputs[index.toNat]? = some config ∧ config.describable = true ∧
          .ofDescription config.description = monitor := by
  rw [Device.info_eq hfaults, Encounter.info_eq_ok_iff]
  constructor
  · rintro ⟨description, hmet, rfl⟩
    obtain ⟨hopen, config, hconfig, hdescribable, rfl⟩ := encounter_eq_readable_iff.mp hmet
    exact ⟨hopen, config, hconfig, hdescribable, rfl⟩
  · rintro ⟨hopen, config, hconfig, hdescribable, rfl⟩
    refine ⟨config.description, ?_, rfl⟩
    exact encounter_eq_readable_iff.mpr ⟨hopen, config, hconfig, hdescribable, rfl⟩

/-! ## Walking along the row -/

/-- What a listing answers that has these monitors before one that cannot be told of. -/
def closing (infos : List MonitorInfo) : CaptureError → Except PlatformError (List MonitorInfo)
  | .platform error => .error error
  | _ => .ok infos

theorem map_cons_closing (info : MonitorInfo) (infos : List MonitorInfo)
    (error : CaptureError) :
    (closing infos error).map (info :: ·) = closing (info :: infos) error := by
  cases error with
  | platform failure => rfl
  | _ => rfl

/-- Where a listing comes to an end within its limit, a larger limit makes no difference to
anything it does. -/
theorem monitorsFrom_stable {limit more : Nat} (hle : limit ≤ more)
    (hends : (Adapter.monitorsFrom limit index device).value ≠ none) :
    Adapter.monitorsFrom more index device = Adapter.monitorsFrom limit index device := by
  induction limit generalizing index device more with
  | zero => exact absurd rfl hends
  | succ limit ih =>
      obtain ⟨more, rfl⟩ := Nat.exists_eq_add_of_le' (Nat.le_trans (Nat.le_add_left 1 limit) hle)
      rcases hfound : enumOutput index device with ⟨error | _ | output, found, journal⟩
      · simp [Adapter.monitorsFrom, hfound]
      · simp [Adapter.monitorsFrom, hfound]
      · rcases hdescribed : describe output found with ⟨error | description, described, journal⟩
        · simp [Adapter.monitorsFrom, hfound, hdescribed]
        · have hrest : (Adapter.monitorsFrom limit (index + 1) described).value ≠ none := by
            simpa [Adapter.monitorsFrom, hfound, hdescribed] using hends
          simp [Adapter.monitorsFrom, hfound, hdescribed,
            ih (Nat.le_of_succ_le_succ hle) hrest]

/-- A step of the listing: it goes on past a monitor that can be told of, and ends at one
that cannot. -/
theorem monitorsFrom_succ (hfaults : device.faults = .none) (limit position : Nat) :
    (Adapter.monitorsFrom (limit + 1) (.ofNat position) device).value =
      match device.info (.ofNat position) with
      | .ok info => (Adapter.monitorsFrom limit (.ofNat (position + 1)) device).value.map
          (Except.map (info :: ·))
      | .error error => some (closing [] error) := by
  rw [Device.info_eq hfaults, Adapter.monitorsFrom, UInt32.ofNat_add]
  cases hmet : device.encounter (.ofNat position) with
  | barred => simp [enumOutput_barred hfaults hmet, Encounter.info, closing]
  | vacant => simp [enumOutput_vacant hfaults hmet, Encounter.info, closing]
  | unreadable =>
      obtain ⟨output, hfound, hdescribed⟩ := describe_unreadable hfaults hmet
      simp [hfound, hdescribed, Encounter.info, closing]
  | readable description =>
      obtain ⟨output, hfound, hdescribed⟩ := describe_readable hfaults hmet
      simp [hfound, hdescribed, Encounter.info]

/-- A position up to the end of the row is the number of its index. -/
theorem Device.toNat_position (hcount : device.outputs.length < 2 ^ 32) {position : Nat}
    (hposition : position ≤ device.outputs.length) :
    (UInt32.ofNat position).toNat = position :=
  UInt32.toNat_ofNat_of_lt' (Nat.lt_of_le_of_lt hposition hcount)

/-- A monitor that can be told of stands in the row. -/
theorem Device.lt_of_info_eq_ok (hfaults : device.faults = .none) {monitor : MonitorInfo}
    (htold : device.info index = .ok monitor) : index.toNat < device.outputs.length := by
  obtain ⟨-, config, hconfig, -⟩ := (Device.info_eq_ok_iff hfaults).mp htold
  exact (List.getElem?_eq_some_iff.mp hconfig).1

theorem monitorsFrom_of_error (hfaults : device.faults = .none) {position : Nat}
    {error : CaptureError} (hfailed : device.info (.ofNat position) = .error error)
    {limit : Nat} (hlimit : 0 < limit) :
    (Adapter.monitorsFrom limit (.ofNat position) device).value = some (closing [] error) := by
  obtain ⟨fewer, rfl⟩ := Nat.exists_eq_add_one.mpr hlimit
  rw [monitorsFrom_succ hfaults, hfailed]

theorem monitorsFrom_of_ok (hfaults : device.faults = .none) {position : Nat}
    {monitor : MonitorInfo} (htold : device.info (.ofNat position) = .ok monitor)
    {limit : Nat} (hlimit : 0 < limit) :
    (Adapter.monitorsFrom limit (.ofNat position) device).value =
      (Adapter.monitorsFrom (limit - 1) (.ofNat (position + 1)) device).value.map
        (Except.map (monitor :: ·)) := by
  obtain ⟨fewer, rfl⟩ := Nat.exists_eq_add_one.mpr hlimit
  rw [monitorsFrom_succ hfaults, htold, Nat.add_sub_cancel]

/-- From every position of the row the listing walks to the first monitor that cannot be told
of, which is past the end of the row at the latest, and answers by what that is. -/
theorem monitorsFrom_ends (hfaults : device.faults = .none)
    (hcount : device.outputs.length < 2 ^ 32) {start : Nat}
    (hstart : start ≤ device.outputs.length) :
    ∃ last infos error, start ≤ last ∧ last ≤ device.outputs.length ∧
      (List.range' start (last - start)).map (fun index => device.info (.ofNat index)) =
        infos.map .ok ∧
      device.info (.ofNat last) = .error error ∧
      ∀ limit, device.outputs.length < start + limit →
        (Adapter.monitorsFrom limit (.ofNat start) device).value = some (closing infos error) := by
  -- The recursion is on what is left of the row.
  cases htold : device.info (.ofNat start) with
  | error error =>
      refine ⟨start, [], error, Nat.le_refl start, hstart, by simp, htold, ?_⟩
      intro limit hlimit
      exact monitorsFrom_of_error hfaults htold (by omega)
  | ok monitor =>
      have hwithin : start < device.outputs.length := by
        rw [← Device.toNat_position hcount hstart]
        exact Device.lt_of_info_eq_ok hfaults htold
      obtain ⟨last, infos, error, hle, hlast, hinfos, hfailed, hlisted⟩ :=
        monitorsFrom_ends hfaults hcount (Nat.succ_le_of_lt hwithin)
      refine ⟨last, monitor :: infos, error, by omega, hlast, ?_, hfailed, ?_⟩
      · rw [show last - start = last - start.succ + 1 by omega, List.range'_succ,
          List.map_cons, hinfos, htold, List.map_cons]
      · intro limit hlimit
        rw [monitorsFrom_of_ok hfaults htold (by omega), hlisted (limit - 1) (by omega),
          Option.map_some, map_cons_closing]
termination_by device.outputs.length - start

/-- The answer of a query is a failure of the platform or that the row has ended. -/
theorem Device.info_eq_error (hfaults : device.faults = .none) {error : CaptureError}
    (hfailed : device.info index = .error error) :
    error = .notFound index ∧ device.outputs.length ≤ index.toNat ∨
      ∃ failure, error = .platform failure := by
  rw [Device.info_eq hfaults] at hfailed
  rcases Encounter.info_eq_error hfailed with ⟨hnone, hvacant⟩ | hplatform
  · exact .inl ⟨hnone, (encounter_eq_vacant_iff.mp hvacant).2⟩
  · exact .inr hplatform

/-- Monitors told of at every position of the row are those of its outputs. -/
theorem Device.infos_eq_outputs (hfaults : device.faults = .none)
    (hcount : device.outputs.length < 2 ^ 32) {infos : List MonitorInfo}
    (hinfos : (List.range device.outputs.length).map (fun index => device.info (.ofNat index)) =
      infos.map .ok) :
    infos = device.outputs.map fun config => .ofDescription config.description := by
  have hlength : device.outputs.length = infos.length := by
    simpa using congrArg List.length hinfos
  refine List.ext_getElem (by simp [hlength]) ?_
  intro position hposition houtput
  have hwithin : position < device.outputs.length := by simpa using houtput
  have htold : device.info (.ofNat position) = .ok infos[position] := by
    simpa [hwithin, hposition] using congrArg (fun infos => infos[position]?) hinfos
  obtain ⟨-, config, hconfig, -, hsame⟩ := (Device.info_eq_ok_iff hfaults).mp htold
  rw [Device.toNat_position hcount (Nat.le_of_lt hwithin),
    List.getElem?_eq_getElem hwithin] at hconfig
  rw [← hsame, List.getElem_map, Option.some.inj hconfig]

/-- The first query to fail is the one behind those that tell of a monitor. -/
theorem Device.isLeast_failing {last : Nat} {infos : List MonitorInfo} {error : CaptureError}
    (hposition : (UInt32.ofNat last).toNat = last)
    (hinfos : (List.range last).map (fun index => device.info (.ofNat index)) = infos.map .ok)
    (hfailed : device.info (.ofNat last) = .error error) :
    IsLeast {index | ∃ error, device.info index = .error error} (.ofNat last) := by
  refine ⟨⟨error, hfailed⟩, ?_⟩
  rintro index ⟨early, hearly⟩
  by_contra hless
  have hindex : index.toNat < last := by
    rwa [UInt32.not_le, UInt32.lt_iff_toNat_lt, hposition] at hless
  have htold : device.info index ∈ infos.map .ok := by
    rw [← hinfos, List.mem_map]
    exact ⟨index.toNat, List.mem_range.mpr hindex, by rw [UInt32.ofNat_toNat]⟩
  obtain ⟨monitor, -, hmonitor⟩ := List.mem_map.mp htold
  rw [hearly] at hmonitor
  cases hmonitor

end

/-- The listing of all monitors comes to an end and agrees with the queries for one.  Some query
fails, at the end of the row at the latest, and the listing fails with the first that does,
unless the row ends there: then it lists what the queries before tell, which is every output of
the row.  A walk with any limit beyond the end of the row is the same walk, call by call. -/
theorem listing_agrees_with_queries (device : Device) (hfaults : device.faults = .none)
    (hcount : device.outputs.length < 2 ^ 32) :
    let info := fun index => (Duplicator.monitorInfo index device).value
    let listed := (Duplicator.monitors device).value
    listed ≠ none ∧
    (∃ last error, IsLeast {index | ∃ error, info index = .error error} last ∧
      info last = .error error ∧ last.toNat ≤ device.outputs.length ∧
      (error = .notFound last → ∃ infos, listed = some (.ok infos) ∧
        infos.map .ok = (List.range last.toNat).map fun index => info (.ofNat index)) ∧
      (error ≠ .notFound last → listed = some (.error error))) ∧
    (∀ index, listed ≠ some (.error (.notFound index))) ∧
    (∀ infos, listed = some (.ok infos) →
      infos = device.outputs.map fun config => .ofDescription config.description) ∧
    ∀ limit, device.outputs.length < limit →
      Adapter.monitorsFrom limit 0 device = Adapter.monitors device := by
  intro info listed
  obtain ⟨last, infos, error, -, hlast, hinfos, hfailed, hends⟩ :=
    monitorsFrom_ends hfaults hcount (Nat.zero_le device.outputs.length)
  rw [Nat.sub_zero, ← List.range_eq_range'] at hinfos
  have hposition : (UInt32.ofNat last).toNat = last := Device.toNat_position hcount hlast
  have hvalue : (Adapter.monitors device).value = some (closing infos error) :=
    hends (device.outputs.length + 1) (by omega)
  have hlisted : listed = some ((closing infos error).mapError CaptureError.platform) :=
    congrArg (Option.map (Except.mapError CaptureError.platform)) hvalue
  have hanswered : listed ≠ none := by simp [hlisted]
  have hwhole : ∀ limit, device.outputs.length < limit →
      Adapter.monitorsFrom limit 0 device = Adapter.monitors device := by
    intro limit hlimit
    apply monitorsFrom_stable (Nat.succ_le_of_lt hlimit)
    rw [show (Adapter.monitorsFrom device.outputs.length.succ 0 device).value = _ from hvalue]
    exact Option.some_ne_none _
  have hfirst := Device.isLeast_failing hposition hinfos hfailed
  have hbound : (UInt32.ofNat last).toNat ≤ device.outputs.length := by rwa [hposition]
  refine ⟨hanswered, ?_⟩
  rcases Device.info_eq_error hfaults hfailed with ⟨rfl, hended⟩ | ⟨failure, rfl⟩
  · -- The row has ended where the first query fails, so all of it is listed.
    rw [hposition] at hended
    obtain rfl : last = device.outputs.length := Nat.le_antisymm hlast hended
    have hall := Device.infos_eq_outputs hfaults hcount hinfos
    refine ⟨⟨.ofNat device.outputs.length, _, hfirst, hfailed, hbound, ?_, ?_⟩, ?_, ?_, hwhole⟩
    · intro _
      exact ⟨infos, hlisted, by rw [hposition]; exact hinfos.symm⟩
    · intro hother
      exact absurd rfl hother
    · intro index hmissing
      rw [hlisted] at hmissing
      cases hmissing
    · intro others hothers
      rw [hlisted] at hothers
      cases hothers
      exact hall
  · refine ⟨⟨.ofNat last, _, hfirst, hfailed, hbound, nofun, ?_⟩, ?_, ?_, hwhole⟩
    · intro _
      exact hlisted
    · intro index hmissing
      rw [hlisted] at hmissing
      cases hmissing
    · intro others hothers
      rw [hlisted] at hothers
      cases hothers

/-- An enumeration that fails right behind the last output is no end of the row. -/
theorem listing_agrees_with_queries_barred :
    let config : OutputConfig := ⟨⟨10, .zero, .identity⟩, .standard, true, true⟩
    let device : Device := { Device.ofOutputs [config, config] with enumerationFailsAt := some 2 }
    device.faults = .none ∧ device.outputs.length < 2 ^ 32 ∧
      (Duplicator.monitors device).value =
        some (.error (.platform Device.enumerationFailure)) := by
  intro config device
  obtain ⟨-, ⟨last, error, hfirst, hfailed, -, -, hlisted⟩, -⟩ :=
    listing_agrees_with_queries device rfl (by decide)
  have hle : last ≤ 2 := hfirst.2 ⟨.platform Device.enumerationFailure, rfl⟩
  have hlast : last = 0 ∨ last = 1 ∨ last = 2 := by
    simp only [← UInt32.toNat_inj, UInt32.le_iff_toNat_le] at hle ⊢
    change last.toNat ≤ 2 at hle
    change last.toNat = 0 ∨ last.toNat = 1 ∨ last.toNat = 2
    omega
  rcases hlast with rfl | rfl | rfl
  · cases hfailed
  · cases hfailed
  · cases hfailed
    exact ⟨rfl, by decide, hlisted nofun⟩

end DesktopCapture
