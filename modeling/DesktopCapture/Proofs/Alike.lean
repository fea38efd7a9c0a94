import DesktopCapture.Proofs.Aside
import Mathlib.Data.List.Forall2
import Mathlib.Data.List.Nodup

/-!
# Two actions alike

Two devices with the same script need not give out the same numbers.  They are alike
under a renaming that pairs the numbers of the one with those of the other.  Two
actions are alike if they lead from alike devices to alike devices, make the same
captures under the renaming, and have related values; on the way the renaming only
grows.  Actions that are aside are alike whatever they do.
-/

namespace DesktopCapture

/-! ## Renamings -/

/-- Numbers given out in one run, each paired with its counterpart in another. -/
abbrev Renaming := List (Nat × Nat)

/-- No number has two counterparts. -/
structure Renaming.IsOneToOne (names : Renaming) : Prop where
  left : (names.map Prod.fst).Nodup
  right : (names.map Prod.snd).Nodup

/-- A texture of the one run is that of the other but for its number. -/
structure Texture.Renamed (names : Renaming) (texture texture' : Texture) : Prop where
  id : (texture.id, texture'.id) ∈ names
  size : texture'.size = texture.size
  format : texture'.format = texture.format

/-- The same call on renamed textures. -/
def Call.Renamed (names : Renaming) : Call → Call → Prop
  | .copyTexture destination source, .copyTexture destination' source' =>
    (destination, destination') ∈ names ∧ (source, source') ∈ names
  | call, call' => call' = call

/-- The same answer but for the number of a texture. -/
def Answer.Renamed (names : Renaming) : Answer → Answer → Prop
  | .texture given, .texture given' => given.Renamed names given'
  | answer, answer' => answer' = answer

/-- The same call with the same answer under a renaming. -/
inductive Entry.Renamed (names : Renaming) : Entry → Entry → Prop
  | call {call call' : Call} {answer answer' : Answer} (hcall : call.Renamed names call')
      (hanswer : answer.Renamed names answer') :
      Renamed names (.call call answer) (.call call' answer')

/-- The calls that capture. -/
def Entry.isCapture : Entry → Bool
  | .call (.enumOutput _) _ | .call (.duplicateWithFormats ..) _ | .call (.duplicate _) _ => true
  | .call (.colorInfo _) _ | .call (.acquire ..) _ | .call (.releaseFrame _) _ => true
  | .call .frameTexture _ | .call (.createTexture ..) _ | .call (.copyTexture ..) _ => true
  | _ => false

/-- The captures in a journal. -/
def captures (journal : List Entry) : List Entry := journal.filter Entry.isCapture

theorem captures_append (before after : List Entry) :
    captures (before ++ after) = captures before ++ captures after :=
  List.filter_append before after

theorem captures_of_aside {journal : List Entry}
    (haside : ∀ entry ∈ journal, entry.isAside = true) : captures journal = [] := by
  rw [captures, List.filter_eq_nil_iff]
  intro entry hentry hcapture
  have hnot := haside entry hentry
  unfold Entry.isCapture at hcapture
  split at hcapture <;> first | cases hnot | cases hcapture

section

variable {names names' : Renaming}

theorem Texture.Renamed.mono {texture texture' : Texture}
    (hrenamed : texture.Renamed names texture') (hgrows : names ⊆ names') :
    texture.Renamed names' texture' :=
  ⟨hgrows hrenamed.id, hrenamed.size, hrenamed.format⟩

theorem Call.Renamed.mono {call call' : Call} (hrenamed : call.Renamed names call')
    (hgrows : names ⊆ names') : call.Renamed names' call' := by
  unfold Call.Renamed at hrenamed ⊢
  split
  · exact ⟨hgrows hrenamed.1, hgrows hrenamed.2⟩
  · next hnot =>
    split at hrenamed
    · exact absurd rfl (hnot _ _ _ _ rfl)
    · exact hrenamed

theorem Answer.Renamed.mono {answer answer' : Answer}
    (hrenamed : answer.Renamed names answer') (hgrows : names ⊆ names') :
    answer.Renamed names' answer' := by
  unfold Answer.Renamed at hrenamed ⊢
  split
  · exact hrenamed.mono hgrows
  · next hnot =>
    split at hrenamed
    · exact absurd rfl (hnot _ _ rfl)
    · exact hrenamed

theorem Entry.Renamed.mono {entry entry' : Entry} (hrenamed : entry.Renamed names entry')
    (hgrows : names ⊆ names') : entry.Renamed names' entry' := by
  cases hrenamed with
  | call hcall hanswer => exact .call (hcall.mono hgrows) (hanswer.mono hgrows)

end

/-! ## Devices alike -/

/-- Two devices are alike: the same script, and the numbers given out are paired. -/
structure Device.Alike (names : Renaming) (device device' : Device) : Prop where
  script : device.SameScript device'
  oneToOne : names.IsOneToOne
  known : ∀ pair ∈ names, pair.1 ≤ device.lastId ∧ pair.2 ≤ device'.lastId

namespace Device.Alike

variable {names : Renaming} {device device' after after' : Device}

/-- What is aside keeps devices alike. -/
theorem beside (halike : device.Alike names device') (hleft : device.Beside after)
    (hright : device'.Beside after') : after.Alike names after' where
  script := (hleft.script.symm.trans halike.script).trans hright.script
  oneToOne := halike.oneToOne
  known := by
    intro pair hpair
    obtain ⟨hfirst, hsecond⟩ := halike.known pair hpair
    exact ⟨Nat.le_trans hfirst hleft.lastId, Nat.le_trans hsecond hright.lastId⟩

/-- The next numbers of both devices can be paired. -/
theorem grow (halike : device.Alike names device') :
    Renaming.IsOneToOne ((device.nextId, device'.nextId) :: names) := by
  constructor
  · rw [List.map_cons, List.nodup_cons]
    refine ⟨?_, halike.oneToOne.left⟩
    intro hmember
    obtain ⟨pair, hpair, hsame⟩ := List.mem_map.mp hmember
    have hbound := (halike.known pair hpair).1
    simp only [nextId] at hsame
    omega
  · rw [List.map_cons, List.nodup_cons]
    refine ⟨?_, halike.oneToOne.right⟩
    intro hmember
    obtain ⟨pair, hpair, hsame⟩ := List.mem_map.mp hmember
    have hbound := (halike.known pair hpair).2
    simp only [nextId] at hsame
    omega

/-- Devices that each gave out one more number are alike under the longer renaming. -/
theorem numbered (halike : device.Alike names device') (hscript : after.SameScript after')
    (hleft : after.lastId = device.nextId) (hright : after'.lastId = device'.nextId) :
    after.Alike ((device.nextId, device'.nextId) :: names) after' where
  script := hscript
  oneToOne := halike.grow
  known := by
    intro pair hpair
    rw [hleft, hright]
    rcases List.mem_cons.mp hpair with rfl | hold
    · exact ⟨Nat.le_refl _, Nat.le_refl _⟩
    · obtain ⟨hfirst, hsecond⟩ := halike.known pair hold
      exact ⟨Nat.le_succ_of_le hfirst, Nat.le_succ_of_le hsecond⟩

end Device.Alike

/-! ## Actions alike -/

/-- Two results are related: both are values that are, or both the same failure. -/
def Related {ε α β : Type} (related : α → β → Prop) : Except ε α → Except ε β → Prop
  | .ok value, .ok value' => related value value'
  | .error error, .error error' => error' = error
  | _, _ => False

namespace Capture

variable {α β α' β' : Type} {names : Renaming}

/-- What comes of two actions that are alike. -/
structure Outcome (names : Renaming) (related : Renaming → α → α' → Prop)
    (done : Traced α) (done' : Traced α') : Prop where
  alike : done.device.Alike names done'.device
  related : related names done.value done'.value
  captures : List.Forall₂ (Entry.Renamed names) (captures done.journal)
    (captures done'.journal)

/-- From devices alike two actions come to related values and to devices alike, with
the same captures on the way. -/
def Alike (names : Renaming) (action : Capture α) (action' : Capture α')
    (related : Renaming → α → α' → Prop) : Prop :=
  ∀ device device', Device.Alike names device device' →
    ∃ names', names ⊆ names' ∧ Outcome names' related (action device) (action' device')

namespace Alike

variable {related : Renaming → α → α' → Prop} {related' : Renaming → β → β' → Prop}

theorem pure {value : α} {value' : α'} (hrelated : related names value value') :
    Alike names (pure value) (pure value') related := by
  intro device device' halike
  exact ⟨names, List.Subset.refl names, halike, hrelated, .nil⟩

theorem bind {first : Capture α} {first' : Capture α'} {next : α → Capture β}
    {next' : α' → Capture β'} (hfirst : Alike names first first' related)
    (hnext : ∀ names' value value', names ⊆ names' → related names' value value' →
      Alike names' (next value) (next' value') related') :
    Alike names (first >>= next) (first' >>= next') related' := by
  intro device device' halike
  obtain ⟨middle, hgrows, hmiddle⟩ := hfirst device device' halike
  obtain ⟨last, hgrows', hlast⟩ :=
    hnext middle _ _ hgrows hmiddle.related _ _ hmiddle.alike
  have hbefore := hmiddle.captures.imp fun _ _ hrenamed => hrenamed.mono hgrows'
  refine ⟨last, List.Subset.trans hgrows hgrows', hlast.alike, hlast.related, ?_⟩
  rw [bind_apply, bind_apply, captures_append, captures_append]
  exact List.rel_append hbefore hlast.captures

theorem weaken {weaker : Renaming → α → α' → Prop} {action : Capture α}
    {action' : Capture α'} (halike : Alike names action action' related)
    (hweaker : ∀ names' value value', related names' value value' →
      weaker names' value value') : Alike names action action' weaker := by
  intro device device' hdevices
  obtain ⟨names', hgrows, houtcome⟩ := halike device device' hdevices
  exact ⟨names', hgrows, houtcome.alike, hweaker _ _ _ houtcome.related, houtcome.captures⟩

/-- Whatever is done aside, nothing is captured. -/
theorem aside {action : Capture α} {action' : Capture α'} (haside : action.IsAside)
    (haside' : action'.IsAside)
    (hrelated : ∀ device device', related names (action device).value (action' device').value) :
    Alike names action action' related := by
  intro device device' halike
  refine ⟨names, List.Subset.refl names, ?_, hrelated device device', ?_⟩
  · exact halike.beside (haside.beside device) (haside'.beside device')
  · rw [captures_of_aside (haside.entries device),
      captures_of_aside (haside'.entries device')]
    exact .nil

/-- Entries that are no captures do not matter. -/
theorem note {entry entry' : Entry} (hentry : entry.isCapture = false)
    (hentry' : entry'.isCapture = false) :
    Alike names (note entry) (Capture.note entry') (fun _ _ _ => True) := by
  intro device device' halike
  refine ⟨names, List.Subset.refl names, halike, trivial, ?_⟩
  simp [Capture.note, DesktopCapture.captures, hentry, hentry']

theorem release (object object' : Release) :
    Alike names (release object) (Capture.release object') (fun _ _ _ => True) := by
  intro device device' halike
  refine ⟨names, List.Subset.refl names, ⟨?_, halike.oneToOne, halike.known⟩, trivial, .nil⟩
  have hscript := halike.script
  exact ⟨hscript.outputs, hscript.enumerationFailsAt, hscript.frames, hscript.fails,
    hscript.platformFaults, hscript.acquireFaults⟩

/-- A call of both runs fails in both, by the same fault or by the device, or is done
in both. -/
theorem fallible {related : Renaming → α → α' → Prop} {point : FaultPoint}
    {call call' : Call} {answer : α → Answer} {answer' : α' → Answer}
    {act : Device → Except PlatformError (α × Device)}
    {act' : Device → Except PlatformError (α' × Device)} (hpoint : point.isAside = false)
    (hcall : call.Renamed names call')
    (hcapture : ∀ given, (Entry.call call given).isCapture = true)
    (hcapture' : ∀ given, (Entry.call call' given).isCapture = true)
    (hact : ∀ device device', Device.Alike names device device' →
      (∃ error, act device = .error error ∧ act' device' = .error error) ∨
      ∃ names' value value' after after', act device = .ok (value, after) ∧
        act' device' = .ok (value', after') ∧ names ⊆ names' ∧
        after.Alike names' after' ∧ (answer value).Renamed names' (answer' value') ∧
        related names' value value') :
    Alike names (fallible point call answer act) (Capture.fallible point call' answer' act')
      (fun names' => Related (related names')) := by
  have hone : ∀ {names' : Renaming} {given given' : Answer}, names ⊆ names' →
      given.Renamed names' given' → List.Forall₂ (Entry.Renamed names')
        (DesktopCapture.captures [.call call given])
        (DesktopCapture.captures [.call call' given']) := by
    intro names' given given' hgrows hgiven
    simp only [DesktopCapture.captures, List.filter_cons, hcapture, hcapture', if_true,
      List.filter_nil]
    exact .cons (.call (hcall.mono hgrows) hgiven) .nil
  intro device device' halike
  have hsame := halike.script.platformFaults point hpoint
  cases hfaults : device.faults.platform point with
  | cons error rest =>
      rw [hfaults] at hsame
      simp only [Capture.fallible, Faults.take?, hfaults, hsame]
      refine ⟨names, List.Subset.refl names, ⟨?_, halike.oneToOne, halike.known⟩, rfl,
        hone (List.Subset.refl names) rfl⟩
      have hscript := halike.script
      refine ⟨hscript.outputs, hscript.enumerationFailsAt, hscript.frames, hscript.fails,
        ?_, hscript.acquireFaults⟩
      intro other hother
      by_cases hsamePoint : other = point
      · simp [hsamePoint]
      · simpa [hsamePoint] using hscript.platformFaults other hother
  | nil =>
      rw [hfaults] at hsame
      rcases hact device device' halike with ⟨error, hfailed, hfailed'⟩ |
        ⟨names', value, value', after, after', hdone, hdone', hgrows, hafter, hanswer,
          hrelated⟩
      · simp only [Capture.fallible, Faults.take?, hfaults, hsame, hfailed, hfailed']
        exact ⟨names, List.Subset.refl names, halike, rfl,
          hone (List.Subset.refl names) rfl⟩
      · simp only [Capture.fallible, Faults.take?, hfaults, hsame, hdone, hdone']
        exact ⟨names', hgrows, hafter, hrelated, hone hgrows hanswer⟩

end Alike
end Capture
end DesktopCapture
