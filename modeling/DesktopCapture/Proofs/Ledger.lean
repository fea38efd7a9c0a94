import DesktopCapture.Proofs.Triple
import Mathlib.Data.List.Nodup
import Mathlib.Data.List.Count
import Mathlib.Data.List.Perm.Basic

/-!
# The ledger of resources

A call can bring a duplication, a texture, a window or a swap chain into being,
and a release ends one.  Whatever was created is either released or still owned
by somebody: the ledger says so of the resources `owned` at some moment, and that
the device's own counters agree.  Every numbered resource is created once, so
nothing that was released is owned and nothing is released twice.

What is owned is given as the list of the releases that are to come, and the
triples say how a call moves it.
-/

namespace DesktopCapture

namespace Release

/-- The number of a released object; duplications have none. -/
def number? : Release → Option Nat
  | .duplication _ => none
  | .texture id | .swapChain id | .window id => some id

/-- Whether a texture is released. -/
def isTexture : Release → Bool
  | .texture _ => true
  | _ => false

/-- Whether a swap chain is released. -/
def isSwapChain : Release → Bool
  | .swapChain _ => true
  | _ => false

/-- Whether a window is released. -/
def isWindow : Release → Bool
  | .window _ => true
  | _ => false

end Release

namespace Entry

/-- What an entry brought into being, given by the release that ends it. -/
def created? : Entry → Option Release
  | .call (.duplicateWithFormats output _) .done => some (.duplication output)
  | .call (.duplicate output) .done => some (.duplication output)
  | .call (.createTexture _ _) (.texture texture) => some (.texture texture.id)
  | .call (.createWindow _ _) (.number id) => some (.window id)
  | .call (.createSwapChain _ _) (.number id) => some (.swapChain id)
  | _ => none

/-- What an entry released. -/
def released? : Entry → Option Release
  | .release released => some released
  | _ => none

end Entry

/-- Everything brought into being in a journal. -/
def created (journal : List Entry) : List Release := journal.filterMap Entry.created?

/-- Everything released in a journal. -/
def released (journal : List Entry) : List Release := journal.filterMap Entry.released?

theorem created_append (first second : List Entry) :
    created (first ++ second) = created first ++ created second := List.filterMap_append

theorem released_append (first second : List Entry) :
    released (first ++ second) = released first ++ released second := List.filterMap_append

theorem created_append_quiet {past : List Entry} {entry : Entry}
    (hquiet : entry.created? = none) : created (past ++ [entry]) = created past := by
  rw [created_append]
  simp [created, hquiet]

theorem created_append_creation {past : List Entry} {entry : Entry} {object : Release}
    (hcreated : entry.created? = some object) :
    created (past ++ [entry]) = created past ++ [object] := by
  rw [created_append]
  simp [created, hcreated]

theorem released_append_quiet {past : List Entry} {entry : Entry}
    (hquiet : entry.released? = none) : released (past ++ [entry]) = released past := by
  rw [released_append]
  simp [released, hquiet]

theorem released_append_release (past : List Entry) (object : Release) :
    released (past ++ [.release object]) = released past ++ [object] := by
  rw [released_append]
  simp [released, Entry.released?]

/-- All that was created is released or owned, and the device keeps the books. -/
structure Ledger (owned : List Release) (past : List Entry) (device : Device) : Prop where
  releases : device.releases = released past
  balance : (created past).Perm (released past ++ owned)
  texturesCreated : device.texturesCreated = (created past).countP Release.isTexture
  liveTextures : device.liveTextures = owned.countP Release.isTexture
  distinct : ((created past).filterMap Release.number?).Nodup
  known : ∀ id ∈ (created past).filterMap Release.number?, id ≤ device.lastId

namespace Device

/-- The second device has the books of the first and may have given out more
numbers. -/
structure SameBooks (device device' : Device) : Prop where
  releases : device'.releases = device.releases
  texturesCreated : device'.texturesCreated = device.texturesCreated
  liveTextures : device'.liveTextures = device.liveTextures
  lastId : device.lastId ≤ device'.lastId

theorem SameBooks.refl (device : Device) : SameBooks device device :=
  ⟨rfl, rfl, rfl, Nat.le_refl _⟩

/-- The second device has, beyond the books of the first, one more object that was
created.  Its number, if it has one, is new. -/
structure Enters (object : Release) (device device' : Device) : Prop where
  releases : device'.releases = device.releases
  texturesCreated : device'.texturesCreated =
    device.texturesCreated + if object.isTexture then 1 else 0
  liveTextures : device'.liveTextures =
    device.liveTextures + if object.isTexture then 1 else 0
  number : ∀ id, object.number? = some id → device.lastId < id ∧ id ≤ device'.lastId
  lastId : device.lastId ≤ device'.lastId

end Device

namespace Ledger

variable {owned owned' : List Release} {past : List Entry} {device device' : Device}

/-- Only what is owned matters, not in which order. -/
theorem of_perm (hledger : Ledger owned past device) (hperm : owned.Perm owned') :
    Ledger owned' past device where
  releases := hledger.releases
  balance := hledger.balance.trans (hperm.append_left _)
  texturesCreated := hledger.texturesCreated
  liveTextures := hledger.liveTextures.trans (hperm.countP_eq _)
  distinct := hledger.distinct
  known := hledger.known

theorem initial (outputs : List OutputConfig) : Ledger [] [] (.ofOutputs outputs) where
  releases := rfl
  balance := List.Perm.refl _
  texturesCreated := rfl
  liveTextures := rfl
  distinct := List.nodup_nil
  known := by simp [created]

/-- The device may change apart from its books. -/
theorem transfer (hledger : Ledger owned past device) (hbooks : device.SameBooks device') :
    Ledger owned past device' where
  releases := hbooks.releases.trans hledger.releases
  balance := hledger.balance
  texturesCreated := hbooks.texturesCreated.trans hledger.texturesCreated
  liveTextures := hbooks.liveTextures.trans hledger.liveTextures
  distinct := hledger.distinct
  known := fun id hid => Nat.le_trans (hledger.known id hid) hbooks.lastId

/-- An entry that creates and releases nothing leaves the ledger alone. -/
theorem append_quiet (hledger : Ledger owned past device) {entry : Entry}
    (hcreated : entry.created? = none) (hreleased : entry.released? = none)
    (hbooks : device.SameBooks device') : Ledger owned (past ++ [entry]) device' := by
  have hmoved := hledger.transfer hbooks
  constructor
  · rw [released_append_quiet hreleased]
    exact hmoved.releases
  · rw [created_append_quiet hcreated, released_append_quiet hreleased]
    exact hmoved.balance
  · rw [created_append_quiet hcreated]
    exact hmoved.texturesCreated
  · exact hmoved.liveTextures
  · rw [created_append_quiet hcreated]
    exact hmoved.distinct
  · rw [created_append_quiet hcreated]
    exact hmoved.known

/-- A created object is owned from then on. -/
theorem append_creation (hledger : Ledger owned past device) {entry : Entry}
    {object : Release} (hcreated : entry.created? = some object)
    (hreleased : entry.released? = none) (henters : device.Enters object device') :
    Ledger (object :: owned) (past ++ [entry]) device' := by
  have hgrown : created (past ++ [entry]) = created past ++ [object] :=
    created_append_creation hcreated
  constructor
  · rw [released_append_quiet hreleased, henters.releases, hledger.releases]
  · rw [hgrown, released_append_quiet hreleased]
    have hmiddle : (released past ++ object :: owned).Perm
        (object :: (released past ++ owned)) := List.perm_middle
    exact ((List.perm_append_singleton object _).trans
      (hledger.balance.cons object)).trans hmiddle.symm
  · rw [hgrown, List.countP_append, List.countP_singleton, henters.texturesCreated,
      hledger.texturesCreated]
  · rw [henters.liveTextures, hledger.liveTextures, List.countP_cons]
  · rw [hgrown, List.filterMap_append]
    apply List.Nodup.append hledger.distinct
    · cases hobject : object.number? <;> simp [hobject]
    · intro id hold hnew
      have hobject : object.number? = some id := by simpa using hnew
      have hbound := hledger.known id hold
      have hfresh := (henters.number id hobject).1
      omega
  · intro id hid
    rw [hgrown, List.filterMap_append, List.mem_append] at hid
    rcases hid with hold | hnew
    · exact Nat.le_trans (hledger.known id hold) henters.lastId
    · exact (henters.number id (by simpa using hnew)).2

/-- Releasing what is owned moves it from one side to the other. -/
theorem append_release {object : Release} (hledger : Ledger (object :: owned) past device) :
    Ledger owned (past ++ [.release object]) (device.release object) := by
  have hquiet : created (past ++ [.release object]) = created past :=
    created_append_quiet rfl
  have hgrown := released_append_release past object
  constructor
  · rw [hgrown, ← hledger.releases]
    rfl
  · rw [hquiet, hgrown, List.append_assoc]
    exact hledger.balance
  · rw [hquiet]
    exact hledger.texturesCreated
  · have hlive := hledger.liveTextures
    rw [List.countP_cons] at hlive
    cases object <;> simp [Device.release, Release.isTexture] at hlive ⊢ <;> omega
  · rw [hquiet]
    exact hledger.distinct
  · rw [hquiet]
    exact hledger.known

end Ledger
end DesktopCapture
