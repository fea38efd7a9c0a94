import DesktopCapture.Proofs.Balance
import DesktopCapture.Proofs.Replay

/-!
# Other numbers

The device gives its objects numbers to tell them apart, and nothing else is made of
them.  Here every object, entry and reply is given with other numbers, and what an
entry does to the device apart from the numbers is seen to stay the same.

A target that is saved and restored is no object of the operation that borrows it, and
keeps its number.
-/

namespace DesktopCapture

open Scenario

section

variable (names : Nat → Nat)

def Texture.renumber (texture : Texture) : Texture := { texture with id := names texture.id }

def Window.renumber (window : Window) : Window := { window with id := names window.id }

def SwapChain.renumber (swapChain : SwapChain) : SwapChain :=
  { swapChain with id := names swapChain.id }

def Preview.renumber (preview : Preview) : Preview :=
  ⟨preview.swapChain.renumber names, preview.window.renumber names⟩

def FrameCache.renumber (cache : FrameCache) : FrameCache :=
  { cache with texture := cache.texture.map (Texture.renumber names) }

/-- A session with other numbers for its texture and its preview. -/
def Session.renumber (session : Session) : Session :=
  { session with
    cache := session.cache.renumber names
    preview := session.preview.map (Preview.renumber names) }

def Release.renumber : Release → Release
  | .duplication output => .duplication output
  | .texture id => .texture (names id)
  | .swapChain id => .swapChain (names id)
  | .window id => .window (names id)

def Present.renumber (present : Present) : Present :=
  { present with
    swapChain := names present.swapChain
    boundTarget := names present.boundTarget }

def Call.renumber : Call → Call
  | .copyTexture destination source => .copyTexture (names destination) (names source)
  | .createSwapChain window size => .createSwapChain (names window) size
  | .setVisible window visible => .setVisible (names window) visible
  | .resize swapChain size => .resize (names swapChain) size
  | .bind swapChain => .bind (names swapChain)
  | .clear swapChain color => .clear (names swapChain) color
  | .copyToSwapChain swapChain source region =>
    .copyToSwapChain (names swapChain) (names source) region
  | .present swapChain interval => .present (names swapChain) interval
  | call => call

def Answer.renumber : Answer → Answer
  | .number id => .number (names id)
  | .texture given => .texture (given.renumber names)
  | answer => answer

/-- An entry with other numbers.  The saved target is kept. -/
def Entry.renumber : Entry → Entry
  | .call .saveTarget answer => .call .saveTarget answer
  | .call made answer => .call (made.renumber names) (answer.renumber names)
  | .release object => .release (object.renumber names)
  | entry => entry

namespace Scenario

def Reply.renumber : Reply → Reply
  | .texture shown => .texture (shown.renumber names)
  | .session shown => .session (shown.renumber names)
  | .cache shown => .cache (shown.renumber names)
  | .preview shown => .preview (shown.renumber names)
  | reply => reply

/-- A record with other numbers in its reply and in its journal. -/
def Record.renumber (record : Record) : Record :=
  ⟨record.reply.renumber names, record.journal.map (Entry.renumber names)⟩

def Cell.renumber (cell : Cell) : Cell :=
  { cell with session := cell.session.map (Session.renumber names) }

end Scenario

end

variable {names : Nat → Nat}

/-! ## Numbers that stay -/

theorem FrameCache.renumber_eq_self {cache : FrameCache}
    (hfixed : ∀ id ∈ cache.holdings.filterMap Release.number?, names id = id) :
    cache.renumber names = cache := by
  obtain ⟨_ | texture, size, format, colorSpace⟩ := cache
  · rfl
  · have hid : names texture.id = texture.id := hfixed _ (by simp [holdings, Release.number?])
    simp [renumber, Texture.renumber, hid]

theorem Preview.renumber_eq_self {preview : Preview}
    (hfixed : ∀ id ∈ preview.holdings.filterMap Release.number?, names id = id) :
    preview.renumber names = preview := by
  have hswapChain : names preview.swapChain.id = preview.swapChain.id :=
    hfixed _ (by simp [holdings, Release.number?])
  have hwindow : names preview.window.id = preview.window.id :=
    hfixed _ (by simp [holdings, Release.number?])
  simp [renumber, SwapChain.renumber, Window.renumber, hswapChain, hwindow]

/-- A session whose objects keep their numbers. -/
theorem Session.renumber_eq_self {session : Session}
    (hfixed : ∀ id ∈ session.holdings.filterMap Release.number?, names id = id) :
    session.renumber names = session := by
  have hcache : session.cache.renumber names = session.cache := by
    refine FrameCache.renumber_eq_self fun id hid => hfixed id ?_
    simp only [holdings, List.filterMap_append, List.mem_append]
    exact .inl (.inr hid)
  have hpreview : session.preview.map (Preview.renumber names) = session.preview := by
    cases hshown : session.preview with
    | none => rfl
    | some preview =>
        refine congrArg some (Preview.renumber_eq_self fun id hid => hfixed id ?_)
        simp only [holdings, List.filterMap_append, List.mem_append, previewHoldings, hshown]
        exact .inr (by simpa using hid)
  rw [renumber, hcache, hpreview]

/-- What a live session owns was given its number before. -/
theorem Owned.number_le {sessions : MonitorTable Session} {past : List Entry} {device : Device}
    (howned : Owned sessions past device) {index : UInt32} {session : Session}
    (hlive : sessions.get? index = some session) {id : Nat}
    (hid : id ∈ session.holdings.filterMap Release.number?) : id ≤ device.lastId := by
  have hcreated := (howned.balance.filterMap Release.number?).mem_iff (a := id)
  have hheld := ((holdings_perm hlive).filterMap Release.number?).mem_iff (a := id)
  refine Ledger.known howned id (hcreated.mpr ?_)
  rw [List.filterMap_append, List.mem_append]
  refine .inr (hheld.mpr ?_)
  rw [List.filterMap_append, List.mem_append]
  exact .inl hid

/-- Live sessions keep their numbers if all numbers given out stay. -/
theorem Owned.renumber_eq_self {sessions : MonitorTable Session} {past : List Entry}
    {device : Device} (howned : Owned sessions past device)
    (hfixed : ∀ id, id ≤ device.lastId → names id = id) {index : UInt32} {session : Session}
    (hlive : sessions.get? index = some session) : session.renumber names = session :=
  Session.renumber_eq_self fun id hid => hfixed id (howned.number_le hlive hid)

/-! ## What does not depend on the numbers -/

namespace Entry

/-- Two entries that do the same to the device, apart from the numbers. -/
structure SameKind (entry entry' : Entry) : Prop where
  polled : entry'.polled? = entry.polled?
  isPoll : entry'.isPoll = entry.isPoll
  isNumbering : entry'.isNumbering = entry.isNumbering
  isNegotiation : entry'.isNegotiation = entry.isNegotiation
  isBaseline : entry'.isBaseline = entry.isBaseline
  isAllocation : entry'.isAllocation = entry.isAllocation
  isRestore : entry'.isRestore = entry.isRestore
  isClear : entry'.isClear = entry.isClear

theorem sameKind_renumber (names : Nat → Nat) (entry : Entry) :
    entry.SameKind (entry.renumber names) := by
  rcases entry with ⟨call, answer⟩ | _ | _ | _
  · cases call <;> cases answer <;> exact ⟨rfl, rfl, rfl, rfl, rfl, rfl, rfl, rfl⟩
  all_goals exact ⟨rfl, rfl, rfl, rfl, rfl, rfl, rfl, rfl⟩

variable (entry : Entry)

theorem released?_renumber :
    (entry.renumber names).released? = entry.released?.map (Release.renumber names) := by
  rcases entry with ⟨call, answer⟩ | _ | _ | _
  · cases call <;> rfl
  all_goals rfl

theorem copied?_renumber :
    (entry.renumber names).copied? = entry.copied?.map (Prod.map names names) := by
  rcases entry with ⟨call, answer⟩ | _ | _ | _
  · cases call <;> rfl
  all_goals rfl

theorem drawn?_renumber :
    (entry.renumber names).drawn? = entry.drawn?.map (Prod.map names (Prod.map names id)) := by
  rcases entry with ⟨call, answer⟩ | _ | _ | _
  · cases call <;> rfl
  all_goals rfl

theorem presented?_renumber :
    (entry.renumber names).presented? = entry.presented?.map (Present.renumber names) := by
  rcases entry with ⟨call, answer⟩ | _ | _ | _
  · cases call <;> cases answer <;> rfl
  all_goals rfl

theorem titled?_renumber : (entry.renumber names).titled? = entry.titled? := by
  rcases entry with ⟨call, answer⟩ | _ | _ | _
  · cases call <;> cases answer <;> rfl
  all_goals rfl

end Entry

/-- As many entries of a kind are counted under other numbers. -/
theorem countP_renumber {counted : Entry → Bool}
    (hsame : ∀ entry : Entry, counted (entry.renumber names) = counted entry)
    (journal : List Entry) :
    (journal.map (Entry.renumber names)).countP counted = journal.countP counted := by
  rw [List.countP_map]
  exact List.countP_congr fun entry _ => by rw [Function.comp_apply, hsame]

end DesktopCapture
