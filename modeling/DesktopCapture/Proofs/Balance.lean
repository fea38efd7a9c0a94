import DesktopCapture.Proofs.Conduct
import DesktopCapture.Proofs.Ingestion
import DesktopCapture.Proofs.Run

/-!
# The balance of resources

After every run the resources that were created and not released are those of the
live sessions.  Two invariants carry this: a session is registered at the monitor
it duplicates, and the ledger balances with what the live sessions own.  Counting
both sides of the ledger by kind gives the balances of the main theorem.
-/

namespace DesktopCapture

open Capture Scenario

/-! ## What holds of every live session -/

/-- A property of sessions that does not depend on the preview, the mark and the handles,
and that is kept when access is lost and when a frame is taken in. -/
structure Session.Keeps (holds : Session → Prop) : Prop where
  beside : ∀ {session : Session} (preview : Option Preview) (frameAvailable : Bool)
    (refs : Nat), holds session → holds { session with preview, frameAvailable, refs }
  lost : ∀ {session : Session}, holds session → holds { session with duplication := none }
  ingested : ∀ {session : Session} {source : Texture} {journal : List Entry}
    {cache : FrameCache}, session.cache.Ingested source session.color.hdr journal cache →
      holds session → holds { session with cache }

namespace Session.Keeps

variable {holds : Session → Prop} {session : Session}

theorem present (hkeeps : Session.Keeps holds) (hholds : holds session) :
    Does session.present (fun _ => True) holds where
  writes := fun _ _ _ => trivial
  yields := by
    intro device
    obtain ⟨preview, hpreview⟩ := session.present_value device
    rw [hpreview]
    exact hkeeps.beside preview session.frameAvailable session.refs hholds

theorem takeFrame (hkeeps : Session.Keeps holds) (duplication : Duplication)
    (resource : FrameResource) (hholds : holds session) :
    Does (session.takeFrame duplication resource) (fun _ => True) holds := by
  refine Does.bind (Does.any _) fun queried _ => ?_
  cases queried with
  | error error =>
      exact Does.bind (Does.any _) fun _ _ => Does.bind (Does.any _) fun _ _ => Does.pure hholds
  | ok source =>
      have hingested : Does (session.cache.ingest source session.color.hdr) (fun _ => True)
          (fun cache => holds { session with cache }) :=
        ⟨fun _ _ _ => trivial, fun device =>
          hkeeps.ingested (session.cache.ingest_ingested source session.color.hdr device) hholds⟩
      refine Does.bind hingested fun cache hcache => ?_
      refine Does.bind (Does.any _) fun _ _ => ?_
      exact hkeeps.present (hkeeps.beside session.preview true session.refs hcache)

theorem update (hkeeps : Session.Keeps holds) (hholds : holds session) :
    Does session.update (fun _ => True) (fun result => holds result.2) := by
  have hshown : Does (do let session ← session.present; pure (true, session))
      (fun _ => True) (fun result => holds result.2) :=
    Does.bind (hkeeps.present hholds) fun _ hpresented => Does.pure hpresented
  unfold Session.update
  rcases session.duplication with _ | duplication
  · exact Does.pure hholds
  · refine Does.bind (Does.any _) fun acquired _ => ?_
    rcases acquired with (index | error | _ | _) | resource
    · exact Does.bind (Does.any _) fun _ _ => hshown
    · exact Does.bind (Does.any _) fun _ _ => hshown
    · refine Does.bind (Does.any _) fun _ _ => ?_
      exact Does.bind (Does.any _) fun _ _ => Does.pure (hkeeps.lost hholds)
    · exact hshown
    · exact Does.bind (hkeeps.takeFrame duplication resource hholds)
        fun _ htaken => Does.pure htaken

end Session.Keeps

/-- What holds of new sessions and is kept holds of every live session. -/
theorem Invariant.of_keeps {holds : UInt32 → Session → Prop}
    (hnew : ∀ {index session}, Session.IsNew index session → holds index session)
    (hkeeps : ∀ index, Session.Keeps (holds index)) :
    Invariant (fun sessions _ _ => sessions.All holds) where
  world := fun _ _ h => h
  quiet := fun _ _ _ h => h
  start := by
    intro sessions index config hvacant past device h
    have hstarted := (Session.does_start index config).yields device
    cases hresult : (Session.start index config device).value with
    | ok session =>
        rw [hresult] at hstarted
        exact h.2.insert (hnew hstarted)
    | error error => exact h.2
  update := by
    intro sessions index session hlive past device h
    exact h.2.insert (((hkeeps index).update (h.2 index session hlive)).yields device)
  setVisible := by
    intro sessions index session visible hlive past device h
    obtain ⟨preview, hpreview⟩ := (session.does_setPreviewVisible visible).yields device
    have hsession := h.2 index session hlive
    rw [hpreview]
    exact h.2.insert ((hkeeps index).beside preview session.frameAvailable session.refs hsession)
  release := by
    intro sessions index session hlive past device h
    exact h.2.erase index
  recount := by
    intro sessions index session past device refs hpositive hlive _ h
    have hsession := h index session hlive
    exact h.insert ((hkeeps index).beside session.preview session.frameAvailable refs hsession)
  window := by
    intro sessions index session session' past device step hlive hstep _ h
    obtain ⟨preview, -, rfl⟩ := Option.map_eq_some_iff.mp hstep
    have hsession := h index session hlive
    exact h.insert ((hkeeps index).beside _ session.frameAvailable session.refs hsession)
  reset := by
    intro sessions past device _ h
    exact h.map fun index session hsession =>
      (hkeeps index).beside session.preview false session.refs hsession

/-! ## Sessions stand at their monitors -/

/-- A session is that of a monitor and duplicates no other. -/
structure Session.IsAt (index : UInt32) (session : Session) : Prop where
  monitor : session.monitor = index
  duplication : ∀ duplication ∈ session.duplication, duplication = ⟨index⟩

/-- Every live session stands at its monitor. -/
def Placed (sessions : MonitorTable Session) : Assertion := fun _ _ =>
  sessions.All Session.IsAt

theorem Session.IsNew.isAt {index : UInt32} {session : Session}
    (hnew : session.IsNew index) : session.IsAt index := by
  obtain ⟨preview, color, rfl⟩ := hnew
  refine ⟨rfl, ?_⟩
  rintro duplication ⟨⟩
  rfl

theorem placed : Invariant Placed :=
  .of_keeps Session.IsNew.isAt fun _ =>
    { beside := fun _ _ _ hat => ⟨hat.monitor, hat.duplication⟩
      lost := fun hat => ⟨hat.monitor, nofun⟩
      ingested := fun _ hat => ⟨hat.monitor, hat.duplication⟩ }

/-! ## The live sessions own what is not released -/

/-- What the live sessions own. -/
def holdings (sessions : MonitorTable Session) : List Release :=
  sessions.values.flatMap Session.holdings

/-- The ledger balances with what the live sessions own. -/
def Owned (sessions : MonitorTable Session) : Assertion := Ledger (holdings sessions)

section

variable {sessions : MonitorTable Session} {index : UInt32} {session session' : Session}

theorem holdings_perm (hlive : sessions.get? index = some session) :
    (holdings sessions).Perm (session.holdings ++ holdings (sessions.erase index)) :=
  (MonitorTable.values_perm hlive).flatMap_right Session.holdings

theorem holdings_insert_perm (sessions : MonitorTable Session) (index : UInt32)
    (session : Session) : (holdings (sessions.insert index session)).Perm
      (session.holdings ++ holdings (sessions.erase index)) :=
  (sessions.values_insert_perm index session).flatMap_right Session.holdings

/-- A session can be replaced by one that owns the same. -/
theorem Owned.replace {past : List Entry} {device : Device}
    (howned : Owned sessions past device) (hlive : sessions.get? index = some session)
    (hholdings : session'.holdings = session.holdings) :
    Owned (sessions.insert index session') past device := by
  have hperm := holdings_insert_perm sessions index session'
  rw [hholdings] at hperm
  exact howned.of_perm ((holdings_perm hlive).trans hperm.symm)

end

theorem DeviceStep.sameBooks (device : Device) (step : DeviceStep) :
    device.SameBooks (step.apply device) := by
  cases step <;> exact ⟨rfl, rfl, rfl, Nat.le_refl _⟩

theorem owned : Invariant Owned where
  world := fun step _ h => h.transfer (DeviceStep.sameBooks _ step)
  quiet := by
    intro sessions past device entry faults hentry _ h
    have hneither : entry.created? = none ∧ entry.released? = none := by
      unfold Entry.isQuiet Entry.isQuestion at hentry
      split at hentry
      · exact ⟨rfl, rfl⟩
      · exact ⟨rfl, rfl⟩
      · split at hentry <;> first | exact ⟨rfl, rfl⟩ | cases hentry
    exact h.append_quiet hneither.1 hneither.2 ⟨rfl, rfl, rfl, Nat.le_refl _⟩
  start := by
    intro sessions index config hvacant past device h
    have hstarted := Session.ledger_start index config past device h.2
    cases hresult : (Session.start index config device).value with
    | ok session =>
        rw [hresult] at hstarted
        have hperm := holdings_insert_perm sessions index session
        rw [MonitorTable.erase_eq_self hvacant] at hperm
        exact hstarted.of_perm hperm.symm
    | error error =>
        rw [hresult] at hstarted
        exact hstarted
  update := by
    intro sessions index session hlive past device h
    have hupdated := session.ledger_update past device (h.2.of_perm (holdings_perm hlive))
    exact hupdated.of_perm (holdings_insert_perm sessions index _).symm
  setVisible := by
    intro sessions index session visible hlive past device h
    have hset := session.ledger_setPreviewVisible visible past device h.2
    exact Owned.replace hset.1 hlive hset.2
  release := by
    intro sessions index session hlive past device h
    exact session.ledger_release past device (h.2.of_perm (holdings_perm hlive))
  recount := by
    intro sessions index session past device refs hpositive hlive _ h
    exact h.replace hlive rfl
  window := by
    intro sessions index session session' past device step hlive hstep _ h
    obtain ⟨preview, hpreview, rfl⟩ := Option.map_eq_some_iff.mp hstep
    apply h.replace hlive
    cases step <;> simp [Session.holdings, Session.duplicationHoldings,
      Session.previewHoldings, Preview.holdings, WindowStep.apply, Preview.closedByUser,
      Preview.resizedByUser, hpreview]
  reset := by
    intro sessions past device _ h
    have hsame : holdings (sessions.map Session.reset) = holdings sessions := by
      rw [holdings, MonitorTable.values_map, List.flatMap_map]
      rfl
    rwa [Owned, hsame]

theorem Session.texture_mem_holdings {session : Session} {texture : Texture}
    (htexture : session.texture = some texture) : .texture texture.id ∈ session.holdings := by
  have hcache : Release.texture texture.id ∈ session.cache.holdings := by
    rw [FrameCache.holdings, show session.cache.texture = some texture from htexture]
    exact List.mem_cons_self
  exact List.mem_append_left _ (List.mem_append_right _ hcache)

/-- No two live sessions have the same texture. -/
theorem Owned.textures_ne {sessions : MonitorTable Session} {past : List Entry}
    {device : Device} (howned : Owned sessions past device) {index other : UInt32}
    {session session' : Session} (hother : other ≠ index)
    (hlive : sessions.get? index = some session)
    (hlive' : sessions.get? other = some session') {texture texture' : Texture}
    (htexture : session.texture = some texture)
    (htexture' : session'.texture = some texture') : texture.id ≠ texture'.id := by
  have hnumbers := (howned.balance.filterMap Release.number?).nodup_iff.mp howned.distinct
  rw [List.filterMap_append] at hnumbers
  have hsplit := ((holdings_perm hlive).filterMap Release.number?).nodup_iff.mp
    hnumbers.of_append_right
  rw [List.filterMap_append] at hsplit
  have hleft : texture.id ∈ session.holdings.filterMap Release.number? :=
    List.mem_filterMap.mpr ⟨_, Session.texture_mem_holdings htexture, rfl⟩
  have hremaining : (sessions.erase index).get? other = some session' := by
    rw [MonitorTable.get?_erase, if_neg hother, hlive']
  have hright : texture'.id ∈ (holdings (sessions.erase index)).filterMap Release.number? := by
    refine List.mem_filterMap.mpr ⟨.texture texture'.id, ?_, rfl⟩
    exact List.mem_flatMap.mpr ⟨session', MonitorTable.get?_mem_values hremaining,
      Session.texture_mem_holdings htexture'⟩
  intro hsame
  rw [← hsame] at hright
  exact List.disjoint_of_nodup_append hsplit hleft hright

/-! ## Counting what is owned -/

/-- One counted object for each listed value with some property. -/
theorem countP_flatMap_eq_countP {α : Type} {objects : α → List Release}
    {counted : Release → Bool} {has : α → Bool}
    (hone : ∀ value, (objects value).countP counted = if has value then 1 else 0)
    (values : List α) : (values.flatMap objects).countP counted = values.countP has := by
  induction values with
  | nil => rfl
  | cons value values ih =>
      rw [List.flatMap_cons, List.countP_append, hone, ih, List.countP_cons, Nat.add_comm]

namespace Session

theorem countP_textures (session : Session) :
    session.holdings.countP Release.isTexture =
      if session.texture.isSome then 1 else 0 := by
  unfold holdings duplicationHoldings previewHoldings FrameCache.holdings Preview.holdings
    texture
  cases session.duplication <;> cases session.cache.texture <;>
    cases session.preview <;> rfl

/-- Of what each preview owns one of, a session owns one if it has a preview. -/
theorem countP_previews (session : Session) {counted : Release → Bool}
    (hone : ∀ preview : Preview, preview.holdings.countP counted = 1)
    (hduplication : ∀ index, counted (.duplication index) = false)
    (htexture : ∀ id, counted (.texture id) = false) :
    session.holdings.countP counted = if session.preview.isSome then 1 else 0 := by
  have hcapture : (session.duplicationHoldings ++ session.cache.holdings).countP counted =
      0 := by
    unfold duplicationHoldings FrameCache.holdings
    cases session.duplication <;> cases session.cache.texture <;>
      simp [hduplication, htexture]
  rw [holdings, List.countP_append, hcapture, Nat.zero_add]
  unfold previewHoldings
  cases session.preview with
  | none => rfl
  | some preview => simpa using hone preview

/-- The only duplication a session can own is its own. -/
theorem duplication_of_mem_holdings {session : Session} {index : UInt32}
    (hmember : .duplication index ∈ session.holdings) :
    session.duplication = some ⟨index⟩ := by
  simp only [holdings, duplicationHoldings, previewHoldings, FrameCache.holdings,
    Preview.holdings, List.mem_append, List.mem_map, List.mem_flatMap, Option.mem_toList,
    List.mem_cons, List.not_mem_nil, Release.duplication.injEq, reduceCtorEq, or_false,
    and_false, exists_false] at hmember
  obtain ⟨duplication, hduplication, rfl⟩ := hmember
  exact hduplication

theorem count_duplications {session : Session} {index : UInt32} (hat : session.IsAt index) :
    session.holdings.count (.duplication index) =
      if session.state = .active then 1 else 0 := by
  unfold holdings duplicationHoldings previewHoldings FrameCache.holdings Preview.holdings
    state
  rcases hduplication : session.duplication with _ | duplication
  · cases session.cache.texture <;> cases session.preview <;> rfl
  · rw [hat.duplication duplication hduplication]
    cases session.cache.texture <;> cases session.preview <;> simp

end Session

/-- Of the duplications of a monitor, the live sessions own the one of an active
session of that monitor. -/
theorem count_duplications_holdings {sessions : MonitorTable Session}
    (hplaced : sessions.All Session.IsAt) (index : UInt32) :
    (holdings sessions).count (.duplication index) =
      if (sessions.get? index).any (fun session => session.state = .active) then 1
      else 0 := by
  have habsent : ∀ others : MonitorTable Session, others.All Session.IsAt →
      others.get? index = none → (holdings others).count (.duplication index) = 0 := by
    intro others hothers hnone
    apply List.count_eq_zero_of_not_mem
    intro hmember
    obtain ⟨session, hvalue, howned⟩ := List.mem_flatMap.mp hmember
    obtain ⟨other, hother⟩ := MonitorTable.mem_values hvalue
    have hduplication := Session.duplication_of_mem_holdings howned
    have hat := (hothers other session hother).duplication _ hduplication
    cases hat
    rw [hnone] at hother
    cases hother
  rcases hlive : sessions.get? index with _ | session
  · exact habsent sessions hplaced hlive
  · have hvacant : (sessions.erase index).get? index = none := by
      rw [MonitorTable.get?_erase, if_pos rfl]
    rw [(holdings_perm hlive).count_eq, List.count_append,
      habsent _ (hplaced.erase index) hvacant,
      Session.count_duplications (hplaced index session hlive)]
    simp

/-! ## The balances -/

/-- What was created, what was released and what the live sessions have balance. -/
structure Balanced (sessions : MonitorTable Session) (journal : List Entry)
    (device : Device) : Prop where
  /-- The device saw the releases of the journal. -/
  releases : device.releases = released journal
  duplications : ∀ index, (created journal).count (.duplication index) =
    device.releases.count (.duplication index) +
      if (sessions.get? index).any (fun session => session.state = .active) then 1 else 0
  texturesCreated : (created journal).countP Release.isTexture = device.texturesCreated
  textures : device.texturesCreated =
    device.releases.countP Release.isTexture + device.liveTextures
  liveTextures : device.liveTextures =
    sessions.values.countP fun session => session.texture.isSome
  windows : (created journal).countP Release.isWindow =
    device.releases.countP Release.isWindow +
      sessions.values.countP fun session => session.preview.isSome
  swapChains : (created journal).countP Release.isSwapChain =
    device.releases.countP Release.isSwapChain +
      sessions.values.countP fun session => session.preview.isSome
  /-- No number is released twice. -/
  once : (device.releases.filterMap Release.number?).Nodup

theorem Owned.balanced {sessions : MonitorTable Session} {journal : List Entry}
    {device : Device} (howned : Owned sessions journal device)
    (hplaced : sessions.All Session.IsAt) : Balanced sessions journal device := by
  have hcount : ∀ counted : Release → Bool, (created journal).countP counted =
      device.releases.countP counted + (holdings sessions).countP counted := by
    intro counted
    rw [howned.balance.countP_eq, List.countP_append, howned.releases]
  have hlive : device.liveTextures =
      sessions.values.countP fun session => session.texture.isSome := by
    rw [howned.liveTextures]
    exact countP_flatMap_eq_countP Session.countP_textures _
  constructor
  · exact howned.releases
  · intro index
    rw [← count_duplications_holdings hplaced index]
    exact hcount _
  · exact howned.texturesCreated.symm
  · rw [howned.texturesCreated, hcount, howned.liveTextures]
  · exact hlive
  · rw [hcount]
    congr 1
    refine countP_flatMap_eq_countP (fun session => ?_) _
    exact session.countP_previews (fun _ => rfl) (fun _ => rfl) fun _ => rfl
  · rw [hcount]
    congr 1
    refine countP_flatMap_eq_countP (fun session => ?_) _
    exact session.countP_previews (fun _ => rfl) (fun _ => rfl) fun _ => rfl
  · have hnodup := (howned.balance.filterMap Release.number?).nodup_iff.mp howned.distinct
    rw [List.filterMap_append] at hnodup
    rw [howned.releases]
    exact hnodup.of_append_left

/-- A dropped duplicator has no sessions. -/
theorem sessions_after_drop (outputs : List OutputConfig) (config : SessionConfig)
    (steps : List DuplicatorStep) :
    (DuplicatorState.after outputs config (steps ++ [.drop])).sessions = .empty := by
  rw [DuplicatorState.after_append]
  rcases DuplicatorState.after outputs config steps with ⟨device, _ | duplicator, handles⟩
  · rfl
  · rfl

/-- After every run the resources created and not released are those of the live
sessions, and once the duplicator is dropped there are none. -/
theorem resources_balance (outputs : List OutputConfig) (config : SessionConfig)
    (steps : List DuplicatorStep) :
    Balanced (DuplicatorState.after outputs config steps).sessions
      (DuplicatorState.history outputs config steps)
      (DuplicatorState.after outputs config steps).device ∧
    Balanced .empty (DuplicatorState.history outputs config (steps ++ [.drop]))
      (DuplicatorState.after outputs config (steps ++ [.drop])).device := by
  have hbalanced : ∀ taken : List DuplicatorStep,
      Balanced (DuplicatorState.after outputs config taken).sessions
        (DuplicatorState.history outputs config taken)
        (DuplicatorState.after outputs config taken).device := by
    intro taken
    have hplaced := placed.after_steps outputs config .empty taken
    have howned := owned.after_steps outputs config (Ledger.initial outputs) taken
    exact howned.balanced hplaced
  refine ⟨hbalanced steps, ?_⟩
  have hdropped := hbalanced (steps ++ [.drop])
  rwa [sessions_after_drop] at hdropped

end DesktopCapture
