import DesktopCapture.Proofs.BoundTarget
import DesktopCapture.Proofs.Presenting
import DesktopCapture.Proofs.Standstill
import Mathlib.Data.List.Chain

/-!
# Surfaces and windows

The surface of a preview has the size of the last resize that its swap chain went through,
or the size it was made with, and no resize changes nothing or leaves nothing to draw on.
Only an update that presents resizes, and it does so before it draws if the window's client
area is of another size.  A resize that fails is so made up for by the next present, for
the surface keeps its size until then.
-/

namespace DesktopCapture

open Capture Scenario

/-! ## Swap chains -/

/-- The size of a swap chain follows from the size it was made with and its resizes, each of
which brought another size that is not empty. -/
structure SwapChain.Follows (first : Size) (swapChain : SwapChain) : Prop where
  size : swapChain.size = swapChain.resizes.getLastD first
  changes : (first :: swapChain.resizes).IsChain (· ≠ ·)
  filled : ∀ size ∈ swapChain.resizes, size.width ≠ 0 ∧ size.height ≠ 0

/-- The swap chain resized. -/
def SwapChain.resized (swapChain : SwapChain) (size : Size) : SwapChain :=
  { swapChain with size, resizes := swapChain.resizes ++ [size] }

namespace SwapChain.Follows

theorem new {first : Size} {swapChain : SwapChain} (hsize : swapChain.size = first)
    (hresizes : swapChain.resizes = []) : swapChain.Follows first where
  size := by rw [hresizes, hsize]; rfl
  changes := by rw [hresizes]; exact List.isChain_singleton first
  filled := by rw [hresizes]; exact List.forall_mem_nil _

theorem resized {first size : Size} {swapChain : SwapChain} (hfollows : swapChain.Follows first)
    (hother : swapChain.size ≠ size) (hfilled : size.width ≠ 0 ∧ size.height ≠ 0) :
    (swapChain.resized size).Follows first where
  size := by simp [SwapChain.resized]
  changes := by
    have hlast : (first :: swapChain.resizes).getLast? = some swapChain.size := by
      rw [hfollows.size, List.getLastD_eq_getLast?, List.getLast?_cons]
    simp only [SwapChain.resized, ← List.cons_append]
    refine List.isChain_append.mpr ⟨hfollows.changes, List.isChain_singleton size, ?_⟩
    rw [hlast]
    rintro _ ⟨⟩ _ ⟨⟩
    exact hother
  filled := List.forall_mem_append.mpr ⟨hfollows.filled, List.forall_mem_singleton.mpr hfilled⟩

end SwapChain.Follows

/-! ## Entries about surfaces -/

/-- The entries of showing a texture on a surface: it may be resized, and is drawn on over the
bound target. -/
def Entry.isDrawing : Entry → Bool
  | .call (.resize ..) _ => true
  | entry => entry.isTargeted

theorem Entry.isDrawing_of_isCaching {entry : Entry} (hcaching : entry.isCaching = true) :
    entry.isDrawing = false := by
  unfold isCaching at hcaching
  split at hcaching <;> first | rfl | cases hcaching

theorem Entry.isDrawing_of_isQuestion {entry : Entry} (hquestion : entry.isQuestion = true) :
    entry.isDrawing = false := by
  unfold isQuestion at hquestion
  split at hquestion <;> first | rfl | cases hquestion

theorem Entry.not_mem_of_isDrawing {entries : List Entry}
    (hentries : ∀ entry ∈ entries, entry.isDrawing = false) {entry : Entry}
    (hdrawing : entry.isDrawing = true) : entry ∉ entries := by
  intro hmember
  rw [hentries entry hmember] at hdrawing
  cases hdrawing

/-- What comes after an entry of the second of two lists is of the second as well. -/
theorem mem_right_of_split {first second past future : List Entry} {entry later : Entry}
    (hsplit : first ++ second = past ++ entry :: future) (hentry : entry ∉ first)
    (hlater : later ∈ future) : later ∈ second := by
  rcases List.append_eq_append_iff.mp hsplit with
    ⟨between, -, hsecond⟩ | ⟨between, hfirst, hrest⟩
  · rw [hsecond]
    exact List.mem_append_right _ (List.mem_cons_of_mem _ hlater)
  · cases between with
    | nil =>
        rw [List.nil_append] at hrest
        rw [← hrest]
        exact List.mem_cons_of_mem _ hlater
    | cons other others =>
        cases hrest
        exact absurd (hfirst ▸ List.mem_append_right _ List.mem_cons_self) hentry

namespace Preview

variable {preview : Preview} {source : Texture} {device : Device}
  {done : Traced (Except PlatformError Bool × Preview)}

theorem Draws.unresized {drawn : Traced (Except PlatformError Unit)}
    (hdraws : preview.Draws source device drawn) (id : Nat) (size : Size) (answer : Answer) :
    .call (.resize id size) answer ∉ drawn.journal := by
  cases hdraws <;> simp [boundCalls]

theorem Draws.presented_id {drawn : Traced (Except PlatformError Unit)}
    (hdraws : preview.Draws source device drawn) {id : Nat} {interval : UInt32}
    {answer : Answer} (hpresent : .call (.present id interval) answer ∈ drawn.journal) :
    preview.swapChain.id = id := by
  cases hdraws with
  | unbound => simp at hpresent
  | unshown => simp_all [boundCalls]
  | shown => simp_all [boundCalls]

/-- A present resizes the surface exactly if it is not of the client area's size. -/
theorem Presents.resize_iff (hpresents : preview.Presents source device done) :
    (∃ answer, .call (.resize preview.swapChain.id preview.window.clientSize) answer ∈
      done.journal) ↔ preview.swapChain.size ≠ preview.window.clientSize := by
  cases hpresents with
  | unresized hsize => simp [hsize]
  | drawn hfits hdrawn =>
      cases hfits with
      | same hsize => simp [hsize, hdrawn.unresized]
      | resized hsize => simp [hsize]

/-- A present resizes a swap chain to the client area's size, or leaves it as it is. -/
theorem Presents.swapChain (hpresents : preview.Presents source device done) :
    (done.value.2.swapChain = preview.swapChain) ∨
      preview.swapChain.size ≠ preview.window.clientSize ∧
      .call (.resize preview.swapChain.id preview.window.clientSize) .done ∈ done.journal ∧
      done.value.2.swapChain = preview.swapChain.resized preview.window.clientSize := by
  cases hpresents with
  | unresized => exact .inl rfl
  | drawn hfits hdrawn =>
      cases hfits with
      | same => exact .inl rfl
      | resized hsize => exact .inr ⟨hsize, by simp, rfl⟩

/-- A present whose resize fails leaves the preview as it is. -/
theorem Presents.of_failed_resize (hpresents : preview.Presents source device done) {id : Nat}
    {size : Size} {error : CaptureError}
    (hfailed : .call (.resize id size) (.failed error) ∈ done.journal) :
    id = preview.swapChain.id ∧ size = preview.window.clientSize ∧
      preview.swapChain.size ≠ size ∧ done.value.2 = preview := by
  cases hpresents with
  | unresized hsize =>
      obtain ⟨⟨rfl, rfl⟩, -⟩ : (id = _ ∧ size = _) ∧ _ := by simpa using hfailed
      exact ⟨rfl, rfl, hsize, rfl⟩
  | drawn hfits hdrawn =>
      cases hfits with
      | same => simp [hdrawn.unresized] at hfailed
      | resized => simp [Draws.unresized hdrawn] at hfailed

/-- A present finds the surface with the size of the client area, and resizes it no more. -/
theorem Presents.of_present (hpresents : preview.Presents source device done)
    {prior notices past future : List Entry} {id : Nat} {interval : UInt32} {answer : Answer}
    (hprior : ∀ entry ∈ prior, entry.isDrawing = false)
    (hnotices : ∀ entry ∈ notices, entry.isDrawing = false)
    (hsplit : prior ++ (done.journal ++ notices) =
      past ++ .call (.present id interval) answer :: future) :
    preview.swapChain.id = id ∧ done.value.2.swapChain.id = id ∧
      done.value.2.window = preview.window ∧
      done.value.2.swapChain.size = preview.window.clientSize ∧
      ∀ size answer, .call (.resize id size) answer ∉ future := by
  have hunprior : .call (.present id interval) answer ∉ prior :=
    Entry.not_mem_of_isDrawing hprior rfl
  have hunnoticed : .call (.present id interval) answer ∉ notices :=
    Entry.not_mem_of_isDrawing hnotices rfl
  have hmember : .call (.present id interval) answer ∈ done.journal := by
    have hlisted : .call (.present id interval) answer ∈ prior ++ (done.journal ++ notices) :=
      hsplit ▸ List.mem_append_right _ List.mem_cons_self
    simpa [hunprior, hunnoticed] using hlisted
  cases hpresents with
  | unresized => simp at hmember
  | @drawn fit fitted drawn hfits hdrawn =>
      obtain ⟨hwindow, hsize⟩ := hfits.size
      have hsame : fitted.swapChain.id = preview.swapChain.id := by cases hfits <;> rfl
      have hunfitted : .call (.present id interval) answer ∉ fit := by cases hfits <;> simp
      have hdrawing : .call (.present id interval) answer ∈ drawn.journal := by
        simpa [hunfitted] using hmember
      have hid : fitted.swapChain.id = id := hdrawn.presented_id hdrawing
      refine ⟨hsame.symm.trans hid, hid, hwindow, hsize, ?_⟩
      intro size answer' hlater
      -- The present is of the draw, behind the resize, and neither the draw nor the notices
      -- after it resize.
      have hparts : (prior ++ fit) ++ (drawn.journal ++ notices) =
          past ++ .call (.present id interval) answer :: future := by simpa using hsplit
      rcases List.mem_append.mp (mem_right_of_split hparts
        (List.not_mem_append hunprior hunfitted) hlater) with hdraw | hnotice
      · exact hdrawn.unresized id size answer' hdraw
      · exact Entry.not_mem_of_isDrawing hnotices rfl hnotice

end Preview

namespace Session

variable {session : Session} {journal : List Entry} {done : Bool × Session}

theorem isDrawing_missNotices (error : CaptureError) :
    ∀ entry ∈ missNotices error, entry.isDrawing = false := by
  cases error with
  | timeout => exact List.forall_mem_nil _
  | _ => exact List.forall_mem_singleton.mpr rfl

theorem Returns.isDrawing {output : UInt32} {returned : List Entry}
    (hreturned : Returns output returned) : ∀ entry ∈ returned, entry.isDrawing = false := by
  cases hreturned <;> simp [Entry.isDrawing, Entry.isTargeted]

/-- An update has nothing to show, or its preview is hidden or empty, and it draws nothing;
or it presents its texture once, behind whatever else it does. -/
inductive Drives (session : Session) (journal : List Entry) (done : Bool × Session) : Prop
  | undrawn (hpreview : done.2.preview = session.preview)
      (hjournal : ∀ entry ∈ journal, entry.isDrawing = false)
      (hcause : done.1 = false ∨ (∃ error, .call .frameTexture (.failed error) ∈ journal) ∨
        ∀ preview ∈ session.preview, preview.IsIdle done.2.texture)
  | drawn {preview : Preview} {source : Texture} {device : Device} {prior : List Entry}
      {presented : Traced (Except PlatformError Bool × Preview)}
      (hpreview : session.preview = some preview) (htexture : done.2.texture = some source)
      (hbusy : ¬preview.IsIdle (some source))
      (hpresents : preview.Presents source device presented)
      (hshown : done.2.preview = some presented.value.2)
      (hprior : ∀ entry ∈ prior, entry.isDrawing = false)
      (hjournal : journal = prior ++ (presented.journal ++ presentNotices presented.value.1))

theorem Offers.drives {offering : Session} {device : Device} {shown : Traced Session}
    (hoffers : offering.Offers device shown) (hsame : offering.preview = session.preview)
    {prior : List Entry} (hprior : ∀ entry ∈ prior, entry.isDrawing = false) :
    session.Drives (prior ++ shown.journal) (true, shown.value) := by
  cases hoffers with
  | bare hpreview =>
      rw [List.append_nil]
      refine .undrawn hsame hprior (.inr (.inr ?_))
      rw [← hsame, hpreview]
      exact nofun
  | idle hpreview hidle =>
      rw [List.append_nil]
      refine .undrawn hsame hprior (.inr (.inr ?_))
      rw [← hsame, hpreview]
      rintro _ ⟨⟩
      exact hidle
  | busy hpreview htexture hbusy hpresents =>
      exact .drawn (hsame.symm.trans hpreview) htexture hbusy hpresents rfl hprior rfl

theorem Updates.drives (hupdates : session.Updates journal done) :
    session.Drives journal done := by
  cases hupdates with
  | rested => exact .undrawn rfl (List.forall_mem_nil _) (.inl rfl)
  | lost => exact .undrawn rfl (by simp [Entry.isDrawing, Entry.isTargeted]) (.inl rfl)
  | @missed duplication error acquired shown _ _ hshown =>
      have hprior : ∀ entry ∈ .call (.acquire duplication.output 0) (.failed error) ::
          missNotices error, entry.isDrawing = false :=
        List.forall_mem_cons.mpr ⟨rfl, isDrawing_missNotices error⟩
      subst hshown
      exact (session.present_offers acquired).drives rfl hprior
  | @unreadable _ error returned _ hreturned =>
      refine .undrawn rfl ?_ (.inr (.inl ⟨.platform error, by simp⟩))
      simpa [Entry.isDrawing, Entry.isTargeted] using hreturned.isDrawing
  | @took duplication source queried handed ingested returned shown _ hingested hreturned hshown =>
      -- What is offered is the session with the new frame; its preview is still the old one.
      let marked := { session with cache := ingested.value, frameAvailable := true }
      have hcached : ∀ entry ∈ ingested.journal, entry.isDrawing = false := by
        intro entry hentry
        rw [← hingested] at hentry
        have hcaching := (session.cache.does_ingest source session.color.hdr).writes queried
        exact Entry.isDrawing_of_isCaching (hcaching entry hentry)
      have hprior : ∀ entry ∈ .call (.acquire duplication.output 0) .done ::
          .call .frameTexture (.texture source) :: (ingested.journal ++ returned),
            entry.isDrawing = false :=
        List.forall_mem_cons.mpr ⟨rfl, List.forall_mem_cons.mpr
          ⟨rfl, List.forall_mem_append.mpr ⟨hcached, hreturned.isDrawing⟩⟩⟩
      have hoffers := marked.present_offers handed
      have hsame : marked.preview = session.preview := rfl
      subst hshown
      simpa [marked] using hoffers.drives hsame hprior

theorem isDrawing_presentNotices (shown : Except PlatformError Bool) :
    ∀ entry ∈ presentNotices shown, entry.isDrawing = false := by
  cases shown with
  | ok => exact List.forall_mem_nil _
  | error error => exact List.forall_mem_singleton.mpr rfl

/-- The swap chain that a session presents before these entries has the size of the client
area: it is left with this size, the window is as it was, and no resize is to come. -/
def FitsAtPresent (session : Session) (id : Nat) (future : List Entry) (session' : Session) :
    Prop :=
  ∃ preview preview', session.preview = some preview ∧ session'.preview = some preview' ∧
    preview.swapChain.id = id ∧ preview'.swapChain.id = id ∧
    preview'.window = preview.window ∧ preview'.swapChain.size = preview.window.clientSize ∧
    ∀ size answer, .call (.resize id size) answer ∉ future

/-- An update that presents finds the surface with the size of the client area. -/
theorem Drives.of_present (hdrives : session.Drives journal done) {past future : List Entry}
    {id : Nat} {interval : UInt32} {answer : Answer}
    (hsplit : journal = past ++ .call (.present id interval) answer :: future) :
    session.FitsAtPresent id future done.2 := by
  cases hdrives with
  | undrawn _ hjournal =>
      have hmember : .call (.present id interval) answer ∈ journal := by simp [hsplit]
      exact absurd hmember (Entry.not_mem_of_isDrawing hjournal rfl)
  | drawn hpreview _ _ hpresents hshown hprior hjournal =>
      exact ⟨_, _, hpreview, hshown, hpresents.of_present hprior (isDrawing_presentNotices _)
        (hjournal.symm.trans hsplit)⟩

/-- An update whose resize fails leaves the preview as it is. -/
theorem Drives.of_failed_resize (hdrives : session.Drives journal done) {id : Nat} {size : Size}
    {error : CaptureError} (hfailed : .call (.resize id size) (.failed error) ∈ journal) :
    ∃ preview, session.preview = some preview ∧ done.2.preview = some preview ∧
      id = preview.swapChain.id ∧ size = preview.window.clientSize ∧
      preview.swapChain.size ≠ size := by
  cases hdrives with
  | undrawn _ hjournal => exact absurd hfailed (Entry.not_mem_of_isDrawing hjournal rfl)
  | @drawn preview _ _ prior presented hpreview _ _ hpresents hshown hprior hjournal =>
      have hpresented : .call (.resize id size) (.failed error) ∈ presented.journal := by
        have hunprior : .call (.resize id size) (.failed error) ∉ prior :=
          Entry.not_mem_of_isDrawing hprior rfl
        have hunnoticed :
            .call (.resize id size) (.failed error) ∉ presentNotices presented.value.1 :=
          Entry.not_mem_of_isDrawing (isDrawing_presentNotices presented.value.1) rfl
        simpa [hjournal, hunprior, hunnoticed] using hfailed
      obtain ⟨hid, hsize, hother, hsame⟩ := hpresents.of_failed_resize hpresented
      exact ⟨preview, hpreview, hsame ▸ hshown, hid, hsize, hother⟩

/-- An update that has something to present resizes the surface exactly if it is not of the
client area's size. -/
theorem Drives.resize_iff (hdrives : session.Drives journal done) {preview : Preview}
    (hpreview : session.preview = some preview) (halive : done.1 = true)
    (hreadable : ∀ error, .call .frameTexture (.failed error) ∉ journal)
    (hbusy : ¬preview.IsIdle done.2.texture) :
    (∃ answer, .call (.resize preview.swapChain.id preview.window.clientSize) answer ∈
      journal) ↔ preview.swapChain.size ≠ preview.window.clientSize := by
  cases hdrives with
  | undrawn _ _ hcause =>
      rcases hcause with hlost | ⟨error, hfailed⟩ | hidle
      · rw [halive] at hlost
        cases hlost
      · exact absurd hfailed (hreadable error)
      · exact absurd (hidle preview hpreview) hbusy
  | @drawn _ _ _ prior presented hpreview' _ _ hpresents _ hprior hjournal =>
      cases hpreview.symm.trans hpreview'
      have hunprior : ∀ answer,
          .call (.resize preview.swapChain.id preview.window.clientSize) answer ∉ prior :=
        fun _ => Entry.not_mem_of_isDrawing hprior rfl
      have hunnoticed : ∀ answer,
          .call (.resize preview.swapChain.id preview.window.clientSize) answer ∉
            presentNotices presented.value.1 :=
        fun _ => Entry.not_mem_of_isDrawing (isDrawing_presentNotices _) rfl
      rw [← hpresents.resize_iff]
      simp [hjournal, hunprior, hunnoticed]

end Session

/-! ## What becomes of a surface -/

/-- The surface of a preview is as it was, or it was given the size of the client area, which
is another one and is not empty. -/
def Preview.Resurfaced (preview : Preview) (journal : List Entry) (preview' : Preview) : Prop :=
  preview'.swapChain = preview.swapChain ∨
    (preview.swapChain.size ≠ preview.window.clientSize ∧
      preview.window.clientSize.width ≠ 0 ∧ preview.window.clientSize.height ≠ 0 ∧
      .call (.resize preview.swapChain.id preview.window.clientSize) .done ∈ journal ∧
      preview'.swapChain = preview.swapChain.resized preview.window.clientSize)

theorem SwapChain.Follows.resurfaced {first : Size} {preview preview' : Preview}
    {journal : List Entry} (hfollows : preview.swapChain.Follows first)
    (hresurfaced : preview.Resurfaced journal preview') : preview'.swapChain.Follows first := by
  rcases hresurfaced with hsame | ⟨hother, hwidth, hheight, -, hresized⟩
  · rwa [hsame]
  · rw [hresized]
    exact hfollows.resized hother ⟨hwidth, hheight⟩

/-- A session has no preview before and after some entries, or it has one of which the
surface is as it was or was resized. -/
def Session.Resurfaced (session : Session) (journal : List Entry) (session' : Session) : Prop :=
  (session.preview = none ∧ session'.preview = none) ∨
    ∃ preview preview', session.preview = some preview ∧ session'.preview = some preview' ∧
      preview.Resurfaced journal preview'

namespace Session

variable {session session' : Session} {journal : List Entry} {done : Bool × Session}

/-- Only its swap chain matters of a preview. -/
theorem Resurfaced.of_map
    (hsurface : session'.preview.map Preview.swapChain = session.preview.map Preview.swapChain) :
    session.Resurfaced journal session' := by
  cases hpreview : session.preview with
  | none =>
      rw [hpreview] at hsurface
      exact .inl ⟨hpreview, Option.map_eq_none_iff.mp hsurface⟩
  | some preview =>
      rw [hpreview, Option.map_some] at hsurface
      obtain ⟨preview', hpreview', hsame⟩ := Option.map_eq_some_iff.mp hsurface
      exact .inr ⟨preview, preview', hpreview, hpreview', .inl hsame⟩

theorem Drives.resurfaced (hdrives : session.Drives journal done) :
    session.Resurfaced journal done.2 := by
  cases hdrives with
  | undrawn hpreview => exact .of_map (by rw [hpreview])
  | @drawn preview source _ _ presented hpreview _ hbusy hpresents hshown hprior hjournal =>
      refine .inr ⟨preview, presented.value.2, hpreview, hshown, ?_⟩
      rcases hpresents.swapChain with hsame | ⟨hother, hresize, hresized⟩
      · exact .inl hsame
      · simp only [Preview.IsIdle, not_or] at hbusy
        refine .inr ⟨hother, hbusy.2.2.1, hbusy.2.2.2, ?_, hresized⟩
        rw [hjournal]
        exact List.mem_append_right _ (List.mem_append_left _ hresize)

end Session

/-- Using the handle of a session other than to update it leaves the swap chain. -/
theorem Seat.use_surface {index : UInt32} {session session' : Session} {usage : HandleUse}
    {device : Device} (hother : usage ≠ .update)
    (hused : (Seat.use index (some session) usage device).value.2 = some session') :
    session'.preview.map Preview.swapChain = session.preview.map Preview.swapChain := by
  cases usage with
  | destroy =>
      by_cases hlast : session.refs - 1 = 0
      · simp [Seat.use, Seat.destroy, hlast] at hused
      · simp only [Seat.use, Seat.destroy, hlast, if_false, bind_apply, pure_apply] at hused
        cases hused
        rfl
  | update => exact absurd rfl hother
  | setVisible visible =>
      cases hused
      simp only [Session.setPreviewVisible]
      cases hpreview : session.preview with
      | none => simp [hpreview]
      | some preview => rfl
  | window step =>
      simp only [Seat.use, Option.bind_some, WindowStep.onSession?] at hused
      cases hpreview : session.preview with
      | none =>
          rw [hpreview] at hused
          cases hused
          simp [hpreview]
      | some preview =>
          rw [hpreview] at hused
          cases hused
          cases step <;> rfl
  | _ =>
      cases hused
      rfl

end DesktopCapture
