import DesktopCapture.Toml.Document
import Mathlib.Data.List.Basic

/-!
# Assignments to keys of a table

Where no key leads through another, assignments can be made in any order: each finds the
way to its name free, or through tables that other dotted keys brought along, and takes
nothing away that another one has put there.  `Entries.assignAll_of_apart` says what the
outermost table shows in the end.
-/

namespace DesktopCapture
namespace Toml

namespace Key

/-- All parts of a key. -/
def parts (key : Key) : List String := key.path ++ [key.name]

/-- The first part, by which the outermost table knows the key. -/
def head (key : Key) : String := key.path.headD key.name

/-- Neither key is the other nor leads through it. -/
def Apart (key other : Key) : Prop := ¬key.parts <+: other.parts ∧ ¬other.parts <+: key.parts

instance (key other : Key) : Decidable (key.Apart other) := by
  unfold Apart
  infer_instance

theorem Apart.symm {key other : Key} (hapart : key.Apart other) : other.Apart key :=
  And.symm hapart

/-- No key that is apart from one of a single part begins with that part. -/
theorem Apart.head_ne {key other : Key} (hapart : key.Apart other) (hsingle : key.path = []) :
    other.head ≠ key.head := by
  obtain ⟨path, name⟩ := key
  obtain ⟨path', name'⟩ := other
  obtain rfl : path = [] := hsingle
  intro hsame
  apply hapart.1
  cases path' <;> simp_all [parts, head]

end Key

namespace Entries

/-- The table that dotted keys brought along under a key, which is empty if there is
none. -/
def within (key : String) (entries : Entries) : Entries :=
  match entries.lookup key with
  | some (.table .dottedKey inner) => inner
  | _ => []

/-- Nothing stands in the way of a name at the end of a path. -/
def IsOpen (name : String) : List String → Entries → Prop
  | [], entries => entries.lookup name = none
  | key :: path, entries =>
    (entries.lookup key = none ∨
      entries.lookup key = some (.table .dottedKey (entries.within key))) ∧
      IsOpen name path (entries.within key)

theorem isOpen_nil (name : String) (path : List String) : IsOpen name path [] := by
  induction path with
  | nil => rfl
  | cons key path ih => exact ⟨.inl rfl, ih⟩

/-- What an assignment to a name at the end of a path makes of a table. -/
def Assigned (name : String) (value : Value) : List String → Entries → Entries → Prop
  | [], entries, added =>
    ∀ other, added.lookup other = if other = name then some value else entries.lookup other
  | key :: path, entries, added =>
    ∃ inner, Assigned name value path (entries.within key) inner ∧
      ∀ other, added.lookup other =
        if other = key then some (.table .dottedKey inner) else entries.lookup other

section Assignment

variable {origin : Origin} {entries added : Entries} {key : Key} {value : Value}

/-- The table an assignment brings about, wherever on the path it has got to. -/
theorem change_of_isOpen (key : Key) (value : Value) {path : List String}
    (hopens : IsOpen key.name path entries)
    (hmay : path = [] → key.path.isEmpty ∨ origin = .dottedKey) :
    ∃ added, entries.change? .dots (fun origin inner =>
        if key.path.isEmpty ∨ origin = .dottedKey then inner.add? key.name value else none)
        path origin = some added ∧ Assigned key.name value path entries added := by
  induction path generalizing origin entries with
  | nil =>
    have hfree : (entries.lookup key.name).isNone := Option.isNone_iff_eq_none.mpr hopens
    have hadds : entries.add? key.name value = some (entries ++ [(key.name, value)]) :=
      if_pos hfree
    refine ⟨_, ?_, fun other => lookup_add hadds⟩
    simp only [change?, if_pos (hmay rfl), hadds]
  | cons head path ih =>
    obtain ⟨inner, hchanged, hassigned⟩ := @ih .dottedKey _ hopens.2 fun _ => .inr rfl
    refine ⟨entries.set head (.table .dottedKey inner), ?_, inner, hassigned,
      fun other => lookup_set head other _ entries⟩
    obtain habsent | hpresent := hopens.1
    · have hempty : entries.within head = [] := by simp [within, habsent]
      rw [hempty] at hchanged
      simp only [change?, habsent, Way.brings, hchanged, Option.map_some]
    · simp [-List.isEmpty_iff, change?, hpresent, Way.enters, hchanged]

theorem assign_of_isOpen (origin : Origin) (value : Value)
    (hopens : IsOpen key.name key.path entries) :
    ∃ added, entries.assign? origin key value = some added ∧
      Assigned key.name value key.path entries added :=
  change_of_isOpen key value hopens fun hempty => .inl (by simp [hempty])

/-- An assignment leaves all keys open that are apart from its own. -/
theorem Assigned.isOpen {name name' : String} {path path' : List String}
    (hassigned : Assigned name value path entries added) (hopens : IsOpen name' path' entries)
    (hapart : ¬path ++ [name] <+: path' ++ [name'] ∧ ¬path' ++ [name'] <+: path ++ [name]) :
    IsOpen name' path' added := by
  -- Along the path of the assignment: the other key ends here, turns off here, or goes on
  -- through the same table, and only then does the rest of either path matter.
  induction path generalizing path' entries added with
  | nil =>
    cases path' with
    | nil =>
      have hdifferent : name' ≠ name := by
        rintro rfl
        exact hapart.1 (List.prefix_refl _)
      exact (hassigned name').trans ((if_neg hdifferent).trans hopens)
    | cons head path' =>
      have hdifferent : head ≠ name := by
        rintro rfl
        exact hapart.1 (by simp)
      have hkept : added.lookup head = entries.lookup head := by simp [hassigned head, hdifferent]
      simpa [IsOpen, within, hkept] using hopens
  | cons head path ih =>
    obtain ⟨inner, hdeeper, hlooks⟩ := hassigned
    cases path' with
    | nil =>
      have hdifferent : name' ≠ head := by
        rintro rfl
        exact hapart.2 (by simp)
      exact (hlooks name').trans ((if_neg hdifferent).trans hopens)
    | cons head' path' =>
      by_cases hsame : head' = head
      · subst hsame
        have hfound : added.lookup head' = some (.table .dottedKey inner) := by simp [hlooks]
        have hreached : added.within head' = inner := by simp [within, hfound]
        have hopened := ih hdeeper hopens.2 (by simpa using hapart)
        exact ⟨.inr (hreached ▸ hfound), hreached ▸ hopened⟩
      · have hkept : added.lookup head' = entries.lookup head' := by simp [hlooks head', hsame]
        simpa [IsOpen, within, hkept] using hopens

/-- What the outermost table shows of an assignment. -/
def Shows (entries : Entries) (assignment : Key × Value) : Prop :=
  if assignment.1.path = [] then entries.lookup assignment.1.name = some assignment.2
  else ∃ inner, entries.lookup assignment.1.head = some (.table .dottedKey inner)

theorem Assigned.shows (hassigned : Assigned key.name value key.path entries added) :
    added.Shows (key, value) := by
  obtain ⟨path, name⟩ := key
  cases path with
  | nil => simpa [Shows] using hassigned name
  | cons head path =>
    obtain ⟨inner, -, hlooks⟩ := hassigned
    exact ⟨inner, by simp [hlooks, Key.head]⟩

theorem Assigned.lookup_of_ne {other : String}
    (hassigned : Assigned key.name value key.path entries added) (hdifferent : other ≠ key.head) :
    added.lookup other = entries.lookup other := by
  obtain ⟨path, name⟩ := key
  cases path with
  | nil => exact (hassigned other).trans (if_neg hdifferent)
  | cons head path =>
    obtain ⟨inner, -, hlooks⟩ := hassigned
    exact (hlooks other).trans (if_neg hdifferent)

/-- An assignment still shows after others that are apart from it. -/
theorem Shows.remains {assignment : Key × Value} {others : List (Key × Value)}
    (hshows : entries.Shows assignment) (hapart : ∀ b ∈ others, assignment.1.Apart b.1)
    (hshown : ∀ b ∈ others, added.Shows b)
    (hkeeps : (∀ b ∈ others, b.1.head ≠ assignment.1.head) →
      added.lookup assignment.1.head = entries.lookup assignment.1.head) :
    added.Shows assignment := by
  obtain ⟨⟨path, name⟩, value⟩ := assignment
  by_cases hsingle : path = []
  · subst hsingle
    have hkept := hkeeps fun b hinside => (hapart b hinside).head_ne rfl
    exact hkept.trans hshows
  · -- A later key with the same head is dotted too and leaves a table there.
    by_cases hshared : ∃ b ∈ others, b.1.head = (Key.mk path name).head
    · obtain ⟨b, hinside, hsame⟩ := hshared
      have hdotted : b.1.path ≠ [] := fun halone =>
        (hapart b hinside).symm.head_ne halone hsame.symm
      have hseen := hshown b hinside
      rw [Shows, if_neg hdotted, hsame] at hseen
      simpa [Shows, hsingle] using hseen
    · have hkept := hkeeps (by simpa using hshared)
      simpa [Shows, hsingle, hkept] using hshows

end Assignment

/-- Assignments to keys that are open and apart are all made.  The table then shows each
of them and is otherwise as it was. -/
theorem assignAll_of_apart (origin : Origin) {entries : Entries}
    {assignments : List (Key × Value)}
    (hopens : ∀ a ∈ assignments, IsOpen a.1.name a.1.path entries)
    (hapart : assignments.Pairwise fun a b => a.1.Apart b.1) :
    ∃ added, entries.assignAll? origin assignments = some added ∧
      (∀ a ∈ assignments, added.Shows a) ∧
      ∀ other, (∀ a ∈ assignments, a.1.head ≠ other) →
        added.lookup other = entries.lookup other := by
  induction assignments generalizing entries with
  | nil => exact ⟨entries, rfl, by simp, fun _ _ => rfl⟩
  | cons a rest ih =>
    obtain ⟨hapart, hapart'⟩ := List.pairwise_cons.mp hapart
    obtain ⟨first, hassigned, heffect⟩ :=
      assign_of_isOpen origin a.2 (hopens a List.mem_cons_self)
    have hopens' : ∀ b ∈ rest, IsOpen b.1.name b.1.path first := fun b hinside =>
      heffect.isOpen (hopens b (List.mem_cons_of_mem a hinside)) (hapart b hinside)
    obtain ⟨added, hall, hshows', hkeeps⟩ := ih hopens' hapart'
    refine ⟨added, ?_, ?_, ?_⟩
    · rw [assignAll?, List.foldlM_cons, hassigned]
      exact hall
    · intro b hinside
      obtain rfl | hinside := List.mem_cons.mp hinside
      · exact heffect.shows.remains hapart hshows' (hkeeps b.1.head)
      · exact hshows' b hinside
    · intro other hdifferent
      rw [hkeeps other fun b hinside => hdifferent b (List.mem_cons_of_mem a hinside)]
      exact heffect.lookup_of_ne (hdifferent a List.mem_cons_self).symm

end Entries
end Toml
end DesktopCapture
