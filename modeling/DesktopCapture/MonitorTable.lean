/-!
# Tables keyed by monitor index

Sessions and remembered handles are kept per monitor.  A table lists its entries
in strictly increasing order of the index, so it holds at most one entry per
monitor and two tables with the same look-ups are equal.  Everything that walks a
table, such as destroying all sessions, goes by increasing index.

The look-up of each operation is given by `get?_empty`, `get?_insert`,
`get?_erase` and `get?_map`; `ext_get?` is extensionality.
-/

namespace DesktopCapture

/-- A table with at most one value per monitor index, in order of the index. -/
structure MonitorTable (α : Type) where
  entries : List (UInt32 × α)
  ordered : entries.Pairwise (fun left right => left.1 < right.1)

namespace MonitorTable

/-- The value beside the first occurrence of an index. -/
def lookup (index : UInt32) : List (UInt32 × α) → Option α
  | [] => none
  | (other, value) :: rest => if index = other then some value else lookup index rest

/-- Place a value in front of the first larger index, or in place of the value
the index had. -/
def place (index : UInt32) (value : α) : List (UInt32 × α) → List (UInt32 × α)
  | [] => [(index, value)]
  | (other, old) :: rest =>
    if index = other then (index, value) :: rest
    else if index < other then (index, value) :: (other, old) :: rest
    else (other, old) :: place index value rest

theorem mem_place {index : UInt32} {value : α} {entries : List (UInt32 × α)}
    {entry : UInt32 × α} (hmember : entry ∈ place index value entries) :
    entry = (index, value) ∨ entry ∈ entries := by
  induction entries with
  | nil => simpa [place] using hmember
  | cons head rest ih =>
    unfold place at hmember
    grind

theorem ordered_place (index : UInt32) (value : α) {entries : List (UInt32 × α)}
    (hordered : entries.Pairwise (fun left right => left.1 < right.1)) :
    (place index value entries).Pairwise (fun left right => left.1 < right.1) := by
  induction entries with
  | nil => simp [place]
  | cons head rest ih =>
    obtain ⟨other, old⟩ := head
    obtain ⟨habove, htail⟩ := List.pairwise_cons.mp hordered
    rw [place]
    split
    · next hsame =>
      subst hsame
      exact List.pairwise_cons.mpr ⟨habove, htail⟩
    · next hdifferent =>
      split
      · next hless =>
        refine List.pairwise_cons.mpr ⟨fun entry hmember => ?_, hordered⟩
        rcases List.mem_cons.mp hmember with rfl | hmember
        · exact hless
        · exact UInt32.lt_trans hless (habove entry hmember)
      · next hnotLess =>
        have hgreater : other < index :=
          UInt32.lt_of_le_of_ne (UInt32.not_lt.mp hnotLess) (Ne.symm hdifferent)
        refine List.pairwise_cons.mpr ⟨fun entry hmember => ?_, ih htail⟩
        rcases mem_place hmember with rfl | hmember
        · exact hgreater
        · exact habove entry hmember

theorem lookup_place (index other : UInt32) (value : α) (entries : List (UInt32 × α)) :
    lookup other (place index value entries) =
      if other = index then some value else lookup other entries := by
  induction entries with
  | nil => simp [place, lookup]
  | cons head rest ih =>
    unfold place
    grind [lookup]

theorem lookup_filter_ne (index other : UInt32) (entries : List (UInt32 × α)) :
    lookup other (entries.filter (fun entry => entry.1 ≠ index)) =
      if other = index then none else lookup other entries := by
  induction entries with
  | nil => simp [lookup]
  | cons head rest ih =>
    grind [lookup]

theorem lookup_eq_none {index : UInt32} {entries : List (UInt32 × α)}
    (habsent : ∀ entry ∈ entries, index ≠ entry.1) : lookup index entries = none := by
  induction entries with
  | nil => rfl
  | cons head rest ih =>
    grind [lookup]

/-- The table without entries. -/
def empty : MonitorTable α := ⟨[], List.Pairwise.nil⟩

/-- The value of a monitor. -/
def get? (table : MonitorTable α) (index : UInt32) : Option α :=
  lookup index table.entries

/-- Give a monitor a value, in place of the one it had. -/
def insert (table : MonitorTable α) (index : UInt32) (value : α) : MonitorTable α :=
  ⟨place index value table.entries, ordered_place index value table.ordered⟩

/-- Remove the entry of a monitor. -/
def erase (table : MonitorTable α) (index : UInt32) : MonitorTable α :=
  ⟨table.entries.filter (fun entry => entry.1 ≠ index), table.ordered.filter _⟩

/-- Change every value. -/
def map (f : α → β) (table : MonitorTable α) : MonitorTable β :=
  ⟨table.entries.map (fun entry => (entry.1, f entry.2)), by
    simpa [List.pairwise_map] using table.ordered⟩

/-- The number of monitors with a value. -/
def size (table : MonitorTable α) : Nat := table.entries.length

/-- The values in order of the monitor index. -/
def values (table : MonitorTable α) : List α := table.entries.map (·.2)

@[simp] theorem get?_empty (index : UInt32) :
    (empty : MonitorTable α).get? index = none := rfl

theorem get?_insert (table : MonitorTable α) (index other : UInt32) (value : α) :
    (table.insert index value).get? other =
      if other = index then some value else table.get? other :=
  lookup_place index other value table.entries

theorem get?_erase (table : MonitorTable α) (index other : UInt32) :
    (table.erase index).get? other =
      if other = index then none else table.get? other :=
  lookup_filter_ne index other table.entries

theorem get?_map (f : α → β) (table : MonitorTable α) (index : UInt32) :
    (table.map f).get? index = (table.get? index).map f := by
  obtain ⟨entries, hordered⟩ := table
  simp only [get?, map]
  clear hordered
  induction entries with
  | nil => rfl
  | cons head rest ih =>
    grind [lookup]

theorem mem_entries_iff {table : MonitorTable α} {index : UInt32} {value : α} :
    (index, value) ∈ table.entries ↔ table.get? index = some value := by
  obtain ⟨entries, hordered⟩ := table
  simp only [get?]
  induction entries with
  | nil => simp [lookup]
  | cons head rest ih =>
    obtain ⟨other, old⟩ := head
    obtain ⟨habove, htail⟩ := List.pairwise_cons.mp hordered
    rw [List.mem_cons, lookup, ih htail]
    by_cases hsame : index = other
    · subst hsame
      have habsent : lookup index rest = none :=
        lookup_eq_none fun entry hmember => UInt32.ne_of_lt (habove entry hmember)
      simp [habsent, eq_comm]
    · simp [hsame]

/-- Tables with the same look-ups are equal. -/
theorem ext_get? {left right : MonitorTable α}
    (hsame : ∀ index, left.get? index = right.get? index) : left = right := by
  obtain ⟨left, hleft⟩ := left
  obtain ⟨right, hright⟩ := right
  congr 1
  simp only [get?] at hsame
  induction left generalizing right with
  | nil =>
    cases right with
    | nil => rfl
    | cons head rest =>
      have hfound := hsame head.1
      simp [lookup] at hfound
  | cons head rest ih =>
    obtain ⟨index, value⟩ := head
    obtain ⟨habove, htail⟩ := List.pairwise_cons.mp hleft
    cases right with
    | nil =>
      have hfound := hsame index
      simp [lookup] at hfound
    | cons other others =>
      obtain ⟨otherIndex, otherValue⟩ := other
      obtain ⟨habove', htail'⟩ := List.pairwise_cons.mp hright
      have hnotBefore : ¬ index < otherIndex := by
        intro hless
        have hfound := hsame index
        have habsent : lookup index ((otherIndex, otherValue) :: others) = none :=
          lookup_eq_none fun entry hmember => by
            rcases List.mem_cons.mp hmember with rfl | hmember
            · exact UInt32.ne_of_lt hless
            · exact UInt32.ne_of_lt (UInt32.lt_trans hless (habove' entry hmember))
        rw [habsent] at hfound
        simp [lookup] at hfound
      have hnotAfter : ¬ otherIndex < index := by
        intro hless
        have hfound := hsame otherIndex
        have habsent : lookup otherIndex ((index, value) :: rest) = none :=
          lookup_eq_none fun entry hmember => by
            rcases List.mem_cons.mp hmember with rfl | hmember
            · exact UInt32.ne_of_lt hless
            · exact UInt32.ne_of_lt (UInt32.lt_trans hless (habove entry hmember))
        rw [habsent] at hfound
        simp [lookup] at hfound
      have hindex : index = otherIndex :=
        UInt32.le_antisymm (UInt32.not_lt.mp hnotAfter) (UInt32.not_lt.mp hnotBefore)
      subst hindex
      have hvalue : value = otherValue := by simpa [lookup] using hsame index
      subst hvalue
      congr 1
      refine ih htail others htail' fun query => ?_
      by_cases hhead : query = index
      · subst hhead
        rw [lookup_eq_none fun entry hmember => UInt32.ne_of_lt (habove entry hmember),
          lookup_eq_none fun entry hmember => UInt32.ne_of_lt (habove' entry hmember)]
      · simpa [lookup, hhead] using hsame query

/-- The entries after a placement: the placed one and those of other indices. -/
theorem place_perm (index : UInt32) (value : α) {entries : List (UInt32 × α)}
    (hordered : entries.Pairwise (fun left right => left.1 < right.1)) :
    (place index value entries).Perm
      ((index, value) :: entries.filter (fun entry => entry.1 ≠ index)) := by
  induction entries with
  | nil => exact List.Perm.refl _
  | cons head rest ih =>
    obtain ⟨other, old⟩ := head
    obtain ⟨habove, htail⟩ := List.pairwise_cons.mp hordered
    have hkeeps (hless : ∀ entry ∈ rest, index < entry.1) :
        rest.filter (fun entry => entry.1 ≠ index) = rest :=
      List.filter_eq_self.mpr fun entry hmember => by
        simpa using (UInt32.ne_of_lt (hless entry hmember)).symm
    rw [place]
    split
    · next hsame =>
      subst hsame
      rw [List.filter_cons_of_neg (by simp), hkeeps habove]
    · next hdifferent =>
      rw [List.filter_cons_of_pos (by simpa using Ne.symm hdifferent)]
      split
      · next hless =>
        rw [hkeeps fun entry hmember => UInt32.lt_trans hless (habove entry hmember)]
      · exact ((ih htail).cons _).trans (List.Perm.swap _ _ _)

/-- The values after an insertion: the inserted one and those of other monitors. -/
theorem values_insert_perm (table : MonitorTable α) (index : UInt32) (value : α) :
    (table.insert index value).values.Perm (value :: (table.erase index).values) :=
  (place_perm index value table.ordered).map Prod.snd

/-- Inserting the value that is there changes nothing. -/
theorem insert_eq_self {table : MonitorTable α} {index : UInt32} {value : α}
    (hfound : table.get? index = some value) : table.insert index value = table := by
  apply ext_get?
  intro other
  rw [get?_insert]
  split
  · next hsame => rw [hsame, hfound]
  · rfl

/-- The values of a table: that of a monitor and those of the others. -/
theorem values_perm {table : MonitorTable α} {index : UInt32} {value : α}
    (hfound : table.get? index = some value) :
    table.values.Perm (value :: (table.erase index).values) := by
  have hinserted := table.values_insert_perm index value
  rwa [insert_eq_self hfound] at hinserted

theorem erase_eq_self {table : MonitorTable α} {index : UInt32}
    (habsent : table.get? index = none) : table.erase index = table := by
  apply ext_get?
  intro other
  rw [get?_erase]
  split
  · next hsame => rw [hsame, habsent]
  · rfl

theorem values_map (f : α → β) (table : MonitorTable α) :
    (table.map f).values = table.values.map f := by
  simp [values, map]

theorem mem_values {table : MonitorTable α} {value : α} (hmember : value ∈ table.values) :
    ∃ index, table.get? index = some value := by
  obtain ⟨⟨index, value⟩, hentry, rfl⟩ := List.mem_map.mp hmember
  exact ⟨index, mem_entries_iff.mp hentry⟩

theorem get?_mem_values {table : MonitorTable α} {index : UInt32} {value : α}
    (hfound : table.get? index = some value) : value ∈ table.values :=
  List.mem_map.mpr ⟨(index, value), mem_entries_iff.mpr hfound, rfl⟩

/-- The first entry is the first to be removed. -/
theorem entries_erase_head {table : MonitorTable α} {index : UInt32} {value : α}
    {rest : List (UInt32 × α)} (hfound : table.entries = (index, value) :: rest) :
    (table.erase index).entries = rest := by
  have hordered := table.ordered
  rw [hfound] at hordered
  obtain ⟨habove, -⟩ := List.pairwise_cons.mp hordered
  change table.entries.filter (fun entry => entry.1 ≠ index) = rest
  rw [hfound, List.filter_cons_of_neg (by simp)]
  exact List.filter_eq_self.mpr fun entry hmember => by
    simpa using (UInt32.ne_of_lt (habove entry hmember)).symm

/-- Give a monitor a value, or none. -/
def set (table : MonitorTable α) (index : UInt32) : Option α → MonitorTable α
  | some value => table.insert index value
  | none => table.erase index

theorem get?_set (table : MonitorTable α) (index other : UInt32) (value : Option α) :
    (table.set index value).get? other =
      if other = index then value else table.get? other := by
  cases value with
  | none => exact table.get?_erase index other
  | some value => exact table.get?_insert index other value

/-- Setting what is there changes nothing. -/
theorem set_get? (table : MonitorTable α) (index : UInt32) :
    table.set index (table.get? index) = table := by
  cases hfound : table.get? index with
  | none => exact erase_eq_self hfound
  | some value => exact insert_eq_self hfound

theorem map_set (f : α → β) (table : MonitorTable α) (index : UInt32) (value : Option α) :
    (table.set index value).map f = (table.map f).set index (value.map f) := by
  apply ext_get?
  intro other
  rw [get?_map, get?_set, get?_set, get?_map]
  split
  · rfl
  · rfl

/-- Another value in the place of one leaves as many values. -/
theorem size_insert {table : MonitorTable α} {index : UInt32} {old : α} (value : α)
    (hfound : table.get? index = some old) : (table.insert index value).size = table.size := by
  have hafter := (table.values_insert_perm index value).length_eq
  have hbefore := (values_perm hfound).length_eq
  simp only [values, List.length_cons, List.length_map] at hbefore hafter
  rw [size, size, hafter, hbefore]

/-- Whether something holds of every monitor with its value. -/
def All (holds : UInt32 → α → Prop) (table : MonitorTable α) : Prop :=
  ∀ index value, table.get? index = some value → holds index value

namespace All

variable {holds : UInt32 → α → Prop} {table : MonitorTable α}

theorem empty : All holds MonitorTable.empty := nofun

theorem insert (hall : All holds table) {index : UInt32} {value : α}
    (hnew : holds index value) : All holds (table.insert index value) := by
  intro other held hmember
  rw [get?_insert] at hmember
  split at hmember
  · next hsame =>
    cases hmember
    rwa [hsame]
  · exact hall other held hmember

theorem erase (hall : All holds table) (index : UInt32) : All holds (table.erase index) := by
  intro other held hmember
  rw [get?_erase] at hmember
  split at hmember
  · cases hmember
  · exact hall other held hmember

theorem map {f : α → α} (hall : All holds table)
    (hkept : ∀ index value, holds index value → holds index (f value)) :
    All holds (table.map f) := by
  intro other held hmember
  rw [get?_map] at hmember
  obtain ⟨value, hbefore, rfl⟩ := Option.map_eq_some_iff.mp hmember
  exact hkept other value (hall other value hbefore)

end All
end MonitorTable
end DesktopCapture
