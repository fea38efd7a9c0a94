import DesktopCapture.Toml.DateTime
import DesktopCapture.Toml.Key

/-!
# Values and tables

A table lists its entries in the order in which they came, each key once.  How a
table came about decides what may still be added to it: a dotted key may go on
through tables that dotted keys or headers further in brought along, a header also
through tables with headers of their own, and nothing may be added to a table in
braces.

The look-ups after an addition are given by `lookup_add` and `lookup_set`.
-/

namespace DesktopCapture
namespace Toml

/-- How a table came about. -/
inductive Origin
  /-- By its own header, or as the whole document. -/
  | header
  /-- On the way to a table with a header. -/
  | headerPath
  /-- On the way to a name joined by dots. -/
  | dottedKey
  /-- Written in braces. -/
  | braces
deriving DecidableEq

/-- A value.  Tables under headers in double brackets are kept apart from arrays of
values, which are closed. -/
inductive Value
  | string (text : List Char)
  | integer (value : Int)
  | float (value : FloatLiteral)
  | boolean (value : Bool)
  | dateTime (value : DateTime)
  | array (items : List Value)
  | table (origin : Origin) (entries : List (String × Value))
  | tables (elements : List (List (String × Value)))

/-- The entries of a table. -/
abbrev Entries := List (String × Value)

namespace Entries

/-- Put a value in the place of the value that a key has, or behind all entries. -/
def set (key : String) (value : Value) : Entries → Entries
  | [] => [(key, value)]
  | (other, old) :: rest =>
    if key = other then (key, value) :: rest else (other, old) :: set key value rest

/-- Add a value under a key that is not there yet. -/
def add? (key : String) (value : Value) (entries : Entries) : Option Entries :=
  if (entries.lookup key).isNone then some (entries ++ [(key, value)]) else none

theorem lookup_entry (key other : String) (value : Value) (rest : Entries) :
    List.lookup other ((key, value) :: rest) =
      if other = key then some value else rest.lookup other := by
  by_cases hsame : other = key
  · simp [hsame]
  · simp [List.lookup_cons, hsame, beq_eq_false_iff_ne.mpr hsame]

theorem lookup_set (key other : String) (value : Value) (entries : Entries) :
    (set key value entries).lookup other =
      if other = key then some value else entries.lookup other := by
  induction entries with
  | nil => simp only [set, lookup_entry]
  | cons entry rest ih =>
    obtain ⟨name, old⟩ := entry
    unfold set
    split
    · next hsame =>
      subst hsame
      simp only [lookup_entry]
      split <;> rfl
    · next hdifferent =>
      simp only [lookup_entry, ih]
      by_cases hhere : other = name
      · subst hhere
        simp [Ne.symm hdifferent]
      · simp [hhere]

theorem lookup_add {key other : String} {value : Value} {entries added : Entries}
    (h : add? key value entries = some added) :
    added.lookup other = if other = key then some value else entries.lookup other := by
  unfold add? at h
  split at h
  · next habsent =>
    cases h
    rw [List.lookup_append, lookup_entry]
    by_cases hsame : other = key
    · subst hsame
      simp [Option.isNone_iff_eq_none.mp habsent]
    · cases entries.lookup other <;> simp [hsame]
  · cases h

/-- What a path goes by: dotted keys or headers. -/
inductive Way
  | dots
  | headers
deriving DecidableEq

namespace Way

/-- Whether a table may be entered. -/
def enters : Way → Origin → Bool
  | _, .braces => false
  | .dots, .header => false
  | _, _ => true

/-- How the tables come about that are missing on the way. -/
def brings : Way → Origin
  | .dots => .dottedKey
  | .headers => .headerPath

end Way

/-- Change the table at the end of a path, bringing along the tables that are
missing.  Through an array of tables the way leads into its last element. -/
def change? (way : Way) (f : Origin → Entries → Option Entries) :
    List String → Origin → Entries → Option Entries
  | [], origin, entries => f origin entries
  | key :: path, _, entries =>
    match entries.lookup key with
    | none =>
      (change? way f path way.brings []).map fun inner =>
        entries.set key (.table way.brings inner)
    | some (.table origin inner) =>
      if way.enters origin then
        (change? way f path origin inner).map fun inner => entries.set key (.table origin inner)
      else none
    | some (.tables elements) =>
      match elements.getLast? with
      | some last =>
        (change? way f path .header last).map fun last =>
          entries.set key (.tables (elements.dropLast ++ [last]))
      | none => none
    | some _ => none

/-- Assign a value to a key.  A dotted key adds to tables of dotted keys only. -/
def assign? (origin : Origin) (entries : Entries) (key : Key) (value : Value) :
    Option Entries :=
  entries.change? .dots
    (fun origin inner =>
      if key.path.isEmpty ∨ origin = .dottedKey then inner.add? key.name value else none)
    key.path origin

/-- Assign values to keys in turn. -/
def assignAll? (origin : Origin) (entries : Entries) (assignments : List (Key × Value)) :
    Option Entries :=
  assignments.foldlM (fun entries assignment => entries.assign? origin assignment.1 assignment.2)
    entries

/-- Open the table of a header and fill it: a new one, or one that headers further
in brought along. -/
def openTable? (key : Key) (fill : Entries → Option Entries) (entries : Entries) :
    Option Entries :=
  entries.change? .headers
    (fun _ inner =>
      match inner.lookup key.name with
      | none => (fill []).map fun table => inner.set key.name (.table .header table)
      | some (.table .headerPath table) =>
        (fill table).map fun table => inner.set key.name (.table .header table)
      | some _ => none)
    key.path .header

/-- Open one more element of the array of tables of a header and fill it. -/
def openElement? (key : Key) (fill : Entries → Option Entries) (entries : Entries) :
    Option Entries :=
  entries.change? .headers
    (fun _ inner =>
      match inner.lookup key.name with
      | none => (fill []).map fun table => inner.set key.name (.tables [table])
      | some (.tables elements) =>
        (fill []).map fun table => inner.set key.name (.tables (elements ++ [table]))
      | some _ => none)
    key.path .header

end Entries

/-- A table in braces. -/
def Value.inBraces? (assignments : List (Key × Value)) : Option Value :=
  (Entries.assignAll? .braces [] assignments).map (.table .braces)

end Toml
end DesktopCapture
