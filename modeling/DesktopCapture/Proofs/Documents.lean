import DesktopCapture.Proofs.Assigning
import DesktopCapture.Proofs.Numerals
import Mathlib.Data.List.DropRight

/-!
# Documents of assignments

A text may consist of assignments only, with blank lines and comments between them.
`Assigns` says so line by line, in the terms of the readers of a key, a value and the
rest of a line, except that an integer need not fit 64 bits: what becomes of a text with
such an integer is one of the questions here.

`ofText?_eq_some_iff` compares this with the reader of whole texts: it finds the
assignments where all values can be stored, and it finds assignments nowhere else.
One integer that is too large makes all of the text unreadable (`Assigns.ofLines?_eq`).
With keys that are apart the text is a document that shows each of its assignments and
nothing else (`Document.parse_of_assigns`).
-/

namespace DesktopCapture
namespace Toml

/-- Whether a value can be stored: an integer must fit 64 bits with sign. -/
def Value.isStorable : Value → Bool
  | .integer n => Number.inRange n
  | _ => true

/-- A value in front of a text, as it is written.  Integers of any size are written
alike. -/
inductive Spells : List Char → Value → List Char → Prop
  | read {text rest : List Char} {value : Value}
      (hfound : Value.read text = some (value, rest)) : Spells text value rest
  | integer {text rest : List Char} {n : Int}
      (hfound : Number.unboundedInteger text = some (n, rest)) : Spells text (.integer n) rest

/-- A text of blank lines, comments and assignments, each on a line of its own. -/
inductive Assigns : List Char → List (Key × Value) → Prop
  | nil {text : List Char} (hends : trailing text = some ((), [])) : Assigns text []
  | blank {text rest : List Char} {assignments : List (Key × Value)}
      (hline : emptyLine text = some ((), rest)) (hlater : Assigns rest assignments) :
      Assigns text assignments
  | cons {text after rest last : List Char} {key : Key} {value : Value}
      {assignments : List (Key × Value)}
      (hnamed : Key.read (skipBlanks text) = some (key, '=' :: after))
      (hspelled : Spells (skipBlanks after) value rest)
      (hends : trailing rest = some ((), last)) (hlater : Assigns last assignments) :
      Assigns text ((key, value) :: assignments)

theorem skipBlanks_skipBlanks (text : List Char) :
    skipBlanks (skipBlanks text) = skipBlanks text :=
  List.dropWhile_idempotent ..

theorem trailing_skipBlanks (text : List Char) : trailing (skipBlanks text) = trailing text := by
  simp only [trailing, skipBlanks_skipBlanks]

namespace Value

theorem isStorable_of_readScalar {text rest : List Char} {value : Value}
    (hfound : readScalar text = some (value, rest)) : value.isStorable := by
  unfold readScalar at hfound
  grind [isStorable, Number.integer, Option.map_eq_some_iff, Option.bind_eq_some_iff]

theorem isStorable_of_readWithin {depth : Nat} {text rest : List Char} {value : Value}
    (hfound : readWithin depth text = some (value, rest)) : value.isStorable := by
  cases depth with
  | zero => exact isStorable_of_readScalar hfound
  | succ depth =>
    unfold readWithin at hfound
    split at hfound
    · cases hfound; rfl
    · split at hfound
      · cases hfound
        simp only [readBraces, inBraces?, Option.bind_eq_bind, Option.bind_eq_some_iff,
          Option.map_eq_some_iff] at *
        grind [isStorable]
      · exact isStorable_of_readScalar hfound

end Value

theorem Spells.read_eq {text rest : List Char} {value : Value} (hspelled : Spells text value rest)
    (hends : EndsValue rest) :
    Value.read text = if value.isStorable then some (value, rest) else none := by
  cases hspelled with
  | read hfound => rw [if_pos (Value.isStorable_of_readWithin hfound), hfound]
  | integer hfound => exact Value.read_integer hfound hends

section Starts

variable {text rest : List Char}

/-- Characters that keys begin with. -/
def Key.startsWith (c : Char) : Bool := Key.isBare c || c = '"' || c = '\''

theorem Quoted.line_starts {quote : Char} {char : Reader Char} {content : List Char}
    (hfound : Quoted.line quote char text = some (content, rest)) :
    ∃ more, text = quote :: more := by
  simp only [Quoted.line, Option.bind_eq_bind, Option.bind_eq_some_iff] at hfound
  obtain ⟨⟨_, more⟩, hopening, -⟩ := hfound
  exact ⟨more, Reader.exactly_eq_some_iff.mp hopening⟩

theorem Key.part_starts {name : String} (hfound : Key.part text = some (name, rest)) :
    ∃ c more, skipBlanks text = c :: more ∧ Key.startsWith c := by
  obtain ⟨⟨chars, last⟩, htaken, -⟩ := Option.map_eq_some_iff.mp hfound
  unfold Reader.orElse Quoted.short Reader.orElse at htaken
  split at htaken
  · next hquoted =>
    split at hquoted
    · next hbasic =>
      cases hquoted
      obtain ⟨more, hshape⟩ := Quoted.line_starts hbasic
      exact ⟨'"', more, hshape, rfl⟩
    · obtain ⟨more, hshape⟩ := Quoted.line_starts hquoted
      exact ⟨'\'', more, hshape, rfl⟩
  · cases hshape : skipBlanks text with
    | nil => simp [bare, hshape] at htaken
    | cons c more => grind [bare, Key.startsWith, List.takeWhile_cons]

theorem Key.read_starts {key : Key} (hfound : Key.read text = some (key, rest)) :
    ∃ c more, skipBlanks text = c :: more ∧ Key.startsWith c := by
  obtain ⟨⟨parts, last⟩, htaken, -⟩ := Option.bind_eq_some_iff.mp hfound
  unfold Reader.separated at htaken
  split at htaken
  · next name rest' hfirst => exact Key.part_starts hfirst
  · cases htaken

/-- No key stands where a line may end. -/
theorem Key.read_eq_none (hends : EndsValue (skipBlanks text)) :
    Key.read (skipBlanks text) = none := by
  rw [Option.eq_none_iff_forall_ne_some]
  intro taken hfound
  obtain ⟨c, more, hshape, hstart⟩ := Key.read_starts hfound
  rw [skipBlanks_skipBlanks] at hshape
  obtain rfl | rfl | rfl | rfl | rfl := hends c more hshape <;> cases hstart

end Starts

namespace Statement

/-- The statements of the lines of a text, if all of it can be read. -/
def ofLines? (text : List Char) : Option (List Statement) :=
  let (lines, rest) := Reader.many readLine text
  (trailing rest).bind fun taken =>
    if taken.2.isEmpty then some (lines.filterMap id) else none

theorem ofText?_eq (text : List Char) : ofText? text = ofLines? (skipMark text) := rfl

theorem ofLines?_of_readLine {text rest : List Char} {line : Option Statement}
    (hfound : readLine text = some (line, rest)) :
    ofLines? text = (ofLines? rest).map (line.toList ++ ·) := by
  simp only [ofLines?, Reader.many_eq readLine_consumes text, hfound]
  cases trailing (Reader.many readLine rest).2 with
  | none => rfl
  | some taken => cases line <;> by_cases hended : taken.2 = [] <;> simp [hended]

theorem ofLines?_of_none {text : List Char} (hfound : readLine text = none) :
    ofLines? text =
      (trailing text).bind fun taken => if taken.2.isEmpty then some [] else none := by
  simp only [ofLines?, Reader.many_eq readLine_consumes text, hfound]
  rfl

theorem read_of_unbracketed {text : List Char} (hplain : text.head? ≠ some '[') :
    read text = (readAssignment text).bind fun taken =>
      (trailing taken.2).map fun ended => (taken.1, ended.2) := by
  have hbracket : Reader.exactly '[' text = none := by
    cases text with
    | nil => rfl
    | cons c more => simpa [Reader.exactly] using hplain
  have hunread : Reader.orElse readElement (Reader.orElse readTable readAssignment) text =
      readAssignment text := by
    simp [Reader.orElse, readElement, readTable, Reader.word, hbracket]
  rw [read, hunread]
  cases readAssignment text with
  | none => rfl
  | some taken =>
    obtain ⟨statement, rest⟩ := taken
    simp only [Option.bind_eq_bind, Option.bind_some]
    cases trailing rest <;> rfl

/-- No statement stands where a line may end. -/
theorem read_eq_none {text : List Char} (hends : EndsValue (skipBlanks text)) :
    read (skipBlanks text) = none := by
  have hplain : (skipBlanks text).head? ≠ some '[' := by
    cases hshape : skipBlanks text with
    | nil => simp
    | cons c more => obtain rfl | rfl | rfl | rfl | rfl := hends c more hshape <;> simp
  simp [read_of_unbracketed hplain, readAssignment, Value.readAssignment, Key.read_eq_none hends]

section Line

variable {text after rest last : List Char} {key : Key} {value : Value}

/-- No line ends in front of a key. -/
theorem trailing_eq_none (hnamed : Key.read (skipBlanks text) = some (key, after)) :
    trailing text = none := by
  rw [Option.eq_none_iff_forall_ne_some]
  rintro ⟨_, rest⟩ hended
  have hends := endsValue_of_trailing ((trailing_skipBlanks text).trans hended)
  rw [Key.read_eq_none hends] at hnamed
  cases hnamed

theorem trailing_of_emptyLine (hline : emptyLine text = some ((), rest)) :
    trailing text = some ((), rest) := by
  rw [trailing, ← hline, emptyLine]
  rw [emptyLine, lineBreak_eq_some_iff] at hline
  obtain hshape | hshape := hline <;> rw [hshape] <;> rfl

/-- An assignment in front of a text is read as its statement if its value can be
stored. -/
theorem readLine_of_assignment (hnamed : Key.read (skipBlanks text) = some (key, '=' :: after))
    (hspelled : Spells (skipBlanks after) value rest) (hends : trailing rest = some ((), last)) :
    readLine text =
      if value.isStorable then some (some (.assignment key value), last) else none := by
  have hfilled : emptyLine text = none := by
    rw [Option.eq_none_iff_forall_ne_some]
    rintro ⟨_, rest'⟩ hline
    simpa [trailing_eq_none hnamed] using trailing_of_emptyLine hline
  have hplain : (skipBlanks text).head? ≠ some '[' := by
    obtain ⟨c, more, hshape, hstart⟩ := Key.read_starts hnamed
    rw [skipBlanks_skipBlanks] at hshape
    simp only [hshape, List.head?_cons, ne_eq, Option.some.injEq]
    rintro rfl
    cases hstart
  have hequals : Reader.exactly '=' ('=' :: after) = some ((), after) :=
    Reader.exactly_eq_some_iff.mpr rfl
  have hvalued := hspelled.read_eq (endsValue_of_trailing hends)
  simp only [readLine, hfilled, read_of_unbracketed hplain, readAssignment, Value.readAssignment,
    hnamed, hequals, hvalued, Option.bind_eq_bind, Option.bind_some]
  split
  · simp [trailing_skipBlanks, hends]
  · rfl

end Line

end Statement

/-- The statements of a text of assignments are these, unless a value cannot be stored. -/
theorem Assigns.ofLines?_eq {text : List Char} {assignments : List (Key × Value)}
    (hassigns : Assigns text assignments) :
    Statement.ofLines? text =
      if assignments.all (·.2.isStorable) then
        some (assignments.map fun a => .assignment a.1 a.2)
      else none := by
  induction hassigns with
  | @nil text hends =>
    -- The last line may have a line break of its own and is then read as one more line.
    cases hbroken : emptyLine text with
    | none =>
      have hline : Statement.readLine text = none := by
        have hstops := endsValue_of_trailing ((trailing_skipBlanks text).trans hends)
        simp [Statement.readLine, hbroken, Statement.read_eq_none hstops]
      simp [Statement.ofLines?_of_none hline, hends]
    | some taken =>
      obtain ⟨_, rest⟩ := taken
      have hblank : Statement.readLine text = some (none, rest) := by
        simp [Statement.readLine, hbroken]
      obtain rfl : rest = [] := by simpa [Statement.trailing_of_emptyLine hbroken] using hends
      rw [Statement.ofLines?_of_readLine hblank]
      rfl
  | @blank text rest assignments hline hlater ih =>
    have hblank : Statement.readLine text = some (none, rest) := by simp [Statement.readLine, hline]
    rw [Statement.ofLines?_of_readLine hblank, ih]
    split <;> rfl
  | @cons text after rest last key value assignments hnamed hspelled hends hlater ih =>
    have hline := Statement.readLine_of_assignment hnamed hspelled hends
    by_cases hstorable : value.isStorable
    · rw [if_pos hstorable] at hline
      rw [Statement.ofLines?_of_readLine hline, ih, List.all_cons, hstorable, Bool.true_and]
      split <;> rfl
    · -- Lines are read up to this one, and a line with a key on it ends no text.
      rw [if_neg hstorable] at hline
      rw [Statement.ofLines?_of_none hline, Statement.trailing_eq_none hnamed]
      simp [hstorable]

/-- Where an assignment is read, it stands as one. -/
theorem Statement.parts_of_read {text last : List Char} {key : Key} {value : Value}
    (hfound : Statement.read text = some (.assignment key value, last)) :
    ∃ after rest, Key.read text = some (key, '=' :: after) ∧
      Value.read (skipBlanks after) = some (value, rest) ∧ trailing rest = some ((), last) := by
  simp only [read, Option.bind_eq_bind, Option.bind_eq_some_iff] at hfound
  obtain ⟨⟨statement, rest⟩, htaken, ⟨_, last'⟩, hends, hsame⟩ := hfound
  obtain ⟨rfl, rfl⟩ : statement = .assignment key value ∧ last' = last := by grind
  have hassigned : readAssignment text = some (.assignment key value, rest) := by
    simp only [Reader.orElse] at htaken
    split at htaken
    · simp only [readElement, Option.bind_eq_bind, Option.bind_eq_some_iff] at *
      grind
    · split at htaken
      · simp only [readTable, Option.bind_eq_bind, Option.bind_eq_some_iff] at *
        grind
      · exact htaken
  obtain ⟨⟨⟨key', value'⟩, rest'⟩, hfound, hsame⟩ := Option.map_eq_some_iff.mp hassigned
  simp only [Value.readAssignment, Option.bind_eq_bind, Option.bind_eq_some_iff] at hfound
  obtain ⟨⟨_, text'⟩, hnamed, ⟨_, after⟩, hequals, ⟨_, rest''⟩, hvalued, hsame'⟩ := hfound
  obtain rfl := Reader.exactly_eq_some_iff.mp hequals
  have hblanks := trailing_skipBlanks rest''
  exact ⟨after, rest'', by grind, by grind, by grind⟩

/-- Every text that reads as assignments is such a text. -/
theorem assigns_of_ofLines? {text : List Char} {assignments : List (Key × Value)}
    (hfound : Statement.ofLines? text = some (assignments.map fun a => .assignment a.1 a.2)) :
    Assigns text assignments := by
  induction hlength : text.length using Nat.strong_induction_on generalizing text assignments with
  | h n ih =>
    cases hline : Statement.readLine text with
    | none =>
      rw [Statement.ofLines?_of_none hline] at hfound
      obtain ⟨⟨_, rest⟩, hends, hlast⟩ := Option.bind_eq_some_iff.mp hfound
      obtain ⟨rfl, rfl⟩ : rest = [] ∧ assignments = [] := by
        split at hlast
        · next hempty =>
          exact ⟨List.isEmpty_iff.mp hempty, List.map_eq_nil_iff.mp (Option.some.inj hlast).symm⟩
        · cases hlast
      exact .nil hends
    | some taken =>
      obtain ⟨statement?, rest⟩ := taken
      have hshorter := Statement.readLine_consumes text _ rest hline
      rw [Statement.ofLines?_of_readLine hline] at hfound
      obtain ⟨later, hread, hall⟩ := Option.map_eq_some_iff.mp hfound
      unfold Statement.readLine at hline
      split at hline
      · next hblank =>
        cases hline
        exact .blank hblank (ih _ (hlength ▸ hshorter) (hall ▸ hread) rfl)
      · obtain ⟨⟨statement, rest⟩, htaken, hsame⟩ := Option.map_eq_some_iff.mp hline
        cases hsame
        cases assignments with
        | nil => cases hall
        | cons a assignments =>
          obtain ⟨rfl, rfl⟩ := List.cons.inj hall
          obtain ⟨after, rest, hnamed, hvalued, hends⟩ := Statement.parts_of_read htaken
          exact .cons hnamed (.read hvalued) hends (ih _ (hlength ▸ hshorter) hread rfl)

/-- The texts that read as assignments are those that consist of them, unless a value
cannot be stored. -/
theorem ofText?_eq_some_iff {text : List Char} {assignments : List (Key × Value)} :
    Statement.ofText? text = some (assignments.map fun a => .assignment a.1 a.2) ↔
      Assigns (Statement.skipMark text) assignments ∧ ∀ a ∈ assignments, a.2.isStorable := by
  rw [Statement.ofText?_eq]
  constructor
  · intro hfound
    have hassigns := assigns_of_ofLines? hfound
    rw [hassigns.ofLines?_eq, Option.ite_none_right_eq_some] at hfound
    exact ⟨hassigns, List.all_eq_true.mp hfound.1⟩
  · rintro ⟨hassigns, hstorable⟩
    rw [hassigns.ofLines?_eq, if_pos (List.all_eq_true.mpr hstorable)]

namespace Document

theorem sections_assignments (assignments : List (Key × Value)) :
    sections (assignments.map fun a => .assignment a.1 a.2) = (assignments, []) := by
  induction assignments with
  | nil => rfl
  | cons a rest ih => simp [sections, ih]

section Parsed

variable {text : List Char} {assignments : List (Key × Value)}

/-- Assignments to keys that are apart make a document that shows all of them and
nothing else. -/
theorem parse_of_assigns (hassigns : Assigns (Statement.skipMark text) assignments)
    (hapart : assignments.Pairwise fun a b => a.1.Apart b.1)
    (hstorable : ∀ a ∈ assignments, a.2.isStorable) :
    ∃ entries, parse? text = some entries ∧ (∀ a ∈ assignments, entries.Shows a) ∧
      ∀ name, (∀ a ∈ assignments, a.1.head ≠ name) → entries.lookup name = none := by
  have hopens : ∀ a ∈ assignments, Entries.IsOpen a.1.name a.1.path [] :=
    fun a _ => Entries.isOpen_nil a.1.name a.1.path
  obtain ⟨entries, hassigned, hshows, hkeeps⟩ := Entries.assignAll_of_apart .header hopens hapart
  refine ⟨entries, ?_, hshows, hkeeps⟩
  rw [parse?, ofText?_eq_some_iff.mpr ⟨hassigns, hstorable⟩, Option.bind_some, ofStatements?,
    sections_assignments]
  simp [hassigned]

theorem parse_eq_none (hassigns : Assigns (Statement.skipMark text) assignments)
    (hunstorable : ∃ a ∈ assignments, a.2.isStorable = false) : parse? text = none := by
  have hnot : ¬assignments.all (·.2.isStorable) := by simpa using hunstorable
  rw [parse?, Statement.ofText?_eq, hassigns.ofLines?_eq, if_neg hnot, Option.bind_none]

end Parsed

end Document

end Toml
end DesktopCapture
