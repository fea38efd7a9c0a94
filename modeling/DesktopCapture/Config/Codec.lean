import DesktopCapture.Config.Basic

/-!
# Coding configurations

A configuration is declared as a record: each field has a key and a type, and one whose
key is missing from a document keeps its standard value.  All else is left to packages.
One reads texts as documents and writes documents as texts; another one derives from the
declaration how a record is decoded.  They are a parameter here, the `Codec`.

What is relied on in them is what they document, for texts, documents and types of any
kind: `DecodesByType`, `ReadsAssignments` and `WritesReadably`.
-/

namespace DesktopCapture

/-- A value that a field can have. -/
inductive Scalar
  | integer (n : Int)
  | flag (b : Bool)
deriving DecidableEq

/-- A value of a document, as far as fields tell values apart. -/
inductive Datum
  | scalar (value : Scalar)
  /-- A string, a float, a time, an array or a table. -/
  | other
deriving DecidableEq

/-- Whether a value can be stored: integers of documents have 64 bits with sign. -/
def Scalar.isStorable : Scalar → Bool
  | .integer n => -0x8000000000000000 ≤ n && n < 0x8000000000000000
  | .flag _ => true

/-- Whether a value can be stored. -/
def Datum.isStorable : Datum → Bool
  | .scalar value => value.isStorable
  | .other => true

/-- The packages that configurations are read and written with. -/
structure Codec where
  /-- The outermost keys of the document that a text is, with their values. -/
  document? : List Char → Option (List (String × Datum))
  /-- The text of a record's fields in order, or why there is none.  Missing values are
  left out. -/
  text : List (String × Option Scalar) → Except String (List Char)
  /-- The decoding of an integer of 32 bits without sign. -/
  word32? : Datum → Option UInt32
  /-- The decoding of an integer of 64 bits without sign. -/
  word64? : Datum → Option UInt64
  /-- The decoding of a truth value. -/
  flag? : Datum → Option Bool
  /-- The decoding of a value that may be missing, by that of the value. -/
  optional? : {α : Type} → (Datum → Option α) → Datum → Option (Option α)
  /-- The decoding of a field of a record with standard values, by its key, the decoding
  of its type and its standard value. -/
  field? : {α : Type} → List (String × Datum) → String → (Datum → Option α) → α → Option α

namespace Codec

/-- The configuration of a document, field by field as declared. -/
def decode? (codec : Codec) (document : List (String × Datum)) : Option Config := do
  let monitor ← codec.field? document "monitor" codec.word32? Config.standard.monitor
  let showPreview ← codec.field? document "show_preview" codec.flag? Config.standard.showPreview
  let frameInterval ← codec.field? document "frame_interval_ms" codec.word64?
    Config.standard.frameInterval
  let maxFrames ← codec.field? document "max_frames" (codec.optional? codec.word64?)
    Config.standard.maxFrames
  let debug ← codec.field? document "debug" codec.flag? Config.standard.debug
  some ⟨monitor, showPreview, frameInterval, maxFrames, debug⟩

/-- The configuration of a text. -/
def parse? (codec : Codec) (text : List Char) : Option Config :=
  (codec.document? text).bind codec.decode?

/-- The fields of a configuration in order of their declaration. -/
def fields (config : Config) : List (String × Option Scalar) :=
  [("monitor", some (.integer config.monitor.toNat)),
    ("show_preview", some (.flag config.showPreview)),
    ("frame_interval_ms", some (.integer config.frameInterval.toNat)),
    ("max_frames", config.maxFrames.map fun n => .integer n.toNat),
    ("debug", some (.flag config.debug))]

/-- The text of a configuration, or why there is none. -/
def render (codec : Codec) (config : Config) : Except String (List Char) :=
  codec.text (fields config)

/-! ## What is documented of the packages -/

/-- A value is decoded by the type of its field, and never as anything but itself.  A field
with a standard value takes that if its key is missing, and only then. -/
structure DecodesByType (codec : Codec) : Prop where
  word32 : ∀ (datum : Datum) (n : UInt32),
    codec.word32? datum = some n ↔ datum = .scalar (.integer n.toNat)
  word64 : ∀ (datum : Datum) (n : UInt64),
    codec.word64? datum = some n ↔ datum = .scalar (.integer n.toNat)
  flag : ∀ (datum : Datum) (b : Bool), codec.flag? datum = some b ↔ datum = .scalar (.flag b)
  optional : ∀ {α : Type} (read : Datum → Option α) (datum : Datum),
    codec.optional? read datum = (read datum).map some
  present : ∀ {α : Type} {document : List (String × Datum)} {key : String} {datum : Datum}
    (read : Datum → Option α) (standard : α),
    document.lookup key = some datum → codec.field? document key read standard = read datum
  missing : ∀ {α : Type} {document : List (String × Datum)} {key : String}
    (read : Datum → Option α) (standard : α),
    document.lookup key = none → codec.field? document key read standard = some standard

/-- A key of a document, as its parts.  All but the last lead through tables. -/
abbrev Path := List String

/-- Neither key is the other nor leads through it. -/
def Path.Apart (path other : Path) : Prop := ¬path <+: other ∧ ¬other <+: path

instance (path other : Path) : Decidable (path.Apart other) :=
  inferInstanceAs (Decidable (¬path <+: other ∧ ¬other <+: path))

/-- What a document shows of an assignment: its value under a key of one part, or else the
table that the key leads through. -/
def Shows (document : List (String × Datum)) : Path × Datum → Prop
  | ([], _) => True
  | ([key], datum) => document.lookup key = some datum
  | (key :: _ :: _, _) => document.lookup key = some .other

/-- What texts of assignments are read as, if `Assigns` says what such a text assigns.
Assignments to keys that are apart make a document with just these, in any order; but an
integer that cannot be stored is an error, wherever it stands. -/
structure ReadsAssignments (codec : Codec) (Assigns : List Char → List (Path × Datum) → Prop) :
    Prop where
  reads : ∀ {text : List Char} {assignments : List (Path × Datum)}, Assigns text assignments →
    assignments.Pairwise (fun a b => a.1.Apart b.1) → (∀ a ∈ assignments, a.2.isStorable) →
    ∃ document, codec.document? text = some document ∧ (∀ a ∈ assignments, Shows document a) ∧
      ∀ key, (∀ a ∈ assignments, a.1.head? ≠ some key) → document.lookup key = none
  refuses : ∀ {text : List Char} {assignments : List (Path × Datum)}, Assigns text assignments →
    (∃ a ∈ assignments, a.2.isStorable = false) → codec.document? text = none

/-- Whether a key needs no quotes: it has letters, digits, underscores and hyphens only. -/
def isBareKey (key : String) : Bool :=
  !key.toList.isEmpty && key.toList.all fun c => c.isAlphanum || c = '_' || c = '-'

/-- What records are written as.  A record with an integer that cannot be stored is refused;
any other is written as a document that has the fields with their values, and no others of
its keys. -/
structure WritesReadably (codec : Codec) : Prop where
  refuses : ∀ {fields : List (String × Option Scalar)},
    (∃ field ∈ fields, ∃ value, field.2 = some value ∧ value.isStorable = false) →
    ∃ cause, codec.text fields = .error cause
  writes : ∀ {fields : List (String × Option Scalar)}, (fields.map Prod.fst).Nodup →
    (∀ field ∈ fields, isBareKey field.1) →
    (∀ field ∈ fields, ∀ value, field.2 = some value → value.isStorable) →
    ∃ text document, codec.text fields = .ok text ∧ codec.document? text = some document ∧
      ∀ field ∈ fields, document.lookup field.1 = field.2.map .scalar

end Codec
end DesktopCapture
