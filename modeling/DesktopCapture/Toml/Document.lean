import DesktopCapture.Toml.Statement

/-!
# Documents

Assignments in front of all headers belong to the document itself, and the
assignments behind a header to its table.  A document is built up section by
section; a key that is given twice, or a table that may not be added to, makes it
invalid.
-/

namespace DesktopCapture
namespace Toml

/-- Whether a header opens a table or one more element of an array of tables. -/
inductive Header
  | table (key : Key)
  | element (key : Key)

/-- A header with the assignments behind it. -/
structure Section where
  header : Header
  assignments : List (Key × Value)

namespace Document

/-- The assignments in front of all headers, and the sections. -/
def sections : List Statement → List (Key × Value) × List Section
  | [] => ([], [])
  | .assignment key value :: rest =>
    let (front, later) := sections rest
    ((key, value) :: front, later)
  | .table key :: rest =>
    let (behind, later) := sections rest
    ([], ⟨.table key, behind⟩ :: later)
  | .element key :: rest =>
    let (behind, later) := sections rest
    ([], ⟨.element key, behind⟩ :: later)

/-- Add a section to a document. -/
def addSection? (document : Entries) (added : Section) : Option Entries :=
  let fill (entries : Entries) := entries.assignAll? .header added.assignments
  match added.header with
  | .table key => document.openTable? key fill
  | .element key => document.openElement? key fill

/-- The document of a sequence of statements. -/
def ofStatements? (statements : List Statement) : Option Entries := do
  let (front, later) := sections statements
  let document ← Entries.assignAll? .header [] front
  later.foldlM addSection? document

/-- The document of a text. -/
def parse? (text : List Char) : Option Entries :=
  (Statement.ofText? text).bind ofStatements?

end Document
end Toml
end DesktopCapture
