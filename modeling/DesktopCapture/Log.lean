import DesktopCapture.Device.Journal

/-!
# Logs

A log is read off a journal.  A record has its level, the spans it stands in, and
its message; spans show only in logs detailed enough to record them.  A log kept
for a step has one line per notice; a log kept for a whole program also has a line
for the end of each span.
-/

namespace DesktopCapture
namespace Log

/-- A record without its alignment: level, spans from the outermost in, and
message. -/
def record (level : Level) (spans : List String) (message : String) : String :=
  let context := if spans.isEmpty then "" else ":".intercalate spans ++ ": "
  level.name ++ " " ++ context ++ message

/-- The blanks that align a level on the right of five columns. -/
def margin (level : Level) : String := if level.name.length < 5 then " " else ""

/-- A record with its level aligned. -/
def alignedRecord (level : Level) (spans : List String) (message : String) : String :=
  margin level ++ record level spans message

/-- The texts of the spans that a log kept at `threshold` shows. -/
def shownSpans (threshold : Level) (spans : List Span) : List String :=
  if Span.level.isRecorded threshold then spans.map Span.text else []

/-- The record of an entry in a log kept at `threshold`. -/
def entryRecord? (threshold : Level) : Entry → Option String
  | .notice spans notice =>
    if notice.level.isRecorded threshold then
      some (alignedRecord notice.level (shownSpans threshold spans) notice.text)
    else none
  | _ => none

/-- The log of a journal, one line per record. -/
def text (threshold : Level) (journal : List Entry) : String :=
  String.join ((journal.filterMap (entryRecord? threshold)).map fun line => line ++ "\n")

/-- The record of an entry in the most detailed log, which also marks the ends of
spans. -/
def fullRecord? : Entry → Option String
  | .spanEnd spans => some (alignedRecord Span.level (spans.map Span.text) "close")
  | entry => entryRecord? .trace entry

/-- The physical lines of the most detailed log. -/
def fullLines (journal : List Entry) : List String :=
  (journal.filterMap fullRecord?).flatMap fun line => line.splitOn "\n"

end Log
end DesktopCapture
