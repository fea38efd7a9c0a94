import DesktopCapture.Toml.Number

/-!
# Dates and times

A date, a time of day, or a date with a time and perhaps an offset from universal
time.  The parts must exist: no thirtieth of February, no hour past 23, and a
sixtieth second only as a leap second.
-/

namespace DesktopCapture
namespace Toml

/-- A day of the proleptic Gregorian calendar. -/
structure Date where
  year : Nat
  month : Nat
  day : Nat
deriving DecidableEq

/-- A time of day; the fraction of its second is given by decimal digits. -/
structure Time where
  hour : Nat
  minute : Nat
  second : Nat
  fraction : List Char
deriving DecidableEq

/-- What a date and time value holds.  An offset is in minutes. -/
inductive DateTime
  | date (date : Date)
  | time (time : Time)
  | dateTime (date : Date) (time : Time) (offset : Option Int)
deriving DecidableEq

namespace Date

/-- Leap years. -/
def isLeap (year : Nat) : Bool := year % 4 = 0 && (year % 100 != 0 || year % 400 = 0)

/-- The number of days of a month. -/
def daysIn (year month : Nat) : Nat :=
  if month = 2 then (if isLeap year then 29 else 28)
  else if month = 4 ∨ month = 6 ∨ month = 9 ∨ month = 11 then 30
  else 31

/-- Whether there is such a day. -/
def isValid (date : Date) : Bool :=
  1 ≤ date.month && date.month ≤ 12 && 1 ≤ date.day && date.day ≤ daysIn date.year date.month

end Date

namespace DateTime

/-- Reads a number of exactly `width` decimal digits. -/
def number (width : Nat) : Reader Nat := fun text =>
  let front := text.take width
  if front.length = width ∧ front.all (Number.isDigitOf 10) then
    some (Number.valueOf 10 front, text.drop width)
  else none

/-- Reads two digits that are at most `limit`. -/
def upTo (limit : Nat) : Reader Nat := fun text =>
  (number 2 text).bind fun taken => if taken.1 ≤ limit then some taken else none

/-- Reads a date. -/
def readDate : Reader Date := fun text => do
  let (year, text) ← number 4 text
  let ((), text) ← Reader.exactly '-' text
  let (month, text) ← number 2 text
  let ((), text) ← Reader.exactly '-' text
  let (day, text) ← number 2 text
  let calendar : Date := ⟨year, month, day⟩
  if calendar.isValid then some (calendar, text) else none

/-- Reads a point and the digits of a fraction of a second. -/
def readFraction : Reader (List Char)
  | '.' :: rest =>
    let places := rest.takeWhile (Number.isDigitOf 10)
    if places.isEmpty then none else some (places, rest.drop places.length)
  | _ => none

/-- Reads a time of day. -/
def readTime : Reader Time := fun text => do
  let (hour, text) ← upTo 23 text
  let ((), text) ← Reader.exactly ':' text
  let (minute, text) ← upTo 59 text
  let ((), text) ← Reader.exactly ':' text
  let (second, text) ← upTo 60 text
  let (places, text) := Reader.optional readFraction text
  some (⟨hour, minute, second, places.getD []⟩, text)

/-- Reads an offset from universal time, in minutes. -/
def readOffset : Reader Int
  | c :: rest =>
    if c = 'Z' ∨ c = 'z' then some (0, rest)
    else if c = '+' ∨ c = '-' then do
      let (hours, rest) ← upTo 23 rest
      let ((), rest) ← Reader.exactly ':' rest
      let (minutes, rest) ← upTo 59 rest
      some (Number.signed (c = '-') (60 * hours + minutes), rest)
    else none
  | [] => none

/-- Reads the part after a date: a delimiter, a time and perhaps an offset. -/
def readTimeOfDate : Reader (Time × Option Int) := fun text => do
  let (_, text) ← Reader.charOf (fun c => c = 'T' || c = 't' || c = ' ') text
  let (clock, text) ← readTime text
  let (offset, text) := Reader.optional readOffset text
  some ((clock, offset), text)

/-- Reads a date, a time or both. -/
def read : Reader DateTime := fun text =>
  match readDate text with
  | some (calendar, rest) =>
    match readTimeOfDate rest with
    | some ((clock, offset), rest) => some (.dateTime calendar clock offset, rest)
    | none => some (.date calendar, rest)
  | none => (readTime text).map fun taken => (.time taken.1, taken.2)

end DateTime
end Toml
end DesktopCapture
