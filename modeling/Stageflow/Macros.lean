import Stageflow.Table

/-!
# Macros

The values that macros in the properties of plugins refer to: the start of the run, its namespace,
and the arguments it was given.

* `MacroContext.lookup` resolves a key; the start and the namespace win over arguments.
* `Moment.rfc3339` writes a moment by RFC 3339, in UTC.
-/

namespace Stageflow

/--
A moment: whole seconds since the beginning of 1970 and nanoseconds on top. In a leap second the
nanoseconds are a full second or more.
-/
structure Moment where
  seconds : Int
  nanoseconds : Nat
deriving DecidableEq, Inhabited

namespace Moment

/-- A day of the calendar. -/
structure Date where
  year : Int
  month : Nat
  day : Nat
deriving DecidableEq

/-- The day that is some days after the first of January 1970. -/
def dateOfDays (days : Int) : Date :=
  -- Years are counted from March, so that a leap day is the last day of its year.
  let z := days + 719468
  let era := z.fdiv 146097
  let dayOfEra := (z.fmod 146097).toNat
  let yearOfEra := (dayOfEra - dayOfEra / 1460 + dayOfEra / 36524 - dayOfEra / 146096) / 365
  let dayOfYear := dayOfEra - (365 * yearOfEra + yearOfEra / 4 - yearOfEra / 100)
  let m := (5 * dayOfYear + 2) / 153
  let month := if m < 10 then m + 3 else m - 9
  ⟨era * 400 + yearOfEra + (if month ≤ 2 then 1 else 0), month, dayOfYear - (153 * m + 2) / 5 + 1⟩

/-- A number with zeros in front up to a width. -/
def padded (width n : Nat) : List Char :=
  let ds := Nat.toDigits 10 n
  List.replicate (width - ds.length) '0' ++ ds

/-- A year of four digits; years that need more, or are before the year 0, have a sign. -/
def yearText (year : Int) : List Char :=
  if 0 ≤ year ∧ year ≤ 9999 then padded 4 year.toNat
  else (if year < 0 then '-' else '+') :: padded 4 year.natAbs

/-- The fraction of a second: nothing, or 3, 6 or 9 digits, the fewest that are exact. -/
def fractionText (nanoseconds : Nat) : List Char :=
  if nanoseconds = 0 then []
  else if nanoseconds % 1000000 = 0 then '.' :: padded 3 (nanoseconds / 1000000)
  else if nanoseconds % 1000 = 0 then '.' :: padded 6 (nanoseconds / 1000)
  else '.' :: padded 9 nanoseconds

/-- The text of a moment by RFC 3339. -/
def rfc3339 (t : Moment) : String :=
  let date := dateOfDays (t.seconds.fdiv 86400)
  let second := (t.seconds.fmod 86400).toNat
  let leap := t.nanoseconds / 1000000000
  String.ofList (
    yearText date.year ++ '-' :: padded 2 date.month ++ '-' :: padded 2 date.day ++
    'T' :: padded 2 (second / 3600) ++ ':' :: padded 2 (second / 60 % 60) ++
    ':' :: padded 2 (second % 60 + leap) ++ fractionText (t.nanoseconds % 1000000000) ++
    ['+', '0', '0', ':', '0', '0'])

end Moment

/-- What macros may refer to. -/
structure MacroContext where
  scope : Name
  start : Moment
  arguments : Table String
deriving Inhabited

namespace MacroContext

/-- The value of a key. -/
def lookup (m : MacroContext) (key : Name) : Option String :=
  if key = "logicalStartTime" then some m.start.rfc3339
  else if key = "namespace" then some m.scope
  else m.arguments.get? key

end MacroContext

end Stageflow
