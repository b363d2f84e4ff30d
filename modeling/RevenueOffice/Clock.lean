/-!
# Wall-clock time as logs write it

A moment is a count of seconds since 1970-01-01 00:00:00 UTC, with milliseconds. Log lines write
it as `YYYY-MM-DD HH:MM:SS,mmm`, log file names as `YYYYMMDD_HHMMSS`, both in UTC. The day of a
count of days follows the proleptic Gregorian calendar, in cycles of 400 years of 146097 days
whose years start in March, so that the leap day ends a year.
-/

set_option autoImplicit false

namespace RevenueOffice.Clock

structure Moment where
  seconds : Int
  millis : Nat

/-- The year, month and day of a count of days since 1970-01-01. -/
def civilDate (days : Int) : Int × Nat × Nat :=
  let z := days + 719468
  let era := z / 146097
  let dayOfEra := z - era * 146097
  let yearOfEra := (dayOfEra - dayOfEra / 1460 + dayOfEra / 36524 - dayOfEra / 146096) / 365
  let dayOfYear := dayOfEra - (365 * yearOfEra + yearOfEra / 4 - yearOfEra / 100)
  let shifted := (5 * dayOfYear + 2) / 153
  let day := dayOfYear - (153 * shifted + 2) / 5 + 1
  let month := if shifted < 10 then shifted + 3 else shifted - 9
  let year := yearOfEra + era * 400 + (if month ≤ 2 then 1 else 0)
  (year, month.toNat, day.toNat)

def padded (width : Nat) (n : Nat) : String :=
  let s := toString n
  String.ofList (List.replicate (width - s.length) '0') ++ s

def Moment.fields (m : Moment) : Int × Nat × Nat × Nat × Nat × Nat :=
  let (year, month, day) := civilDate (m.seconds / 86400)
  let second := (m.seconds % 86400).toNat
  (year, month, day, second / 3600, second / 60 % 60, second % 60)

def Moment.logText (m : Moment) : String :=
  let (year, month, day, hour, minute, second) := m.fields
  padded 4 year.toNat ++ "-" ++ padded 2 month ++ "-" ++ padded 2 day ++ " " ++ padded 2 hour ++
    ":" ++ padded 2 minute ++ ":" ++ padded 2 second ++ "," ++ padded 3 m.millis

def Moment.stamp (m : Moment) : String :=
  let (year, month, day, hour, minute, second) := m.fields
  padded 4 year.toNat ++ padded 2 month ++ padded 2 day ++ "_" ++ padded 2 hour ++
    padded 2 minute ++ padded 2 second

example : civilDate 0 = (1970, 1, 1) ∧ civilDate 11016 = (2000, 2, 29) ∧
    civilDate (-1) = (1969, 12, 31) := by
  decide

end RevenueOffice.Clock
