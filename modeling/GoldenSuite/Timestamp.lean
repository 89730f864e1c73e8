set_option autoImplicit false

namespace GoldenSuite

structure CalendarDay where
  year : Int
  month : Nat
  day : Nat
  deriving DecidableEq, Repr

namespace CalendarDay

/-- The day a number of days after the first of March of a year that 400 divides, within the 400
years from there on. Years are counted from March, so that a leap day ends its year. -/
def inCycle (days : Nat) : Nat × Nat × Nat :=
  let year := (days - days / 1460 + days / 36524 - days / 146096) / 365
  let dayOfYear := days - (365 * year + year / 4 - year / 100)
  let month := (5 * dayOfYear + 2) / 153
  (year, month, dayOfYear - (153 * month + 2) / 5 + 1)

def ofDays (days : Int) : CalendarDay :=
  let shifted := days + 719468
  let cycle := shifted.fdiv 146097
  let (year, month, day) := inCycle (shifted.fmod 146097).toNat
  let startYear := (year : Int) + 400 * cycle
  if month < 10 then ⟨startYear, month + 3, day⟩ else ⟨startYear + 1, month - 9, day⟩

end CalendarDay

namespace Timestamp

def padded (width : Nat) (n : Nat) : String :=
  let digits := toString n
  String.ofList (List.replicate (width - digits.length) '0') ++ digits

def yearText (year : Int) : String :=
  if year < 0 then "-" ++ padded 4 year.natAbs
  else if year ≤ 9999 then padded 4 year.toNat
  else "+" ++ toString year.toNat

def firstYear : Int := -262143

def lastYear : Int := 262142

def dayText (day : CalendarDay) : String :=
  yearText day.year ++ "-" ++ padded 2 day.month ++ "-" ++ padded 2 day.day

def timeText (second : Nat) : String :=
  padded 2 (second / 3600) ++ ":" ++ padded 2 (second / 60 % 60) ++ ":" ++ padded 2 (second % 60)

def text (seconds : Int) : String :=
  let day := CalendarDay.ofDays (seconds.fdiv 86400)
  if firstYear ≤ day.year ∧ day.year ≤ lastYear then
    dayText day ++ "T" ++ timeText (seconds.fmod 86400).toNat ++ "Z"
  else "1970-01-01T00:00:00Z"

end Timestamp

end GoldenSuite
