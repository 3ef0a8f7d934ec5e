/-!
# Timestamps

The date and the time of the day, in coordinated universal time, of a number of microseconds since the start of 1970.
Years are taken to begin in March, so that the day that is missing in most years is the last.
-/

namespace ConditionLang

namespace Log

/-- Digits of a natural, with zeros in front up to a width. -/
def zeroPadded (width n : Nat) : String :=
  let digits := toString n
  "".pushn '0' (width - digits.length) ++ digits

/-- The year, month and day that is so many days after the first of March of the year 0. -/
def dateOf (days : Nat) : Nat × Nat × Nat :=
  let era := days / 146097
  let dayOfEra := days % 146097
  let yearOfEra := (dayOfEra - dayOfEra / 1460 + dayOfEra / 36524 - dayOfEra / 146096) / 365
  let dayOfYear := dayOfEra - (365 * yearOfEra + yearOfEra / 4 - yearOfEra / 100)
  let fromMarch := (5 * dayOfYear + 2) / 153
  let day := dayOfYear - (153 * fromMarch + 2) / 5 + 1
  let month := if fromMarch < 10 then fromMarch + 3 else fromMarch - 9
  (400 * era + yearOfEra + (if month ≤ 2 then 1 else 0), month, day)

/-- The timestamp of a number of microseconds since the start of 1970. -/
def timestamp (microseconds : Nat) : String :=
  let seconds := microseconds / 1000000
  let (year, month, day) := dateOf (719468 + seconds / 86400)
  let date := s!"{zeroPadded 4 year}-{zeroPadded 2 month}-{zeroPadded 2 day}"
  let hour := seconds / 3600 % 24
  let minute := seconds / 60 % 60
  let second := seconds % 60
  let fraction := microseconds % 1000000
  s!"{date}T{zeroPadded 2 hour}:{zeroPadded 2 minute}:{zeroPadded 2 second}.{zeroPadded 6 fraction}Z"

example : timestamp 0 = "1970-01-01T00:00:00.000000Z" := by rfl

example : timestamp 951868799999999 = "2000-02-29T23:59:59.999999Z" := by rfl

end Log

end ConditionLang
