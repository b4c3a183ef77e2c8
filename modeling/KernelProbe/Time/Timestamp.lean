import KernelProbe.Text.Numeral

/-!
# Time stamps

A time stamp counts milliseconds from the start of 1970 in UTC. `Timestamp.text` writes it as a
calendar date and time of day with the offset `+00:00`; milliseconds show only when there are any,
years outside 0 to 9999 carry a sign, and a stamp beyond the calendar's range is written as its
number of milliseconds.
-/

namespace KernelProbe

namespace Timestamp

/-- A day of the Gregorian calendar. -/
structure Date where
  /-- The year, counted through zero. -/
  year : Int
  /-- The month, from 1. -/
  month : Nat
  /-- The day of the month, from 1. -/
  day : Nat
deriving DecidableEq, Repr

/-- The date of a day counted from 1 January 1970. The count is moved to 1 March of the year 0, from
where every 400 years have 146097 days and a leap day is the last of its year. -/
def Date.ofDays (days : Int) : Date :=
  let shifted := days + 719468
  let era := shifted.fdiv 146097
  let dayOfEra := (shifted.fmod 146097).toNat
  let yearOfEra := (dayOfEra - dayOfEra / 1460 + dayOfEra / 36524 - dayOfEra / 146096) / 365
  let dayOfYear := dayOfEra - (365 * yearOfEra + yearOfEra / 4 - yearOfEra / 100)
  let fromMarch := (5 * dayOfYear + 2) / 153
  let day := dayOfYear - (153 * fromMarch + 2) / 5 + 1
  let month := if fromMarch < 10 then fromMarch + 3 else fromMarch - 9
  let year := era * 400 + yearOfEra
  ⟨if month ≤ 2 then year + 1 else year, month, day⟩

/-- A year of at least four digits, signed when it is outside 0 to 9999. -/
def yearText (year : Int) : String :=
  if 0 ≤ year ∧ year ≤ 9999 then Text.zeroPadded 4 year.toNat
  else (if year < 0 then "-" else "+") ++ Text.zeroPadded 4 year.natAbs

/-- Milliseconds in a day. -/
def millisPerDay : Int := 86400000

/-- The first millisecond that has a calendar date. -/
def first : Int := -8334601228800000

/-- The last millisecond that has a calendar date. -/
def last : Int := 8210266876799999

/-- The written form of a time stamp. -/
def text (millis : Int) : String :=
  if millis < first ∨ last < millis then Text.integer millis
  else
    let date := Date.ofDays (millis.fdiv millisPerDay)
    let inDay := (millis.fmod millisPerDay).toNat
    let fraction :=
      if inDay % 1000 = 0 then "" else "." ++ Text.zeroPadded 3 (inDay % 1000)
    let second := inDay / 1000
    let clock := Text.zeroPadded 2 (second / 3600) ++ ":" ++ Text.zeroPadded 2 (second / 60 % 60)
      ++ ":" ++ Text.zeroPadded 2 (second % 60)
    yearText date.year ++ "-" ++ Text.zeroPadded 2 date.month ++ "-" ++ Text.zeroPadded 2 date.day
      ++ "T" ++ clock ++ fraction ++ "+00:00"

end Timestamp

end KernelProbe
