/-!
# Points in time as text

Milliseconds since the start of 1970 in universal time, set as a date of the Gregorian calendar and
a time of day. The hour has no leading zero, and the fraction of a second ends in no zero unless it
is zero itself. Years of more than six digits are not written as dates: there the milliseconds stand
alone.
-/

namespace ServerCursor.Text

/-- Day of a month of a year. -/
structure Date where
  /-- The year; the year before year one is zero. -/
  year : Int
  /-- The month, from one. -/
  month : Nat
  /-- The day, from one. -/
  day : Nat
  deriving DecidableEq, Repr

/-- The date a number of days after the first of January 1970. Years are counted from March, so
that the leap day is the last of its year, in eras of four hundred years. -/
def Date.ofDays (days : Int) : Date :=
  let shifted := days + 719468
  let era := shifted.fdiv 146097
  let dayOfEra := (shifted.fmod 146097).toNat
  let yearOfEra := (dayOfEra - dayOfEra / 1460 + dayOfEra / 36524 - dayOfEra / 146096) / 365
  let dayOfYear := dayOfEra - (365 * yearOfEra + yearOfEra / 4 - yearOfEra / 100)
  let fromMarch := (5 * dayOfYear + 2) / 153
  let day := dayOfYear - (153 * fromMarch + 2) / 5 + 1
  let month := if fromMarch < 10 then fromMarch + 3 else fromMarch - 9
  let year : Int := yearOfEra + 400 * era
  ⟨if month ≤ 2 then year + 1 else year, month, day⟩

/-- A number filled up with zeros on the left. -/
def padded (width n : Nat) : String :=
  let cs := Nat.toDigits 10 n
  String.ofList (List.replicate (width - cs.length) '0' ++ cs)

/-- A year has at least four digits, and more only behind a sign. -/
def renderYear (year : Int) : String :=
  (if year < 0 then "-" else if 9999 < year then "+" else "") ++ padded 4 year.natAbs

/-- The digits of a fraction of a second in thousandths, without needless zeros at the end. -/
def renderThousandths (n : Nat) : String :=
  if n % 100 = 0 then padded 1 (n / 100)
  else if n % 10 = 0 then padded 2 (n / 10)
  else padded 3 n

/-- Year, month and day. -/
def Date.render (date : Date) : String :=
  renderYear date.year ++ "-" ++ padded 2 date.month ++ "-" ++ padded 2 date.day

/-- A time of day, in milliseconds since midnight. -/
def renderTimeOfDay (millis : Nat) : String :=
  toString (millis / 3600000) ++ ":" ++ padded 2 (millis / 60000 % 60) ++ ":" ++
    padded 2 (millis / 1000 % 60) ++ "." ++ renderThousandths (millis % 1000)

/-- The greatest year that is written, before and after year zero. -/
def greatestYear : Nat := 999999

/-- A point in time, in milliseconds since the start of 1970. -/
def renderInstant (millis : Int) : String :=
  let date := Date.ofDays (millis.fdiv 86400000)
  if greatestYear < date.year.natAbs then toString millis
  else date.render ++ " " ++ renderTimeOfDay (millis.fmod 86400000).toNat ++ " +00:00:00"

example : renderInstant 951868799999 = "2000-02-29 23:59:59.999 +00:00:00" := by decide +kernel

example : renderInstant 253402300800000 = "+10000-01-01 0:00:00.0 +00:00:00" := by decide +kernel

example : renderInstant (-377705116800001) = "-10000-12-31 23:59:59.999 +00:00:00" := by
  decide +kernel

end ServerCursor.Text
