/-!
# Instants and the calendar

An instant is a whole number of seconds since 1970 and a fraction of nanoseconds, so comparing whole
seconds is comparing the first field, also before 1970. The calendar is the proleptic Gregorian one
in coordinated universal time without leap seconds.
-/

namespace WebhookTrust

/-- An instant: whole seconds since the start of 1970, rounded down, and the nanoseconds past
them. -/
structure Instant where
  seconds : Int
  nanos : Nat
deriving DecidableEq, Repr, Inhabited

/-- The instant that many whole seconds later. -/
def Instant.addSeconds (instant : Instant) (seconds : Int) : Instant :=
  { instant with seconds := instant.seconds + seconds }

/-- The instant that many nanoseconds later, which are less than a second in either direction, so at
most one second is carried over. -/
def Instant.addNanos (instant : Instant) (nanos : Int) : Instant :=
  let sum := instant.nanos + nanos
  if sum < 0 then ⟨instant.seconds - 1, (sum + 1000000000).toNat⟩
  else if sum < 1000000000 then ⟨instant.seconds, sum.toNat⟩
  else ⟨instant.seconds + 1, (sum - 1000000000).toNat⟩

namespace Calendar

/-- A date and a time of day. -/
structure DateTime where
  year : Int
  month : Nat
  day : Nat
  hour : Nat
  minute : Nat
  second : Nat
deriving DecidableEq, Repr, Inhabited

/-- Every fourth year is a leap year, but of the centuries only every fourth. -/
def isLeap (year : Int) : Bool := year % 4 = 0 && (year % 100 ≠ 0 || year % 400 = 0)

/-- How many days a month has. -/
def daysInMonth (year : Int) (month : Nat) : Nat :=
  if month = 2 then (if isLeap year then 29 else 28)
  else if month = 4 ∨ month = 6 ∨ month = 9 ∨ month = 11 then 30
  else 31

/-- Is the date in the calendar, and the time of day on the clock? -/
def DateTime.isValid (t : DateTime) : Bool :=
  1 ≤ t.month && t.month ≤ 12 && 1 ≤ t.day && t.day ≤ daysInMonth t.year t.month &&
    t.hour < 24 && t.minute < 60 && t.second < 60

/-- The days from the start of 1970 to a date. Years start in March here, which puts the leap day at
their end; 719468 days lie between the March that starts year 0 and 1970. -/
def daysFromDate (year : Int) (month day : Nat) : Int :=
  let y := if month ≤ 2 then year - 1 else year
  let monthFromMarch := (month + 9) % 12
  let dayOfYear := (153 * monthFromMarch + 2) / 5 + day - 1
  y * 365 + y / 4 - y / 100 + y / 400 + dayOfYear - 719468

/-- The seconds from the start of 1970 to a date and time of day. -/
def DateTime.seconds (t : DateTime) : Int :=
  daysFromDate t.year t.month t.day * 86400 + t.hour * 3600 + t.minute * 60 + t.second

/-- The year, month and day that many days after the start of 1970. The day is counted in its cycle
of 400 years, which start in March. -/
def dateFromDays (days : Int) : Int × Nat × Nat :=
  let shifted := days + 719468
  let cycle := shifted / 146097
  let dayOfCycle := (shifted % 146097).toNat
  let yearOfCycle :=
    (dayOfCycle - dayOfCycle / 1460 + dayOfCycle / 36524 - dayOfCycle / 146096) / 365
  let dayOfYear := dayOfCycle - (365 * yearOfCycle + yearOfCycle / 4 - yearOfCycle / 100)
  let monthFromMarch := (5 * dayOfYear + 2) / 153
  let day := dayOfYear - (153 * monthFromMarch + 2) / 5 + 1
  let month := if monthFromMarch < 10 then monthFromMarch + 3 else monthFromMarch - 9
  (yearOfCycle + cycle * 400 + (if month ≤ 2 then 1 else 0), month, day)

/-- The date and time of day at that many seconds after the start of 1970. -/
def DateTime.ofSeconds (seconds : Int) : DateTime :=
  let (year, month, day) := dateFromDays (seconds / 86400)
  let rest := (seconds % 86400).toNat
  { year, month, day, hour := rest / 3600, minute := rest / 60 % 60, second := rest % 60 }

/-- A natural number in decimal with zeros in front up to `width` digits. -/
def padded (width n : Nat) : String :=
  String.ofList (List.replicate (width - (Nat.repr n).length) '0') ++ Nat.repr n

end Calendar

end WebhookTrust
