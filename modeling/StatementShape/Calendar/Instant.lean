import StatementShape.Calendar.Date

/-!
# Times and instants

Times of day down to the microsecond, and instants: a date with a time of day, in coordinated
universal time. A cutoff some days before an instant keeps its time of day.

## Main definitions

* `Time`, `Time.text`: times of day
* `Instant`, `Instant.text`, `Instant.stamp`: instants, and as they are written
* `Instant.cutoff?`: the instant some days before, if the calendar has it
* `Instant.ofClock`: an instant by the count of a clock
* `Instant.ofText?`: an instant from its written form
-/

namespace StatementShape.Calendar

open Number (digitsValue padLeft)

/-- Times of day. -/
structure Time where
  hour : Nat
  minute : Nat
  second : Nat
  microsecond : Nat
  deriving DecidableEq, Repr

namespace Time

/-- The beginning of a day. -/
def midnight : Time := { hour := 0, minute := 0, second := 0, microsecond := 0 }

/-- A time in digits, with a fraction only where it is not zero. -/
def text (t : Time) : String :=
  padLeft 2 t.hour ++ ":" ++ padLeft 2 t.minute ++ ":" ++ padLeft 2 t.second
    ++ if t.microsecond = 0 then "" else "." ++ padLeft 6 t.microsecond

/-- The microseconds that have passed of the day. -/
def elapsed (t : Time) : Nat :=
  ((t.hour * 60 + t.minute) * 60 + t.second) * 1000000 + t.microsecond

/-- The time of day at which so many microseconds have passed. -/
def ofElapsed (n : Nat) : Time :=
  { hour := n / 3600000000 % 24, minute := n / 60000000 % 60, second := n / 1000000 % 60,
    microsecond := n % 1000000 }

/-- Microseconds of a fraction given by its digits; those beyond the sixth do not count. -/
def fraction (digits : List Char) : Nat :=
  digitsValue ((digits ++ List.replicate (6 - digits.length) '0').take 6)

end Time

/-- Instants in coordinated universal time. -/
structure Instant where
  date : Date
  time : Time
  deriving DecidableEq, Repr

/-- A moment of the calendar: the number of a day, and a time of that day. -/
structure Moment where
  ordinal : Nat
  time : Time
  deriving DecidableEq, Repr

namespace Instant

/-- An instant in digits, with a mark between date and time. -/
def text (mark : String) (i : Instant) : String := i.date.text ++ mark ++ i.time.text

/-- The stamp of an instant, which names its time zone. -/
def stamp (i : Instant) : String := i.text "T" ++ "+00:00"

/-- The number of the day from which clocks count: the first of the year 1970. -/
def clockOrdinal : Nat := 719163

/-- The instant at which a clock has counted so many microseconds. -/
def ofClock (microseconds : Nat) : Instant :=
  { date := Date.ofOrdinal (clockOrdinal + microseconds / 86400000000),
    time := Time.ofElapsed (microseconds % 86400000000) }

/-- The microseconds of universal time at an instant that is given so many minutes ahead of it. -/
def universal (i : Instant) (ahead : Int) : Int :=
  (i.date.ordinal * 1440 - ahead) * 60000000 + i.time.elapsed

/-- More days than this are never counted. -/
def mostDays : Nat := 999999999

/-- The cutoff some days before an instant, or after it if their number is negative; none if the
calendar does not have it. -/
def cutoff? (i : Instant) (days : Int) : Option Moment :=
  let ordinal := (i.date.ordinal : Int) - days
  if days.natAbs ≤ mostDays ∧ 1 ≤ ordinal ∧ ordinal ≤ lastOrdinal then
    some { ordinal := ordinal.toNat, time := i.time }
  else none

end Instant

/-- Whether the beginning of a day is before a moment. -/
def Date.isBefore (d : Date) (m : Moment) : Bool :=
  d.ordinal < m.ordinal || (d.ordinal = m.ordinal && 0 < m.time.elapsed)

/-! ### Reading -/

/-- A number of exactly `n` digits in front of a text. -/
def digitsOf (n : Nat) (cs : List Char) : Option (Nat × List Char) :=
  let ds := cs.take n
  if ds.length = n ∧ ds.all Char.isDigit then some (digitsValue ds, cs.drop n) else none

/-- A date in front of a text. -/
def dateIn (cs : List Char) : Option (Date × List Char) :=
  match digitsOf 4 cs with
  | some (year, '-' :: cs) =>
    match digitsOf 2 cs with
    | some (month, '-' :: cs) => (digitsOf 2 cs).map fun (day, cs) => ({ year, month, day }, cs)
    | _ => none
  | _ => none

/-- A number behind a mark, or zero where the mark is missing. -/
def behindMark (mark : Char) (cs : List Char) : Option (Nat × List Char) :=
  match cs with
  | c :: rest => if c = mark then digitsOf 2 rest else some (0, c :: rest)
  | [] => some (0, [])

/-- A time of day in front of a text; minutes, seconds and a fraction may be left out. -/
def timeIn (cs : List Char) : Option (Time × List Char) := do
  let (hour, cs) ← digitsOf 2 cs
  let (minute, cs) ← behindMark ':' cs
  let (second, cs) ← behindMark ':' cs
  match cs with
  | '.' :: rest =>
    let digits := rest.takeWhile Char.isDigit
    return ({ hour, minute, second, microsecond := Time.fraction digits },
      rest.dropWhile Char.isDigit)
  | cs => return ({ hour, minute, second, microsecond := 0 }, cs)

/-- An instant from its written form: a date, and a time behind any mark. Without a time it is
the beginning of the day. -/
def Instant.ofText? (cs : List Char) : Option Instant := do
  let (date, cs) ← dateIn cs
  match cs with
  | [] => return { date, time := Time.midnight }
  | _ :: cs =>
    let (time, cs) ← timeIn cs
    if cs = [] ∨ cs = ['Z'] ∨ cs = "+00:00".toList then return { date, time } else none

end StatementShape.Calendar
