/-!
# Dates and moments

Days of the Gregorian calendar and moments of a day, with or without an offset from universal time.
A `Date` is valid by construction. Two moments with offsets are the same when they are the same
instant; a moment without an offset is never the same as one with it.
-/

namespace Automation

/-- The leap years of the Gregorian calendar. -/
def isLeapYear (year : Nat) : Bool := year % 4 == 0 && (year % 100 != 0 || year % 400 == 0)

/-- The number of days of a month; none when there is no such month. -/
def daysInMonth (year month : Nat) : Nat :=
  match month with
  | 1 => 31 | 2 => if isLeapYear year then 29 else 28 | 3 => 31 | 4 => 30 | 5 => 31 | 6 => 30
  | 7 => 31 | 8 => 31 | 9 => 30 | 10 => 31 | 11 => 30 | 12 => 31 | _ => 0

/-- A day of the years 1 to 9999. -/
structure Date where
  year : Nat
  month : Nat
  day : Nat
  valid : 1 ≤ year ∧ year ≤ 9999 ∧ 1 ≤ day ∧ day ≤ daysInMonth year month
  deriving DecidableEq, Repr

/-- The day with the given numbers, if there is one. -/
def Date.of? (year month day : Nat) : Option Date :=
  if h : 1 ≤ year ∧ year ≤ 9999 ∧ 1 ≤ day ∧ day ≤ daysInMonth year month then
    some ⟨year, month, day, h⟩
  else none

theorem Date.of?_eq_some_iff {year month day : Nat} {d : Date} :
    Date.of? year month day = some d ↔ d.year = year ∧ d.month = month ∧ d.day = day := by
  obtain ⟨y, m, n, valid⟩ := d
  unfold Date.of?
  split
  · simp [eq_comm]
  · rename_i h
    simp only [reduceCtorEq, false_iff]
    rintro ⟨rfl, rfl, rfl⟩
    exact h valid

/-- A day is never in a month without days, so its month is one of twelve. -/
theorem Date.month_le (d : Date) : d.month ≤ 12 := by
  obtain ⟨y, m, n, valid⟩ := d
  simp only
  by_cases h : m ≤ 12
  · exact h
  · have : daysInMonth y m = 0 := by
      unfold daysInMonth
      split <;> omega
    omega

/-- The number of days since the first day of the year 1. -/
def Date.ordinal (d : Date) : Nat :=
  let before := d.year - 1
  let months := (List.range (d.month - 1)).foldl (fun n m => n + daysInMonth d.year (m + 1)) 0
  before * 365 + before / 4 - before / 100 + before / 400 + months + (d.day - 1)

/-- A day and a time of the day, at an offset in seconds from universal time if one is given. -/
structure Moment where
  date : Date
  hour : Nat
  minute : Nat
  second : Nat
  micro : Nat
  offset : Option Int
  deriving DecidableEq, Repr

namespace Moment

/-- The microseconds from the first day of the year 1, by the clock of the moment. -/
def clock (t : Moment) : Int :=
  (((t.date.ordinal * 24 + t.hour) * 60 + t.minute) * 60 + t.second) * 1000000 + t.micro

/-- The microseconds from the first day of the year 1 by universal time; by the clock of the moment
when it has no offset. -/
def instant (t : Moment) : Int := t.clock - t.offset.getD 0 * 1000000

/-- The order of two moments; a moment with an offset has none with a moment without. -/
def compare? (a b : Moment) : Option Ordering :=
  if a.offset.isSome = b.offset.isSome then some (compare a.instant b.instant) else none

end Moment

/-- A number with at least the given count of digits. -/
def padded (width n : Nat) : String :=
  let digits := Nat.toDigits 10 n
  String.ofList (List.replicate (width - digits.length) '0' ++ digits)

/-- A day as year, month and day. -/
def Date.render (d : Date) : String :=
  padded 4 d.year ++ "-" ++ padded 2 d.month ++ "-" ++ padded 2 d.day

/-- An offset as a sign, hours and minutes, and seconds when there are any. -/
def renderOffset (offset : Int) : String :=
  let n := offset.natAbs
  (if offset < 0 then "-" else "+") ++ padded 2 (n / 3600) ++ ":" ++ padded 2 (n / 60 % 60)
    ++ (if n % 60 = 0 then "" else ":" ++ padded 2 (n % 60))

/-- A moment as day and time with the given text between them; a fraction of the second has six
digits and is left out when it is zero. -/
def Moment.render (between : String) (t : Moment) : String :=
  t.date.render ++ between ++ padded 2 t.hour ++ ":" ++ padded 2 t.minute ++ ":"
    ++ padded 2 t.second ++ (if t.micro = 0 then "" else "." ++ padded 6 t.micro)
    ++ (match t.offset with | some o => renderOffset o | none => "")

example : (Date.of? 2024 2 29).isSome = true ∧ (Date.of? 2023 2 29).isSome = false := by decide

end Automation
