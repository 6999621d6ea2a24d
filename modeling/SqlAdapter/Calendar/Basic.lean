/-
Dates, times of day and their pairs, in the proleptic Gregorian calendar.

A time of day may be a leap second, second 60 of any minute. Times with a
zone are kept in UTC: `Moment.ofLocal` takes the offset off, which moves the
minute, the hour and at most one day, and never the second.

The text of a date has at least four digits of year, with a sign where the year
is negative or has more; the text of a time has a fraction of three, six or nine
digits where one is needed.
-/
import SqlAdapter.Text.Digits

namespace SqlAdapter

/-! ## Dates -/

def isLeapYear (year : Int) : Bool := year % 4 = 0 && (year % 100 ≠ 0 || year % 400 = 0)

/-- The number of days in a month; zero for numbers that are no month. -/
def daysInMonth (year : Int) (month : Nat) : Nat :=
  match month with
  | 1 | 3 | 5 | 7 | 8 | 10 | 12 => 31
  | 4 | 6 | 9 | 11 => 30
  | 2 => if isLeapYear year then 29 else 28
  | _ => 0

/-- Is there such a day in the years that dates can hold? -/
def isDay (year : Int) (month day : Nat) : Bool :=
  -262143 ≤ year && year ≤ 262142 && 1 ≤ day && day ≤ daysInMonth year month

/-- A calendar day. -/
structure Date where
  year : Int
  month : Nat
  day : Nat
  valid : isDay year month day = true
  deriving DecidableEq

namespace Date

def make? (year : Int) (month day : Nat) : Option Date :=
  if h : isDay year month day = true then some ⟨year, month, day, h⟩ else none

/-- The day after; none after the last day there is. -/
def next? (d : Date) : Option Date :=
  if d.day < daysInMonth d.year d.month then make? d.year d.month (d.day + 1)
  else if d.month < 12 then make? d.year (d.month + 1) 1
  else make? (d.year + 1) 1 1

/-- The day before; none before the first day there is. -/
def previous? (d : Date) : Option Date :=
  if 1 < d.day then make? d.year d.month (d.day - 1)
  else if 1 < d.month then make? d.year (d.month - 1) (daysInMonth d.year (d.month - 1))
  else make? (d.year - 1) 12 31

/-- The digits of `n`, zeros in front up to a width. -/
def padded (width n : Nat) : List Char :=
  let digits := decimalChars n
  List.replicate (width - digits.length) '0' ++ digits

/-- Year, month and day with hyphens between. -/
def chars (d : Date) : List Char :=
  let sign := if d.year < 0 then ['-'] else if 9999 < d.year then ['+'] else []
  sign ++ padded 4 d.year.natAbs ++ '-' :: padded 2 d.month ++ '-' :: padded 2 d.day

end Date

/-! ## Times of day -/

/-- A time of day to the nanosecond; second 60 is a leap second. -/
structure Time where
  hour : Fin 24
  minute : Fin 60
  second : Fin 61
  nanosecond : Fin 1000000000
  deriving DecidableEq

namespace Time

def make? (hour minute second nanosecond : Nat) : Option Time :=
  if h : hour < 24 ∧ minute < 60 ∧ second < 61 ∧ nanosecond < 1000000000 then
    some ⟨⟨hour, h.1⟩, ⟨minute, h.2.1⟩, ⟨second, h.2.2.1⟩, ⟨nanosecond, h.2.2.2⟩⟩
  else none

/-- The fraction of a second with its point: nothing, three, six or nine digits. -/
def fraction (nanosecond : Nat) : List Char :=
  if nanosecond = 0 then []
  else if nanosecond % 1000000 = 0 then '.' :: Date.padded 3 (nanosecond / 1000000)
  else if nanosecond % 1000 = 0 then '.' :: Date.padded 6 (nanosecond / 1000)
  else '.' :: Date.padded 9 nanosecond

/-- Hour, minute and second with colons between, then the fraction. -/
def chars (t : Time) : List Char :=
  Date.padded 2 t.hour ++ ':' :: Date.padded 2 t.minute ++ ':' :: Date.padded 2 t.second ++
    fraction t.nanosecond

end Time

/-! ## Days with a time -/

/-- A day and a time of it, in no zone. -/
structure Timestamp where
  date : Date
  time : Time
  deriving DecidableEq

/-- A day and a time of it in UTC. -/
structure Moment where
  date : Date
  time : Time
  deriving DecidableEq

/-- Day and time with a space between. -/
def Timestamp.chars (t : Timestamp) : List Char := t.date.chars ++ ' ' :: t.time.chars

namespace Moment

/-- Day and time with a `T` between, and the offset of UTC. -/
def chars (m : Moment) : List Char := m.date.chars ++ 'T' :: m.time.chars ++ ['+', '0', '0', ':', '0', '0']

/-- The moment at which clocks that run `offset` minutes ahead of UTC show a local time. -/
def ofLocal (t : Timestamp) (offset : Int) : Option Moment :=
  let minutes : Int := t.time.hour.val * 60 + t.time.minute.val - offset
  let time : Time := { t.time with
    hour := ⟨(minutes / 60 % 24).toNat % 24, Nat.mod_lt _ (by decide)⟩
    minute := ⟨(minutes % 60).toNat % 60, Nat.mod_lt _ (by decide)⟩ }
  if minutes < 0 then t.date.previous?.map fun date => ⟨date, time⟩
  else if 1440 ≤ minutes then t.date.next?.map fun date => ⟨date, time⟩
  else some ⟨t.date, time⟩

end Moment

end SqlAdapter
