/-
Reading dates and times.

The lenient readers take year, month and so on as numbers that may be shorter
than usual and may follow white space; a year without a sign has at most four
digits, one with a sign any number. The fraction of a second is optional and
cut to nine digits.

The strict reader takes one form only: full-width numbers, a `T` (or `t`, or a
space) between day and time, and at the end `Z` or an offset in hours and
minutes.
-/
import SqlAdapter.Calendar.Basic
import SqlAdapter.Text.Blank

namespace SqlAdapter

namespace Calendar

/-- A reader takes characters off the front of a text, or refuses it. -/
abbrev Reader (α : Type) := List Char → Option (α × List Char)

/-- At least `least` and at most `most` digits, as a number; it must fit into 63 bits. -/
def number (least most : Nat) : Reader Nat := fun cs =>
  let digits := (cs.take most).takeWhile isDigit
  let value := decimalValue digits
  if digits.length < least ∨ 2 ^ 63 ≤ value then none else some (value, cs.drop digits.length)

/-- All digits up to the first other character, as a number; it must fit into 63 bits. -/
def longNumber : Reader Nat := fun cs => number 1 cs.length cs

/-- One given character. -/
def char (expected : Char) : Reader Unit
  | c :: cs => if c = expected then some ((), cs) else none
  | [] => none

/-- White space, then a number of one or two digits. -/
def shortNumber : Reader Nat := fun cs => number 1 2 (Text.trimStart cs)

/-- White space, then a year: a sign and any number of digits, or one to four digits. -/
def year : Reader Int := fun cs =>
  match Text.trimStart cs with
  | '-' :: rest => (longNumber rest).map fun (n, rest) => (-(n : Int), rest)
  | '+' :: rest => (longNumber rest).map fun (n, rest) => ((n : Int), rest)
  | rest => (number 1 4 rest).map fun (n, rest) => ((n : Int), rest)

/-- The digits after the point of a second as nanoseconds; past nine they are dropped. -/
def fractionDigits : Reader Nat := fun cs =>
  let digits := cs.takeWhile isDigit
  let kept := digits.take 9
  if kept = [] then none
  else some (decimalValue kept * 10 ^ (9 - kept.length), cs.drop digits.length)

/-- A point and digits, or nothing. -/
def fraction : Reader Nat
  | '.' :: cs => fractionDigits cs
  | cs => some (0, cs)

/-- Year, month and day, hyphens between. -/
def date : Reader Date := fun cs => do
  let (y, cs) ← year cs
  let (_, cs) ← char '-' cs
  let (m, cs) ← shortNumber cs
  let (_, cs) ← char '-' cs
  let (d, cs) ← shortNumber cs
  let date ← Date.make? y m d
  return (date, cs)

/-- Hour, minute and second, colons between, and an optional fraction. -/
def time : Reader Time := fun cs => do
  let (h, cs) ← shortNumber cs
  let (_, cs) ← char ':' cs
  let (m, cs) ← shortNumber cs
  let (_, cs) ← char ':' cs
  let (s, cs) ← shortNumber cs
  let (n, cs) ← fraction cs
  let time ← Time.make? h m s n
  return (time, cs)

/-- The value that a reader finds when it uses the whole text. -/
def whole {α : Type} (reader : Reader α) (cs : List Char) : Option α :=
  match reader cs with
  | some (value, []) => some value
  | _ => none

/-- A day, what stands between, and a time. -/
def timestampWith (between : Reader Unit) : Reader Timestamp := fun cs => do
  let (date, cs) ← date cs
  let (_, cs) ← between cs
  let (time, cs) ← time cs
  return (⟨date, time⟩, cs)

/-- `Z`, or a sign, two digits of hours, a colon and two digits of minutes, in minutes. -/
def offset : Reader Int
  | [] => none
  | c :: cs =>
    if c = 'Z' ∨ c = 'z' then some (0, cs)
    else if c = '+' ∨ c = '-' ∨ c = '\u2212' then do
      let (h, cs) ← number 2 2 cs
      let (_, cs) ← char ':' cs
      let (m, cs) ← number 2 2 cs
      if 60 ≤ m ∨ 24 ≤ h then none
      else
        let minutes : Int := h * 60 + m
        return (if c = '+' then minutes else -minutes, cs)
    else none

/-- A day and a time with an offset, full widths throughout. -/
def zoned : Reader Moment := fun cs => do
  let (y, cs) ← number 4 4 cs
  let (_, cs) ← char '-' cs
  let (m, cs) ← number 2 2 cs
  let (_, cs) ← char '-' cs
  let (d, cs) ← number 2 2 cs
  let (_, cs) ← match cs with
    | c :: cs => if c = 'T' ∨ c = 't' ∨ c = ' ' then some ((), cs) else none
    | [] => none
  let (hour, cs) ← number 2 2 cs
  let (_, cs) ← char ':' cs
  let (minute, cs) ← number 2 2 cs
  let (_, cs) ← char ':' cs
  let (second, cs) ← number 2 2 cs
  let (nanosecond, cs) ← fraction cs
  let (minutes, cs) ← offset cs
  let date ← Date.make? y m d
  let time ← Time.make? hour minute second nanosecond
  let moment ← Moment.ofLocal ⟨date, time⟩ minutes
  return (moment, cs)

end Calendar

/-- A date: year, month and day with hyphens. -/
def Date.read? (cs : List Char) : Option Date := Calendar.whole Calendar.date cs

/-- A time of day: hour, minute and second with colons. -/
def Time.read? (cs : List Char) : Option Time := Calendar.whole Calendar.time cs

/-- A day and a time with `T` or any white space between. -/
def Timestamp.read? (cs : List Char) : Option Timestamp :=
  (Calendar.whole (Calendar.timestampWith (Calendar.char 'T')) cs).or
    (Calendar.whole (Calendar.timestampWith fun cs => some ((), Text.trimStart cs)) cs)

/-- A day and a time with an offset from UTC. -/
def Moment.read? (cs : List Char) : Option Moment := Calendar.whole Calendar.zoned cs

end SqlAdapter
