import MetaSchema.Text.Numeral

/-!
# Timestamps

A date and a time of day at an offset from UTC, in the form of RFC 3339: years of four digits, the
proleptic Gregorian calendar, offsets below 24 hours, and second 60 in any minute.

* `Timestamp`: the fields as they are written, with a fraction of nine digits.
* `Timestamp.ofChars?`: reading.
* `Timestamp.toChars`: the text, with `T`, with the offset in digits, and with the fraction in
  groups of three digits.
* `Timestamp.seconds`, `Timestamp.nanos`: the instant. Second 60 counts as second 59 with
  1,000,000,000 more nanoseconds.
-/

namespace MetaSchema.Value

open Text

/-- The fields of a timestamp; `offset` is in seconds east of UTC. -/
structure Timestamp where
  year : Nat
  month : Nat
  day : Nat
  hour : Nat
  minute : Nat
  second : Nat
  fraction : Nat
  offset : Int
deriving DecidableEq, Repr

namespace Timestamp

/-! ## The calendar -/

def isLeapYear (year : Nat) : Bool :=
  year % 4 == 0 && (year % 100 != 0 || year % 400 == 0)

/-- The number of days in a month; zero for a number that is no month. -/
def daysInMonth (year month : Nat) : Nat :=
  match month with
  | 1 | 3 | 5 | 7 | 8 | 10 | 12 => 31
  | 4 | 6 | 9 | 11 => 30
  | 2 => if isLeapYear year then 29 else 28
  | _ => 0

/-- The days from the start of year 0 to the start of `year`. -/
def daysBeforeYear (year : Nat) : Nat :=
  365 * year + (year + 3) / 4 - (year + 99) / 100 + (year + 399) / 400

/-- The days from the start of `year` to the start of a month. -/
def daysBeforeMonth (year : Nat) : Nat → Nat
  | 0 => 0
  | month + 1 => daysBeforeMonth year month + daysInMonth year month

/-- The days from 1970-01-01 to the date of `t`. -/
def days (t : Timestamp) : Int :=
  (daysBeforeYear t.year + daysBeforeMonth t.year t.month + (t.day - 1) : Nat)
    - daysBeforeYear 1970

/-- The whole seconds from 1970-01-01T00:00:00Z, second 60 taken as 59. -/
def seconds (t : Timestamp) : Int :=
  t.days * 86400 + (t.hour * 3600 + t.minute * 60 + min t.second 59 : Nat) - t.offset

/-- The nanoseconds after `seconds`. -/
def nanos (t : Timestamp) : Nat :=
  if t.second = 60 then 1000000000 + t.fraction else t.fraction

/-- Two timestamps of one instant. -/
def sameInstant (a b : Timestamp) : Bool := a.seconds == b.seconds && a.nanos == b.nanos

/-- Fields within their ranges. -/
def inRange (t : Timestamp) : Bool :=
  1 ≤ t.day && t.day ≤ daysInMonth t.year t.month && t.hour < 24 && t.minute < 60 &&
    t.second ≤ 60

/-! ## Reading -/

/-- Reads exactly `n` digits after the number `acc`. -/
def digits? : Nat → Nat → List Char → Option (Nat × List Char)
  | 0, acc, cs => some (acc, cs)
  | _ + 1, _, [] => none
  | n + 1, acc, c :: r => (digit? c).bind fun d => digits? n (10 * acc + d) r

/-- Reads one character of a class. -/
def skip? (p : Char → Bool) : List Char → Option (List Char)
  | [] => none
  | c :: r => if p c then some r else none

/-- Reads a fraction of a second if there is one, as nanoseconds; digits after the ninth are read
and dropped. -/
def fraction? : List Char → Option (Nat × List Char)
  | '.' :: r =>
    let ds := r.takeWhile isDigit
    if ds = [] then none
    else
      let nine := (ds ++ List.replicate 9 '0').take 9
      (natural? nine).map fun n => (n, r.dropWhile isDigit)
  | cs => some (0, cs)

/-- Reads the sign of an offset: whether it is west of UTC. The sign U+2212 is read as `-`. -/
def offsetSign? : List Char → Option (Bool × List Char)
  | '+' :: r => some (false, r)
  | '-' :: r => some (true, r)
  | '−' :: r => some (true, r)
  | _ => none

/-- Reads an offset, `Z` or hours and minutes, in seconds east of UTC. -/
def offset? : List Char → Option (Int × List Char)
  | 'Z' :: r => some (0, r)
  | 'z' :: r => some (0, r)
  | cs => do
    let (west, cs) ← offsetSign? cs
    let (hours, cs) ← digits? 2 0 cs
    let cs ← skip? (· == ':') cs
    let (minutes, cs) ← digits? 2 0 cs
    guard (hours < 24 ∧ minutes < 60)
    let east : Int := (hours * 3600 + minutes * 60 : Nat)
    return (if west then -east else east, cs)

/-- The characters that may stand between the date and the time. -/
def isDateEnd (c : Char) : Bool := c == 'T' || c == 't' || c == ' '

/-- Reads a whole timestamp. -/
def ofChars? (cs : List Char) : Option Timestamp := do
  let (year, cs) ← digits? 4 0 cs
  let cs ← skip? (· == '-') cs
  let (month, cs) ← digits? 2 0 cs
  let cs ← skip? (· == '-') cs
  let (day, cs) ← digits? 2 0 cs
  let cs ← skip? isDateEnd cs
  let (hour, cs) ← digits? 2 0 cs
  let cs ← skip? (· == ':') cs
  let (minute, cs) ← digits? 2 0 cs
  let cs ← skip? (· == ':') cs
  let (second, cs) ← digits? 2 0 cs
  let (fraction, cs) ← fraction? cs
  let (offset, cs) ← offset? cs
  let t : Timestamp := { year, month, day, hour, minute, second, fraction, offset }
  guard (cs = [] ∧ t.inRange)
  return t

/-! ## Writing -/

/-- The digits of `n`, with zeros in front to make `width` digits. -/
def padded (width n : Nat) : List Char :=
  List.replicate (width - (naturalText n).length) '0' ++ naturalText n

/-- A fraction of a second in nanoseconds, with as few groups of three digits as show it. -/
def fractionText (n : Nat) : List Char :=
  if n = 0 then []
  else if n % 1000000 = 0 then '.' :: padded 3 (n / 1000000)
  else if n % 1000 = 0 then '.' :: padded 6 (n / 1000)
  else '.' :: padded 9 n

def offsetText (offset : Int) : List Char :=
  let minutes := offset.natAbs / 60
  (if offset < 0 then '-' else '+') :: (padded 2 (minutes / 60) ++ ':' :: padded 2 (minutes % 60))

def toChars (t : Timestamp) : List Char :=
  padded 4 t.year ++ '-' :: padded 2 t.month ++ '-' :: padded 2 t.day ++ 'T' :: padded 2 t.hour
    ++ ':' :: padded 2 t.minute ++ ':' :: padded 2 t.second ++ fractionText t.fraction
    ++ offsetText t.offset

example : (ofChars? "1969-12-31 23:59:60.5z".toList).map (fun t => (t.toChars, t.seconds, t.nanos))
    = some ("1969-12-31T23:59:60.500+00:00".toList, -1, 1500000000) := by decide +kernel

end Timestamp

end MetaSchema.Value
