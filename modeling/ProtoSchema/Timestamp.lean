import ProtoSchema.Number.Decimal

/-!
Points in time as written: calendar date, time of day down to nanoseconds, and the offset from
universal time. They are read from the forms that schema files allow and written in two forms.
-/
namespace ProtoSchema

/-- A date and a time of day at an offset, in minutes, east of universal time. -/
structure Timestamp where
  year : Nat
  month : Nat
  day : Nat
  hour : Nat := 0
  minute : Nat := 0
  second : Nat := 0
  nanosecond : Nat := 0
  offset : Int := 0
deriving Repr, DecidableEq, Inhabited

namespace Timestamp

open Number

/-- Whether the year has a 29th of February. -/
def isLeap (year : Nat) : Bool := year % 4 == 0 && (year % 100 != 0 || year % 400 == 0)

/-- The number of days of a month. -/
def daysIn (year month : Nat) : Nat :=
  if month == 2 then (if isLeap year then 29 else 28)
  else if [4, 6, 9, 11].contains month then 30 else 31

/-- Reads one digit or two. -/
def short? : List Char → Option (Nat × List Char)
  | a :: b :: r => if isDecimal a then
      if isDecimal b then some (ofDigits [a, b], r) else some (ofDigits [a], b :: r)
    else none
  | [a] => if isDecimal a then some (ofDigits [a], []) else none
  | [] => none

/-- Reads exactly two digits. -/
def pair? : List Char → Option (Nat × List Char)
  | a :: b :: r => if isDecimal a && isDecimal b then some (ofDigits [a, b], r) else none
  | _ => none

/-- Reads a given character. -/
def mark? (c : Char) : List Char → Option (List Char)
  | d :: r => if c == d then some r else none
  | [] => none

/-- Reads a date: a year of four digits, a month and a day that the month has. -/
def date? (s : List Char) : Option (Timestamp × List Char) := do
  let year := s.takeWhile isDecimal
  if year.length ≠ 4 then none
  let r ← mark? '-' (s.dropWhile isDecimal)
  let (month, r) ← short? r
  let r ← mark? '-' r
  let (day, r) ← short? r
  let y := ofDigits year
  if 1 ≤ month && month ≤ 12 && 1 ≤ day && day ≤ daysIn y month then
    some (Timestamp.mk y month day 0 0 0 0 0, r)
  else none

/-- Reads an optional fraction of a second; digits after the ninth are dropped. -/
def fraction (s : List Char) : Nat × List Char :=
  match s with
  | c :: r =>
    let ds := r.takeWhile isDecimal
    if (c == '.' || c == ',') && !ds.isEmpty then
      let kept := ds.take 9
      (ofDigits kept * Nat.pow 10 (9 - kept.length), r.dropWhile isDecimal)
    else (0, s)
  | [] => (0, [])

/-- Reads a time of day and sets it. -/
def clock? (t : Timestamp) (s : List Char) : Option (Timestamp × List Char) := do
  let (hour, r) ← short? s
  let r ← mark? ':' r
  let (minute, r) ← short? r
  let r ← mark? ':' r
  let (second, r) ← short? r
  if hour < 24 && minute < 60 && second < 60 then
    let (nanosecond, r) := fraction r
    some ({ t with hour := hour, minute := minute, second := second, nanosecond := nanosecond }, r)
  else none

/-- Reads an offset to the end of the text: `Z`, or a sign, hours and minutes. -/
def zone? : List Char → Option Int
  | ['Z'] => some 0
  | c :: r => do
    let (hours, r) ← pair? r
    let r ← mark? ':' r
    let (minutes, r) ← pair? r
    if r.isEmpty && hours ≤ 24 && minutes ≤ 60 then
      let n : Int := 60 * hours + minutes
      if c == '+' then some n else if c == '-' then some (-n) else none
    else none
  | [] => none

/-- Reads a point in time: a date; a date, spaces and a time of day; or a date, `T` or `t`, a time
of day and an offset. -/
def parse? (s : List Char) : Option Timestamp := do
  let (t, r) ← date? s
  match r with
  | [] => some t
  | ' ' :: r =>
    let (t, r) ← clock? t (r.dropWhile (· == ' '))
    if r.isEmpty then some t else none
  | c :: r =>
    if c == 'T' || c == 't' then
      let (t, r) ← clock? t r
      let offset ← zone? r
      some { t with offset := offset }
    else none

/-- The fraction of a second with its point, without zeros at the end. -/
def fractionText (t : Timestamp) : List Char :=
  if t.nanosecond = 0 then []
  else '.' :: ((padded 9 t.nanosecond).reverse.dropWhile (· == '0')).reverse

/-- The offset as a sign, hours, `sep` and minutes. -/
def offsetText (t : Timestamp) (sep : List Char) : List Char :=
  let n := t.offset.natAbs
  (if t.offset < 0 then '-' else '+') :: padded 2 (n / 60) ++ sep ++ padded 2 (n % 60)

/-- Year, month and day. -/
def dateText (t : Timestamp) : List Char :=
  padded 4 t.year ++ ['-'] ++ padded 2 t.month ++ ['-'] ++ padded 2 t.day

/-- Hours, minutes and seconds. -/
def clockText (t : Timestamp) : List Char :=
  padded 2 t.hour ++ [':'] ++ padded 2 t.minute ++ [':'] ++ padded 2 t.second ++ t.fractionText

/-- The compact form, such as `2001-12-14T21:59:43.1-05:00`. -/
def compact (t : Timestamp) : String :=
  String.ofList (t.dateText ++ ['T'] ++ t.clockText ++
    (if t.offset = 0 then ['Z'] else t.offsetText [':']))

/-- The long form, such as `2001-12-14 21:59:43.1 -0500 -0500`; the last part names the zone. -/
def long (t : Timestamp) : String :=
  let offset := t.offsetText []
  String.ofList (t.dateText ++ [' '] ++ t.clockText ++ [' '] ++ offset ++ [' '] ++
    (if t.offset = 0 then ['U', 'T', 'C'] else offset))

end Timestamp

end ProtoSchema
