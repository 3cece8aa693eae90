import Landmarks.Number.Decimal
import Landmarks.Yaml.Error

/-!
# Dates and times

* `Date`, `Moment` : a day, and a time of a day with an optional offset from UTC.
* `Stamp.read?` : the fields of a written date or time, whatever their values.
* `Stamp.check` : the date or time that the fields give, or the field that is out of range.
* `Moment.sameInstant` : when two times are the same.
* `Date.text`, `Date.literal` : a date as text, and as messages show it; so for `Moment`.
-/

namespace Landmarks.Yaml

open Number (isDigit digitsValue)

/-- A day. -/
structure Date where
  year : Nat
  month : Nat
  day : Nat
  deriving DecidableEq, Repr

/-- A time of a day. The offset from UTC is in seconds. -/
structure Moment where
  date : Date
  hour : Nat
  minute : Nat
  second : Nat
  micro : Nat
  offset : Option Int
  deriving DecidableEq, Repr

/-- A text without a line feed at its end, which the form of a scalar does not depend on. -/
def dropFinalFeed (cs : List Char) : List Char := if cs.getLast? == some '\n' then cs.dropLast else cs

/-- The fields of a written date or time. -/
structure Stamp where
  date : Date
  time : Option (Nat × Nat × Nat)
  fraction : List Char
  offset : Option Int
  deriving DecidableEq, Repr

namespace Stamp

/-- Between `least` and `most` digits, as many as there are, and the rest. -/
def digits? (least most : Nat) (cs : List Char) : Option (Nat × List Char) :=
  let ds := (cs.take most).takeWhile isDigit
  if ds.length < least then none else some (digitsValue ds, cs.drop ds.length)

/-- A character, and the rest. -/
def expect? (c : Char) : List Char → Option (List Char)
  | d :: rest => if d == c then some rest else none
  | [] => none

/-- What separates a date from a time. -/
def separator? : List Char → Option (List Char)
  | 'T' :: rest => some rest
  | 't' :: rest => some rest
  | cs =>
    let rest := cs.dropWhile fun c => c == ' ' || c == '\t'
    if rest.length < cs.length then some rest else none

/-- A fraction of a second, if there is one. -/
def splitFraction (cs : List Char) : List Char × List Char :=
  match cs with
  | '.' :: rest => (rest.takeWhile isDigit, rest.dropWhile isDigit)
  | _ => ([], cs)

/-- An offset from UTC in seconds, up to the end; none at all is allowed. -/
def zone? (cs : List Char) : Option (Option Int) :=
  if cs.isEmpty then some none
  else
    let signed (negative : Bool) (cs : List Char) : Option (Option Int) := do
      let (hours, cs) ← digits? 1 2 cs
      let (minutes, cs) ←
        match cs with
        | ':' :: rest => digits? 2 2 rest
        | _ => some (0, cs)
      if cs.isEmpty then
        let seconds : Int := 3600 * hours + 60 * minutes
        some (some (if negative then -seconds else seconds))
      else none
    match cs.dropWhile fun c => c == ' ' || c == '\t' with
    | ['Z'] => some (some 0)
    | '+' :: rest => signed false rest
    | '-' :: rest => signed true rest
    | _ => none

/-- The fields of a written date or time. A line feed at its end does not count. -/
def read? (text : List Char) : Option Stamp := do
  let (year, cs) ← digits? 4 4 (dropFinalFeed text)
  let (month, cs) ← digits? 1 2 (← expect? '-' cs)
  let (day, cs) ← digits? 1 2 (← expect? '-' cs)
  let date : Date := ⟨year, month, day⟩
  if cs.isEmpty then return ⟨date, none, [], none⟩
  else
    let (hour, cs) ← digits? 1 2 (← separator? cs)
    let (minute, cs) ← digits? 2 2 (← expect? ':' cs)
    let (second, cs) ← digits? 2 2 (← expect? ':' cs)
    let (frac, cs) := splitFraction cs
    return ⟨date, some (hour, minute, second), frac, ← zone? cs⟩

/-- Whether an untagged scalar is a date or a time: a date by itself has all its digits. -/
def isPlain (cs : List Char) : Bool :=
  match read? cs with
  | some s => s.time.isSome || (dropFinalFeed cs).length == 10
  | none => false

/-- The number of days in a month. -/
def daysIn (year month : Nat) : Nat :=
  if month == 2 then
    if year % 4 == 0 && (year % 100 != 0 || year % 400 == 0) then 29 else 28
  else if month == 4 || month == 6 || month == 9 || month == 11 then 30
  else 31

/-- The part of a date that is out of range. -/
def badPart? (d : Date) : Option DatePart :=
  if d.year == 0 then some (.year d.year)
  else if d.month == 0 || 12 < d.month then some .month
  else if d.day == 0 || daysIn d.year d.month < d.day then some .day
  else none

/-- The millionths of a second that the digits of a fraction give. -/
def micros (ds : List Char) : Nat :=
  let six := ds.take 6
  digitsValue (six ++ List.replicate (6 - six.length) '0')

/-- The date or the time that the fields give. -/
def check (s : Stamp) : Except Error (Date ⊕ Moment) :=
  match s.time with
  | none =>
    match badPart? s.date with
    | some part => .error (.badDate part)
    | none => .ok (.inl s.date)
  | some (hour, minute, second) =>
    match s.offset.filter fun o => o.natAbs ≥ 86400 with
    | some o => .error (.badDate (.offset o))
    | none =>
      match badPart? s.date with
      | some part => .error (.badDate part)
      | none =>
        if hour > 23 then .error (.badDate .hour)
        else if minute > 59 then .error (.badDate .minute)
        else if second > 59 then .error (.badDate .second)
        else .ok (.inr ⟨s.date, hour, minute, second, micros s.fraction, s.offset⟩)

end Stamp

/-- The days before a year. -/
def daysBeforeYear (year : Nat) : Int :=
  let y : Int := (year : Int) - 1
  365 * y + y / 4 - y / 100 + y / 400

/-- The days before a day, since the first of all. -/
def Date.ordinal (d : Date) : Int :=
  let days := (List.range (d.month - 1)).foldl (fun n m => n + Stamp.daysIn d.year (m + 1)) d.day
  daysBeforeYear d.year + days

/-- The microseconds since the first day, at an offset of zero if the offset is known. -/
def Moment.instant (m : Moment) : Int :=
  let minutes := (m.date.ordinal * 24 + m.hour) * 60 + m.minute
  ((minutes * 60 + m.second) - m.offset.getD 0) * 1000000 + m.micro

/-- Whether two times are the same instant; one with and one without an offset never are. -/
def Moment.sameInstant (m n : Moment) : Bool :=
  m.offset.isSome == n.offset.isSome && m.instant == n.instant

/-- A number with leading zeros up to a width. -/
def padded (width n : Nat) : String :=
  let ds := Nat.toDigits 10 n
  String.ofList (List.replicate (width - ds.length) '0' ++ ds)

/-- A date as text. -/
def Date.text (d : Date) : String := padded 4 d.year ++ "-" ++ padded 2 d.month ++ "-" ++ padded 2 d.day

/-- A date as messages show it. -/
def Date.literal (d : Date) : String :=
  "datetime.date(" ++ toString d.year ++ ", " ++ toString d.month ++ ", " ++ toString d.day ++ ")"

/-- An offset from UTC as text. -/
def offsetText (seconds : Int) : String :=
  let minutes := seconds.natAbs / 60
  (if seconds < 0 then "-" else "+") ++ padded 2 (minutes / 60) ++ ":" ++ padded 2 (minutes % 60)

/-- A time as text. -/
def Moment.text (m : Moment) : String :=
  m.date.text ++ " " ++ padded 2 m.hour ++ ":" ++ padded 2 m.minute ++ ":" ++ padded 2 m.second ++
    (if m.micro == 0 then "" else "." ++ padded 6 m.micro) ++
    (match m.offset with
      | some seconds => offsetText seconds
      | none => "")

/-- A time as messages show it; seconds and their fraction are left out from the end while zero. -/
def Moment.literal (m : Moment) : String :=
  let fields :=
    [m.date.year, m.date.month, m.date.day, m.hour, m.minute] ++
      (if m.micro != 0 then [m.second, m.micro] else if m.second != 0 then [m.second] else [])
  let zone :=
    match m.offset with
    | none => ""
    | some 0 => ", tzinfo=datetime.timezone.utc"
    | some seconds => ", tzinfo=datetime.timezone(" ++ durationText seconds ++ ")"
  "datetime.datetime(" ++ String.intercalate ", " (fields.map toString) ++ zone ++ ")"

end Landmarks.Yaml
