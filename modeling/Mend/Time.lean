import Mend.Text.Blank

/-!
# Moments

A moment is a count of seconds since the start of 1970 and of nanoseconds within the second. A leap
second is the second before it with more than a full count of nanoseconds. Moments are read from
calendar text with an offset, and written in universal time with as many groups of three decimals as
they need.
-/

namespace Mend

/-- A moment of universal time. -/
structure Time where
  seconds : Int
  nanos : Nat
  deriving DecidableEq, Repr, Inhabited

namespace Time

/-- The earlier moment, or the same. -/
def le (a b : Time) : Bool :=
  decide (a.seconds < b.seconds) || (decide (a.seconds = b.seconds) && decide (a.nanos ≤ b.nanos))

/-- Strictly earlier. -/
def lt (a b : Time) : Bool := !le b a

/-! ## The calendar -/

/-- The number of days from the start of 1970 to a date of the Gregorian calendar. -/
def daysFromDate (year : Int) (month day : Nat) : Int :=
  let y := if month ≤ 2 then year - 1 else year
  let era := y / 400
  let yoe := y % 400
  let m : Int := (month + 9) % 12
  let doy := (153 * m + 2) / 5 + day - 1
  let doe := yoe * 365 + yoe / 4 - yoe / 100 + doy
  era * 146097 + doe - 719468

/-- The date that many days after the start of 1970. -/
def dateFromDays (days : Int) : Int × Nat × Nat :=
  let z := days + 719468
  let era := z / 146097
  let doe := z % 146097
  let yoe := (doe - doe / 1460 + doe / 36524 - doe / 146096) / 365
  let doy := doe - (365 * yoe + yoe / 4 - yoe / 100)
  let mp := (5 * doy + 2) / 153
  let day := doy - (153 * mp + 2) / 5 + 1
  let month := if mp < 10 then mp + 3 else mp - 9
  let year := yoe + era * 400 + (if month ≤ 2 then 1 else 0)
  (year, month.toNat, day.toNat)

/-- Years that have a twenty-ninth of February. -/
def isLeap (year : Int) : Bool := year % 4 = 0 && (year % 100 ≠ 0 || year % 400 = 0)

/-- The number of days of a month. -/
def monthLength (year : Int) (month : Nat) : Nat :=
  if month = 2 then (if isLeap year then 29 else 28)
  else if month = 4 || month = 6 || month = 9 || month = 11 then 30
  else 31

/-- The earliest and the latest year of the calendar. -/
def firstYear : Int := -262143
/-- The latest year of the calendar. -/
def lastYear : Int := 262142

/-- The seconds of the moments that the calendar covers. -/
def inCalendar (seconds : Int) : Bool :=
  daysFromDate firstYear 1 1 * 86400 ≤ seconds && seconds < (daysFromDate lastYear 12 31 + 1) * 86400

/-! ## Writing -/

/-- A number with leading zeros up to a width. -/
def padded (width n : Nat) : String :=
  let ds := toString n
  String.ofList (List.replicate (width - ds.length) '0') ++ ds

/-- The year, with a sign if it has not four digits. -/
def yearText (year : Int) : String :=
  if 0 ≤ year && year ≤ 9999 then padded 4 year.toNat
  else (if year < 0 then "-" else "+") ++ padded 4 year.natAbs

/-- The moment in universal time with that many decimals: none, three, six or nine. -/
def render (places : Nat) (t : Time) : String :=
  let (year, month, day) := dateFromDays (t.seconds / 86400)
  let clock := (t.seconds % 86400).toNat
  let leap := if t.nanos ≥ 1000000000 then 1 else 0
  let nanos := t.nanos % 1000000000
  let date := yearText year ++ "-" ++ padded 2 month ++ "-" ++ padded 2 day
  let time := padded 2 (clock / 3600) ++ ":" ++ padded 2 (clock / 60 % 60) ++ ":" ++
    padded 2 (clock % 60 + leap)
  let part := if places = 0 then "" else "." ++ padded places (nanos / Nat.pow 10 (9 - places))
  date ++ "T" ++ time ++ part ++ "Z"

/-- The least of 0, 3, 6 and 9 decimals that loses nothing. -/
def placesNeeded (t : Time) : Nat :=
  let nanos := t.nanos % 1000000000
  if nanos = 0 then 0
  else if nanos % 1000000 = 0 then 3
  else if nanos % 1000 = 0 then 6
  else 9

/-- The moment as it is stored. -/
def toText (t : Time) : String := render t.placesNeeded t

/-! ## Reading -/

/-- A number of at least one and at most `width` digits. -/
def number? (width : Nat) (cs : List Char) : Option (Nat × List Char) :=
  let ds := (cs.take width).takeWhile Char.isDigit
  if ds.isEmpty then none
  else some (ds.foldl (fun n d => n * 10 + (d.toNat - 48)) 0, cs.drop ds.length)

/-- A number after blanks. -/
def part? (width : Nat) (cs : List Char) : Option (Nat × List Char) :=
  number? width (Text.trimStart cs)

/-- A year: four digits, or more with a sign. -/
def year? (cs : List Char) : Option (Int × List Char) :=
  match Text.trimStart cs with
  | '-' :: r => (number? r.length r).map fun (n, rest) => (-(n : Int), rest)
  | '+' :: r => (number? r.length r).map fun (n, rest) => ((n : Int), rest)
  | r => (number? 4 r).map fun (n, rest) => ((n : Int), rest)

/-- A separator after blanks. -/
def mark? (c : Char) (cs : List Char) : Option (List Char) :=
  match Text.trimStart cs with
  | x :: r => if x = c then some r else none
  | [] => none

/-- The decimals of a second, cut after the ninth. -/
def nanos? (cs : List Char) : Option (Nat × List Char) :=
  match cs with
  | '.' :: r =>
    let ds := r.takeWhile Char.isDigit
    if ds.isEmpty then none
    else
      let kept := ds.take 9
      let v := kept.foldl (fun n d => n * 10 + (d.toNat - 48)) 0
      some (v * Nat.pow 10 (9 - kept.length), r.drop ds.length)
  | r => some (0, r)

/-- The offset from universal time in seconds, with its sign. -/
def offset? (cs : List Char) : Option (Int × List Char) :=
  match cs with
  | [] => none
  | c :: r =>
    if c = 'Z' || c = 'z' then some (0, r)
    else if c = '+' || c = '-' || c = '\u2212' then
      match r with
      | h1 :: h2 :: r =>
        if h1.isDigit && h2.isDigit then
          let hours := (h1.toNat - 48) * 10 + (h2.toNat - 48)
          match r.dropWhile fun c => c = ':' || Text.isBlank c with
          | m1 :: m2 :: rest =>
            if '0' ≤ m1 && m1 ≤ '5' && m2.isDigit then
              let minutes := (m1.toNat - 48) * 10 + (m2.toNat - 48)
              let s : Int := ((hours * 60 + minutes) * 60 : Nat)
              some (if c = '+' then s else -s, rest)
            else none
          | _ => none
        else none
      | _ => none
    else none

/-- The moment of a date and a time of day at an offset, if there is such a date and time. -/
def ofParts? (year : Int) (month day hour minute second nanos : Nat) (offset : Int) : Option Time :=
  if firstYear ≤ year ∧ year ≤ lastYear ∧ 1 ≤ month ∧ month ≤ 12 ∧ 1 ≤ day ∧
      day ≤ monthLength year month ∧ hour ≤ 23 ∧ minute ≤ 59 ∧ second ≤ 60 ∧ offset.natAbs < 86400 then
    let clock := hour * 3600 + minute * 60 + min second 59
    let seconds := daysFromDate year month day * 86400 + clock - offset
    if inCalendar seconds then some ⟨seconds, nanos + (if second = 60 then 1000000000 else 0)⟩
    else none
  else none

/-- The moment that a text names: a date, a `T` or a blank, a time of day and an offset. Blanks may
stand before each number and separator. -/
def parse (s : String) : Option Time := do
  let (year, cs) ← year? s.toList
  let cs ← mark? '-' cs
  let (month, cs) ← part? 2 cs
  let cs ← mark? '-' cs
  let (day, cs) ← part? 2 cs
  let cs ← match cs with
    | c :: r => if c = 'T' || c = 't' || c = ' ' then some r else none
    | [] => none
  let (hour, cs) ← part? 2 cs
  let cs ← mark? ':' cs
  let (minute, cs) ← part? 2 cs
  let cs ← mark? ':' cs
  let (second, cs) ← part? 2 cs
  let (nanos, cs) ← nanos? cs
  let cs := Text.trimStart cs
  let (offset, cs) ← match cs with
    | u :: t :: c :: r =>
      if u.toLower = 'u' && t.toLower = 't' && c.toLower = 'c' then some (0, r) else offset? cs
    | _ => offset? cs
  if (Text.trimStart cs).isEmpty then ofParts? year month day hour minute second nanos offset
  else none

/-! ## Spans of time -/

/-- The moment as one outside of a leap second. -/
def settled (t : Time) : Time :=
  if t.nanos ≥ 1000000000 then ⟨t.seconds + 1, t.nanos - 1000000000⟩ else t

/-- The moment that many days earlier, if the calendar reaches so far back. Days that have gone by leave
no leap second. -/
def daysBefore? (t : Time) (days : Nat) : Option Time :=
  let t := if days = 0 then t else t.settled
  let seconds := t.seconds - days * 86400
  if inCalendar seconds then some ⟨seconds, t.nanos⟩ else none

/-- The nanoseconds from `b` to `a`. A leap second between their times of day counts. -/
def nanosSince (a b : Time) : Int :=
  let ca := a.seconds % 86400
  let cb := b.seconds % 86400
  let leap : Int :=
    if ca > cb ∧ b.nanos ≥ 1000000000 then 1 else if ca < cb ∧ a.nanos ≥ 1000000000 then -1 else 0
  (a.seconds - b.seconds + leap) * 1000000000 + a.nanos - b.nanos

/-- The whole seconds from `b` to `a`, cut towards zero. -/
def secondsSince (a b : Time) : Int := Int.tdiv (nanosSince a b) 1000000000

/-- The moment that many milliseconds after the start of 1970. -/
def ofMillis (ms : Nat) : Time := ⟨(ms / 1000 : Nat), ms % 1000 * 1000000⟩

end Time
end Mend
