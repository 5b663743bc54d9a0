import Mend.Shell.Arithmetic
import Mend.Shell.Format
import Mend.Shell.Parser
import Mend.Shell.Utility.Basic

/-!
# Printing

Utilities that print what they are told, a format, numbers or the time.
-/

namespace Mend.Shell

/-! ## Escapes -/

/-- What a backslash may stand before. -/
structure Escapes where
  /-- Digits of base sixteen after an `x`. -/
  hexadecimal : Bool
  /-- A zero in front of digits of base eight is not one of them. -/
  freeZero : Bool

namespace Escapes

/-- The text with its escapes replaced, past bytes that belong to an escape already, and whether an
escape ends all output. -/
def replaceFrom (e : Escapes) : Nat → List Char → List Char × Bool
  | _, [] => ([], false)
  | past + 1, _ :: r => replaceFrom e past r
  | 0, '\\' :: c :: r =>
    let add (c : Char) (more : List Char × Bool) : List Char × Bool := (c :: more.1, more.2)
    if c = 'c' then ([], true)
    else if isOctal c then
      let skipped := if e.freeZero && c = '0' then 0 else 1
      let ds := ((c :: r).drop (1 - skipped)).take 3 |>.takeWhile isOctal
      add (Char.ofNat (valueOfDigits 8 ds % 256)) (replaceFrom e (ds.length - skipped) r)
    else if e.hexadecimal && c = 'x' && r.head?.any isHexadecimal then
      let ds := (r.take 2).takeWhile isHexadecimal
      add (Char.ofNat (valueOfDigits 16 ds)) (replaceFrom e ds.length r)
    else if c = 'e' then add '\x1b' (replaceFrom e 0 r)
    else match control? c with
      | some k => add k (replaceFrom e 0 r)
      | none => add '\\' (add c (replaceFrom e 0 r))
  | 0, c :: r =>
    let more := replaceFrom e 0 r
    (c :: more.1, more.2)

/-- The text with its escapes replaced, and whether an escape ends all output. -/
def replace (e : Escapes) (s : String) : String × Bool :=
  let (cs, ended) := e.replaceFrom 0 s.toList
  (String.ofList cs, ended)

end Escapes

/-- Prints its arguments, with escapes replaced only where an option asks for it. -/
def echo : Utility := fun words => do
  let isOption (w : String) : Bool :=
    match w.toList with
    | '-' :: c :: cs => (c :: cs).all fun c => c = 'n' || c = 'e' || c = 'E'
    | _ => false
  let letters := ((words.takeWhile isOption).map fun w => w.toList.drop 1).flatten
  let escaped := (letters.filter fun c => c = 'e' || c = 'E').getLast? = some 'e'
  let text := String.intercalate " " (words.dropWhile isOption)
  let (text, ended) := if escaped then Escapes.replace ⟨true, true⟩ text else (text, false)
  say (if ended || letters.contains 'n' then text else text ++ "\n")
  return 0

/-- Prints its arguments with their escapes replaced. -/
def plainEcho : Utility := fun words => do
  let bare := words.head? = some "-n"
  let (text, ended) := Escapes.replace ⟨false, true⟩ (String.intercalate " " (if bare then words.tail else words))
  say (if ended || bare then text else text ++ "\n")
  return 0

/-! ## Formats -/

/-- The number that a text begins with, and whether that is all of it. -/
def leadingInteger (s : String) : Int × Bool :=
  let cs := s.toList.dropWhile Posix.isSpace
  let (sign, digits) : List Char × List Char := match cs with
    | '-' :: r => (['-'], r)
    | '+' :: r => (['+'], r)
    | r => ([], r)
  let run := match digits with
    | '0' :: x :: r =>
      if (x = 'x' || x = 'X') && r.head?.any isHexadecimal then '0' :: 'x' :: r.takeWhile isHexadecimal
      else (digits.takeWhile isOctal)
    | '0' :: _ => digits.takeWhile isOctal
    | _ => digits.takeWhile Char.isDigit
  match Arithmetic.integer? (String.ofList (sign ++ run)) with
  | some n => (n, run.length = digits.length)
  | none => (0, false)

/-- The value of an argument that is to be a whole number, and a complaint. A quote stands before a byte
that is meant by its number. -/
def integerArgument (w : String) : Int × Option String :=
  match w.toList with
  | [] => (0, none)
  | '\'' :: c :: _ => (c.toNat, none)
  | '"' :: c :: _ => (c.toNat, none)
  | _ =>
    match leadingInteger w with
    | (n, true) => (n, none)
    | (0, false) => (0, some "expected a numeric value")
    | (n, false) => (n, some "value not completely converted")

/-- What a format makes of arguments: the text, the arguments that are left, whether all output ends, and
complaints. -/
structure Printed where
  text : String := ""
  rest : List String
  ended : Bool := false
  complaints : List String := []

namespace Printed

/-- Adds what a directive prints. -/
def add (p : Printed) (s : String) : Printed := { p with text := p.text ++ s }

/-- Takes a number for a star. -/
def star (p : Printed) (wanted : Bool) : Option Int × Printed :=
  if wanted then (some (integerArgument (p.rest.headD "0")).1, { p with rest := p.rest.tail }) else (none, p)

/-- Carries out a directive. -/
def step (e : Escapes) (p : Printed) (d : Directive) : Printed :=
  if p.ended then p
  else match d with
    | .text cs => p.add (String.ofList cs)
    | .value l starWidth starPrecision letter =>
      let (width, p) := p.star starWidth
      let (precision, p) := p.star starPrecision
      let l := match width with
        | some n => { l with width := n.natAbs, left := l.left || decide (n < 0) }
        | none => l
      let l := match precision with
        | some n => { l with precision := if n < 0 then none else some n.toNat }
        | none => l
      let w := p.rest.headD ""
      let p := { p with rest := p.rest.tail }
      let whole (show_ : Int → String) : Printed :=
        let (n, complaint) := integerArgument w
        { p.add (show_ n) with
          complaints := p.complaints ++ (complaint.map fun c => "'" ++ w ++ "': " ++ c).toList }
      if letter = 'd' || letter = 'i' then whole l.signed
      else if "ouxX".toList.contains letter then whole (l.unsigned letter)
      else if "feEgGF".toList.contains letter then
        match Decimal.parse (if w.isEmpty then "0" else w) with
        | some x => p.add (l.float letter x)
        | none =>
          { p.add (l.float letter 0.0) with
            complaints := p.complaints ++ ["'" ++ w ++ "': expected a numeric value"] }
      else if letter = 'c' then p.add (l.string (String.ofList [w.toList.headD '\x00']))
      else if letter = 'b' then
        let (s, ended) := Escapes.replace { e with freeZero := true } w
        { p.add (l.string s) with ended := ended }
      else if letter = 's' || (letter = 'q' && e.hexadecimal) then p.add (l.string w)
      else { p with
        ended := true
        complaints := p.complaints ++ ["%" ++ letter.toString ++ ": invalid conversion specification"] }

end Printed

/-- Prints a format again and again until all arguments are used; it is printed at most `n` times. -/
def formatAll (e : Escapes) (ds : List Directive) : Nat → Printed → Printed
  | 0, p => p
  | n + 1, p =>
    let q := ds.foldl (Printed.step e) p
    if q.ended || q.rest.isEmpty || q.rest.length = p.rest.length then q else formatAll e ds n q

/-- Prints its arguments by a format; `hexadecimal` if escapes may have digits of base sixteen. -/
def printf (hexadecimal : Bool) : Utility := fun words => do
  match (if words.head? = some "--" then words.tail else words) with
  | [] =>
    if hexadecimal then misuse "printf" 1 "missing operand"
    else do
      complain "sh: 1" "printf: usage: printf format [arg ...]"
      return 2
  | f :: rest =>
    let e : Escapes := ⟨hexadecimal, false⟩
    let (cs, ended) := e.replaceFrom 0 (quotes f.toList)
    let ds := Directive.readAll (cs.length + 1) cs
    let p := formatAll e ds (if ended then 1 else rest.length + 1) { rest := rest }
    say p.text
    for c in p.complaints do complain "printf" c
    return if p.complaints.isEmpty then 0 else if p.ended && !hexadecimal then 2 else 1
where
  /-- The format without backslashes in front of quotes. -/
  quotes : List Char → List Char
  | '\\' :: '"' :: r => '"' :: quotes r
  | '\\' :: c :: r => '\\' :: c :: quotes r
  | c :: r => c :: quotes r
  | [] => []

/-! ## Numbers -/

/-- A decimal: its digits as a whole number, and how many of them stand after the point. -/
def decimalPlaces? (s : String) : Option (Int × Nat) :=
  let (negative, cs) := match s.toList with
    | '-' :: r => (true, r)
    | '+' :: r => (false, r)
    | r => (false, r)
  let (whole, rest) := cs.span Char.isDigit
  let part := rest.drop 1
  if (whole.isEmpty && part.isEmpty) || !part.all Char.isDigit || (rest.head?.any (· ≠ '.')) then none
  else
    let n : Int := ((String.ofList (whole ++ part)).toNat?).getD 0
    some (if negative then -n else n, part.length)

/-- A whole number written with a point before its last digits. -/
def placed (places : Nat) (n : Int) : String :=
  let ds := toString n.natAbs
  let ds := (Decimal.zeros (places + 1 - ds.length) ++ ds).toList
  (if n < 0 then "-" else "") ++ String.ofList (ds.take (ds.length - places)) ++
    (if places = 0 then "" else "." ++ String.ofList (ds.drop (ds.length - places)))

/-- Prints numbers from one to another in even steps. -/
def seq : Utility := fun words => do
  let isNumber (w : String) : Bool := (decimalPlaces? w).isSome
  let options := words.takeWhile fun w => !isNumber w
  let (options, operands) := match options.getLast?, words.drop options.length with
    | some o, w :: rest =>
      if ["-s", "-f", "--separator", "--format"].contains o then (options ++ [w], rest) else (options, w :: rest)
    | _, rest => (options, rest)
  withOptions "seq"
    { letters := "w", valued := "sf", long := [("separator", 's'), ("format", 'f'), ("equal-width", 'w')] }
    1 (fun g => do
      let ends := match operands with
        | [b] => some ("1", "1", b)
        | [a, b] => some (a, "1", b)
        | [a, s, b] => some (a, s, b)
        | _ => none
      match ends.bind fun (a, s, b) => do some (← decimalPlaces? a, ← decimalPlaces? s, ← decimalPlaces? b) with
      | none => misuse "seq" 1 (if operands.isEmpty then "missing operand" else "invalid floating point argument")
      | some ((a, pa), (s, ps), (b, pb)) =>
        let places := max pa (max ps pb)
        let scale (n : Int) (p : Nat) : Int := n * (Nat.pow 10 (places - p) : Nat)
        let (a, s, b) := (scale a pa, scale s ps, scale b pb)
        if s = 0 then misuse "seq" 1 "invalid Zero increment value: '0'"
        else
          let count := if (0 < s && b < a) || (s < 0 && a < b) then 0 else ((b - a).tdiv s).toNat + 1
          let shownPlaces := max pa ps
          let shown (i : Nat) : String := placed shownPlaces ((a + s * i) / (Nat.pow 10 (places - shownPlaces) : Nat))
          let all := (List.range count).map shown
          let width := all.foldl (fun n t => max n t.length) 0
          let wide (t : String) : String :=
            if t.toList.head? = some '-' then "-" ++ Decimal.zeros (width - t.length) ++ String.ofList t.toList.tail
            else Decimal.zeros (width - t.length) ++ t
          let all := if g.has 'w' then all.map wide else all
          let all := match g.value? 'f' with
            | some f => all.map fun t => (formatAll ⟨true, false⟩ (Directive.readAll (f.length + 1) f.toList) 1 { rest := [t] }).text
            | none => all
          if !all.isEmpty then say (String.intercalate ((g.value? 's').getD "\n") all ++ "\n")
          return 0) options

/-- How many lines are printed at most by a utility that would not stop. -/
def endless : Nat := 100000

/-- Prints a line again and again. -/
def yes : Utility := fun words => do
  let line := (if words.isEmpty then "y" else String.intercalate " " words) ++ "\n"
  say (String.join (List.replicate endless line))
  return 0

/-! ## Time -/

/-- The names of the days of the week, from Sunday on. -/
def dayNames : List String := ["Sunday", "Monday", "Tuesday", "Wednesday", "Thursday", "Friday", "Saturday"]

/-- The names of the months. -/
def monthNames : List String :=
  ["January", "February", "March", "April", "May", "June", "July", "August", "September", "October", "November",
    "December"]

/-- The first three letters of a name. -/
def short (s : String) : String := String.ofList (s.toList.take 3)

/-- A field of the date. -/
def dateField (now : Time) (c : Char) : String :=
  let days := now.seconds / 86400
  let clock := (now.seconds % 86400).toNat
  let (year, month, day) := Time.dateFromDays days
  let weekday := ((days + 4) % 7).toNat
  let two (n : Nat) : String := Time.padded 2 n
  let hour := clock / 3600
  let hour12 := if hour % 12 = 0 then 12 else hour % 12
  let time := two hour ++ ":" ++ two (clock / 60 % 60) ++ ":" ++ two (clock % 60)
  let dayName := dayNames.getD weekday ""
  let monthName := monthNames.getD (month - 1) ""
  match c with
  | 'Y' => toString year
  | 'y' => two (year % 100).toNat
  | 'C' => two (year / 100).toNat
  | 'm' => two month
  | 'd' => two day
  | 'e' => padLeft 2 (toString day)
  | 'H' => two hour
  | 'I' => two hour12
  | 'k' => padLeft 2 (toString hour)
  | 'l' => padLeft 2 (toString hour12)
  | 'M' => two (clock / 60 % 60)
  | 'S' => two (clock % 60)
  | 'N' => Time.padded 9 now.nanos
  | 'F' => toString year ++ "-" ++ two month ++ "-" ++ two day
  | 'D' => two month ++ "/" ++ two day ++ "/" ++ two (year % 100).toNat
  | 'x' => two month ++ "/" ++ two day ++ "/" ++ two (year % 100).toNat
  | 'T' => time
  | 'X' => time
  | 'R' => two hour ++ ":" ++ two (clock / 60 % 60)
  | 'p' => if hour < 12 then "AM" else "PM"
  | 'r' => two hour12 ++ ":" ++ two (clock / 60 % 60) ++ ":" ++ two (clock % 60) ++ (if hour < 12 then " AM" else " PM")
  | 'a' => short dayName
  | 'A' => dayName
  | 'b' => short monthName
  | 'h' => short monthName
  | 'B' => monthName
  | 'j' => Time.padded 3 (days - Time.daysFromDate year 1 1 + 1).toNat
  | 'u' => toString (if weekday = 0 then 7 else weekday)
  | 'w' => toString weekday
  | 's' => toString now.seconds
  | 'Z' => "UTC"
  | 'z' => "+0000"
  | 'c' =>
    short dayName ++ " " ++ short monthName ++ " " ++ padLeft 2 (toString day) ++ " " ++ time ++ " " ++ toString year
  | 'n' => "\n"
  | 't' => "\t"
  | '%' => "%"
  | c => String.ofList ['%', c]

/-- The date, by a format of letters after percent signs. -/
def dateText (now : Time) : List Char → String
  | '%' :: '-' :: c :: r =>
    let field := (dateField now c).toList.dropWhile fun c => c = '0' || c = ' '
    (if field.isEmpty then "0" else String.ofList field) ++ dateText now r
  | '%' :: '3' :: 'N' :: r => Time.padded 3 (now.nanos / 1000000) ++ dateText now r
  | '%' :: c :: r => dateField now c ++ dateText now r
  | c :: r => c.toString ++ dateText now r
  | [] => ""

/-- The moment that a text names: seconds after a sign, or a date with a time of day or without one. -/
def moment? (now : Time) (s : String) : Option Time :=
  match s.toList with
  | '@' :: cs => (decimal? (String.ofList cs)).map fun n => ⟨n, 0⟩
  | cs =>
    if s = "now" then some now
    else
      let fields := (cs.map fun c => if c.isDigit then c else ' ').splitOn ' '
      let ns := (fields.filter fun f => !f.isEmpty).filterMap fun f => (String.ofList f).toNat?
      match ns with
      | [y, m, d] => some ⟨Time.daysFromDate y m d * 86400, 0⟩
      | [y, m, d, h, mi] => some ⟨Time.daysFromDate y m d * 86400 + h * 3600 + mi * 60, 0⟩
      | [y, m, d, h, mi, sec] => some ⟨Time.daysFromDate y m d * 86400 + h * 3600 + mi * 60 + sec, 0⟩
      | _ => none

/-- Prints the date. -/
def date : Utility :=
  withOptions "date"
    { letters := "uR", valued := "d", attached := "I",
      long := [("utc", 'u'), ("date", 'd'), ("iso-8601", 'I'), ("rfc-email", 'R')] }
    1 fun g => do
  let now := (← get).now
  match (match g.value? 'd' with
    | some s => moment? now s
    | none => some now) with
  | none =>
    complain "date" ("invalid date '" ++ (g.value? 'd').getD "" ++ "'")
    return 1
  | some t =>
    let form := match g.operands.head? with
      | some w => w.toList.drop 1
      | none =>
        if g.has 'R' then "%a, %d %b %Y %H:%M:%S %z".toList
        else match g.value? 'I' with
          | some "seconds" => "%FT%T+00:00".toList
          | some "minutes" => "%FT%R+00:00".toList
          | some _ => "%F".toList
          | none => "%a %b %e %H:%M:%S %Z %Y".toList
    sayLine (dateText t form)
    return 0

/-- The seconds of a length of time with a unit, cut to a whole number. -/
def duration? (s : String) : Option Nat :=
  let (ds, unit) := s.toList.span fun c => c.isDigit || c = '.'
  let factor := match unit with
    | [] => some 1
    | ['s'] => some 1
    | ['m'] => some 60
    | ['h'] => some 3600
    | ['d'] => some 86400
    | _ => none
  match decimalPlaces? (String.ofList ds), factor with
  | some (n, places), some k => some ((n * k).toNat / Nat.pow 10 places)
  | _, _ => none

/-- Waits. -/
def sleep : Utility := fun words => do
  match words.mapM duration? with
  | some (d :: ds) =>
    let total : Nat := (d :: ds).foldl (· + ·) 0
    modify fun p => { p with now := { p.now with seconds := p.now.seconds + total } }
    return 0
  | some [] => misuse "sleep" 1 "missing operand"
  | none => misuse "sleep" 1 ("invalid time interval '" ++ words.headD "" ++ "'")

/-! ## Names -/

/-- A path without slashes at its end. -/
def unslashedPath (cs : List Char) : List Char := (cs.reverse.dropWhile (· = '/')).reverse

/-- The last name of a path. -/
def baseOf (path : String) : String :=
  let cs := unslashedPath path.toList
  if cs.isEmpty then (if path.isEmpty then "" else "/")
  else String.ofList (cs.reverse.takeWhile (· ≠ '/')).reverse

/-- The path of the directory around a path. -/
def dirOf (path : String) : String :=
  let cs := unslashedPath path.toList
  if cs.isEmpty then (if path.isEmpty then "." else "/")
  else
    let above := cs.reverse.dropWhile (· ≠ '/')
    if above.isEmpty then "."
    else
      let dir := (above.dropWhile (· = '/')).reverse
      if dir.isEmpty then "/" else String.ofList dir

/-- A name without an end that is not all of it. -/
def withoutEnd (name suffix : String) : String :=
  if suffix.toList.reverse.isPrefixOf name.toList.reverse && name ≠ suffix then
    String.ofList (name.toList.take (name.length - suffix.length))
  else name

/-- Prints the last names of paths. -/
def basename : Utility :=
  withOptions "basename"
    { letters := "az", valued := "s", early := true,
      long := [("multiple", 'a'), ("suffix", 's'), ("zero", 'z')] }
    1 fun g => do
  let last := if g.has 'z' then "\x00" else "\n"
  match g.operands with
  | [] => misuse "basename" 1 "missing operand"
  | path :: rest =>
    if g.has 'a' || g.has 's' then
      for p in path :: rest do say (withoutEnd (baseOf p) ((g.value? 's').getD "") ++ last)
      return 0
    else match rest with
      | [] => say (baseOf path ++ last); return 0
      | [suffix] => say (withoutEnd (baseOf path) suffix ++ last); return 0
      | _ :: extra :: _ => misuse "basename" 1 ("extra operand '" ++ extra ++ "'")

/-- Prints the directories around paths. -/
def dirname : Utility :=
  withOptions "dirname" { letters := "z", early := true } 1 fun g => do
  if g.operands.isEmpty then misuse "dirname" 1 "missing operand"
  else
    for p in g.operands do say (dirOf p ++ (if g.has 'z' then "\x00" else "\n"))
    return 0

/-- Tells about the system. -/
def uname : Utility := fun words => do
  let all := [('s', "Linux"), ('n', "localhost"), ('r', "6.1.0"), ('v', "#1 SMP"), ('m', "x86_64"), ('o', "GNU/Linux")]
  let letters := (words.map fun w => w.toList.drop 1).flatten
  let shown := if letters.isEmpty then ["Linux"]
    else (all.filter fun f => letters.contains 'a' || letters.contains f.1).map (·.2)
  sayLine (String.intercalate " " shown)
  return 0

/-- Prints a fixed line. -/
def fixedLine (s : String) : Utility := fun _ => do
  sayLine s
  return 0

/-- Tells who runs the process. -/
def identify : Utility := fun words => do
  let letters := (words.map fun w => w.toList.drop 1).flatten
  if letters.contains 'n' then sayLine "root"
  else if letters.isEmpty then sayLine "uid=0(root) gid=0(root) groups=0(root)"
  else sayLine "0"
  return 0

end Mend.Shell
