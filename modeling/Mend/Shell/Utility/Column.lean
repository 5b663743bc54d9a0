import Mend.Posix.Bracket
import Mend.Shell.Utility.Print

/-!
# Bytes and fields

Utilities that keep, replace or drop bytes and fields of lines.
-/

namespace Mend.Shell

/-! ## Fields -/

/-- Reads a list of numbers and ranges. A range without an end goes on for ever. -/
def ranges? (s : String) : Option (List (Nat × Option Nat)) :=
  (s.toList.map fun c => if c = ' ' then ',' else c).splitOn ',' |>.mapM fun r =>
    let (a, rest) := r.span Char.isDigit
    let lo := (String.ofList a).toNat?
    match rest with
    | [] => lo.bind fun n => if n = 0 then none else some (n, some n)
    | '-' :: b =>
      if b.isEmpty then lo.map fun n => (n, none)
      else (String.ofList b).toNat?.bind fun hi => if hi < lo.getD 1 then none else some (lo.getD 1, some hi)
    | _ => none

/-- A number is in one of the ranges. -/
def inRanges (rs : List (Nat × Option Nat)) (n : Nat) : Bool :=
  rs.any fun r => r.1 ≤ n && (r.2.map fun hi => decide (n ≤ hi)).getD true

/-- The pieces of a line with a number in the ranges. -/
def selected {α : Type} (rs : List (Nat × Option Nat)) (complement : Bool) (pieces : List α) : List α :=
  (pieces.zipIdx.filter fun p => inRanges rs (p.2 + 1) != complement).map (·.1)

/-- Keeps parts of lines. -/
def cut : Utility :=
  withOptions "cut"
    { letters := "nsz", valued := "bcfdO",
      long := [("fields", 'f'), ("bytes", 'b'), ("characters", 'c'), ("delimiter", 'd'), ("only-delimited", 's'),
        ("complement", 'C'), ("output-delimiter", 'O')] }
    1 fun g => do
  match g.last? ['b', 'c', 'f'] with
  | none => misuse "cut" 1 "you must specify a list of bytes, characters, or fields"
  | some kind =>
    match ranges? ((g.value? kind).getD "") with
    | none => misuse "cut" 1 ("invalid " ++ (if kind = 'f' then "field" else "byte/character position") ++ " value '" ++
        (g.value? kind).getD "" ++ "'")
    | some rs =>
      let delimiter := ((g.value? 'd').bind fun d => d.toList.head?).getD '\t'
      if ((g.value? 'd').map String.length).getD 1 > 1 then
        misuse "cut" 1 "the delimiter must be a single character"
      else
        let shownDelimiter := ((g.value? 'O').map String.toList).getD [delimiter]
        let line (cs : List Char) : Option (List Char) :=
          if kind = 'f' then
            if cs.contains delimiter then
              some ((List.intersperse shownDelimiter (selected rs (g.has 'C') (cs.splitOn delimiter))).flatten)
            else if g.has 's' then none
            else some cs
          else some (selected rs (g.has 'C') cs)
        onSources "cut" 1 g.operands fun _ text =>
          say (unlines ((lines text).filterMap fun l => (line l.toList).map String.ofList))

/-! ## Sets of bytes -/

/-- What a set lists, in its order; a repetition without a count fills the set up. -/
inductive Listed where
  | bytes (cs : List Char)
  | fill (c : Char)

/-- The byte that a text begins with, which may be escaped, and the rest. -/
def listedByte : List Char → Option (Char × List Char)
  | [] => none
  | '\\' :: c :: r =>
    if isOctal c then
      let ds := ((c :: r).take 3).takeWhile isOctal
      some (Char.ofNat (valueOfDigits 8 ds % 256), r.drop (ds.length - 1))
    else some ((control? c).getD c, r)
  | c :: r => some (c, r)

/-- The bytes from one to another. -/
def bytesBetween (a b : Char) : List Char :=
  (List.range (b.toNat + 1 - a.toNat)).map fun i => Char.ofNat (a.toNat + i)

/-- Reads what a set lists; `fuel` is more than the length of the text. -/
def listed : Nat → List Char → List Listed
  | 0, _ => []
  | fuel + 1, cs =>
    let plain : List Listed :=
      match listedByte cs with
      | none => []
      | some (a, '-' :: r) =>
        match listedByte r with
        | some (b, rest) => .bytes (bytesBetween a b) :: listed fuel rest
        | none => [.bytes [a, '-']]
      | some (a, r) => .bytes [a] :: listed fuel r
    match cs with
    | '[' :: ':' :: r =>
      match (Posix.Bracket.name? ':' r).bind fun (n, rest) => (Posix.class? (String.ofList n)).map fun p => (p, rest) with
      | some (p, rest) => .bytes (((List.range 256).map Char.ofNat).filter p) :: listed fuel rest
      | none => plain
    | '[' :: '=' :: c :: '=' :: ']' :: rest => .bytes [c] :: listed fuel rest
    | '[' :: c :: '*' :: r =>
      let (ds, rest) := r.span Char.isDigit
      match rest with
      | ']' :: rest =>
        if ds.isEmpty || ds.all (· = '0') then .fill c :: listed fuel rest
        else
          let n := if ds.head? = some '0' then valueOfDigits 8 ds else ((String.ofList ds).toNat?).getD 0
          .bytes (List.replicate n c) :: listed fuel rest
      | _ => plain
    | _ => plain

/-- The bytes of a set, filled up to a length. -/
def listedBytes (length : Nat) (ls : List Listed) : List Char :=
  let fixed := ls.foldl (fun n l => match l with
    | .bytes cs => n + cs.length
    | .fill _ => n) 0
  ls.flatMap fun
    | .bytes cs => cs
    | .fill c => List.replicate (length - fixed) c

/-- A text in which of each run of a byte of a set only one is left. -/
def squeezed (inSet : Char → Bool) : Option Char → List Char → List Char
  | _, [] => []
  | last, c :: cs => if last = some c && inSet c then squeezed inSet last cs else c :: squeezed inSet (some c) cs

/-- Replaces, squeezes or drops bytes. -/
def tr : Utility :=
  withOptions "tr"
    { letters := "cCdst", early := true,
      long := [("complement", 'c'), ("delete", 'd'), ("squeeze-repeats", 's'), ("truncate-set1", 't')] }
    1 fun g => do
  let complement := g.has 'c' || g.has 'C'
  let read (s : String) (length : Nat) : List Char := listedBytes length (listed (s.length + 1) s.toList)
  let first (s : String) : List Char :=
    let cs := read s 0
    if complement then ((List.range 256).map Char.ofNat).filter fun c => !cs.contains c else cs
  let member (cs : List Char) : Char → Bool :=
    let table := (List.range 256).map fun i => cs.contains (Char.ofNat i)
    let table := table.toArray
    fun c => (table[c.toNat]?).getD false
  match g.operands with
  | [] => misuse "tr" 1 "missing operand"
  | [a] =>
    if g.has 'd' then
      let inSet := member (first a)
      say (String.ofList ((← takeAll 0).toList.filter fun c => !inSet c))
      return 0
    else if g.has 's' then
      say (String.ofList (squeezed (member (first a)) none (← takeAll 0).toList))
      return 0
    else misuse "tr" 1 ("missing operand after '" ++ a ++ "'")
  | [a, b] =>
    let from_ := first a
    let text := (← takeAll 0).toList
    if g.has 'd' then
      if !g.has 's' then misuse "tr" 1 ("extra operand '" ++ b ++ "'")
      else
        let inSet := member from_
        say (String.ofList (squeezed (member (read b 0)) none (text.filter fun c => !inSet c)))
        return 0
    else
      let target := read b from_.length
      match target.getLast? with
      | none =>
        complain "tr" "when not truncating set1, string2 must be non-empty"
        return 1
      | some final =>
        let pairs := from_.zip (if g.has 't' then target else target ++ List.replicate (from_.length - target.length) final)
        let table := ((List.range 256).map fun i =>
          ((pairs.filter fun p => p.1.toNat = i).getLast?.map (·.2)).getD (Char.ofNat i)).toArray
        let out := text.map fun c => (table[c.toNat]?).getD c
        say (String.ofList (if g.has 's' then squeezed (member target) none out else out))
        return 0
  | _ :: _ :: extra :: _ => misuse "tr" 1 ("extra operand '" ++ extra ++ "'")

end Mend.Shell
