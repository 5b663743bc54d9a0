import Mend.Shell.Utility.Print

/-!
# Order

Utilities that put lines in order and that look at runs of equal lines. Lines are compared by their
keys, and by all of their bytes where the keys are equal.
-/

namespace Mend.Shell

/-! ## Keys -/

/-- How a key is compared. -/
structure KeyOrder where
  numeric : Bool := false
  general : Bool := false
  human : Bool := false
  version : Bool := false
  month : Bool := false
  reverse : Bool := false
  fold : Bool := false
  dictionary : Bool := false
  printable : Bool := false
  deriving DecidableEq, Repr, Inhabited

/-- A part of a line that is compared: from a byte of a field, to a byte of a field or its end. -/
structure Key where
  field : Nat
  byte : Nat := 1
  /-- Blanks before the first field do not count. -/
  skipStart : Bool := false
  last : Option (Nat × Nat) := none
  skipEnd : Bool := false
  order : Option KeyOrder := none
  deriving Repr, Inhabited

/-- The order that a letter asks for, added to another. -/
def KeyOrder.adding (o : KeyOrder) : Char → KeyOrder
  | 'n' => { o with numeric := true }
  | 'g' => { o with general := true }
  | 'h' => { o with human := true }
  | 'V' => { o with version := true }
  | 'M' => { o with month := true }
  | 'r' => { o with reverse := true }
  | 'f' => { o with fold := true }
  | 'd' => { o with dictionary := true }
  | 'i' => { o with printable := true }
  | _ => o

/-- Reads the place of a key: a field, and a byte of it after a point; and the letters after it. -/
def place? (cs : List Char) : Option (Nat × Option Nat × List Char) :=
  let (f, r) := cs.span Char.isDigit
  match (String.ofList f).toNat?, r with
  | some f, '.' :: r =>
    let (b, r) := r.span Char.isDigit
    (String.ofList b).toNat?.map fun b => (f, some b, r)
  | some f, r => some (f, none, r)
  | none, _ => none

/-- Reads a key. -/
def Key.read? (s : String) : Option Key := do
  let (first, rest) := s.toList.span (· ≠ ',')
  let (f, b, letters) ← place? first
  if f = 0 || b = some 0 then none
  let k : Key := { field := f, byte := b.getD 1, skipStart := letters.contains 'b' }
  let (k, letters) ← match rest with
    | _ :: r => do
      let (f, b, more) ← place? r
      if f = 0 then none
      some ({ k with last := some (f, b.getD 0), skipEnd := more.contains 'b' }, letters ++ more)
    | [] => some (k, letters)
  if !letters.all "bdfgiMhnrVR".toList.contains then none
  let ordering := letters.filter (· ≠ 'b')
  some { k with order := if ordering.isEmpty then none else some (ordering.foldl KeyOrder.adding {}) }

/-- A space or a tab. -/
def isGap (c : Char) : Bool := c = ' ' || c = '\t' || c = '\n'

/-- The fields of a line. Without a separator a field begins with the blanks in front of it. -/
def fieldsOf (separator : Option Char) (cs : List Char) : List (List Char) :=
  match separator with
  | some s => cs.splitOn s
  | none => go cs.length cs
where
  /-- The fields, each with its blanks; `fuel` is at least the length. -/
  go : Nat → List Char → List (List Char)
  | 0, _ => []
  | fuel + 1, cs =>
    if cs.isEmpty then []
    else
      let gap := cs.takeWhile isGap
      let word := (cs.drop gap.length).takeWhile fun c => !isGap c
      let n := gap.length + word.length
      (gap ++ word) :: go fuel (cs.drop n)

/-- Where the `i`-th field begins, counted from zero. -/
def fieldStart (separator : Option Char) (fields : List (List Char)) (i : Nat) : Nat :=
  ((fields.take i).map fun f => f.length + (if separator.isSome then 1 else 0)).foldl (· + ·) 0

/-- How many blanks stand at a place of a line. -/
def gapAt (cs : List Char) (i : Nat) : Nat := ((cs.drop i).takeWhile isGap).length

/-- The bytes of a line that a key is about. -/
def Key.of (k : Key) (separator : Option Char) (cs : List Char) : List Char :=
  let fields := fieldsOf separator cs
  let start := fieldStart separator fields (k.field - 1)
  let start := (if k.skipStart then start + gapAt cs start else start) + (k.byte - 1)
  let stop := match k.last with
    | none => cs.length
    | some (f, 0) =>
      let next := fieldStart separator fields f
      if f < fields.length && separator.isSome then next - 1 else next
    | some (f, b) =>
      let s := fieldStart separator fields (f - 1)
      (if k.skipEnd then s + gapAt cs s else s) + b
  (cs.take stop).drop start

/-! ## Comparing -/

/-- The number that a text begins with, as a whole number and a count of places. -/
def leadingDecimal (cs : List Char) : Int × Nat :=
  let cs := cs.dropWhile isGap
  let (negative, cs) := match cs with
    | '-' :: r => (true, r)
    | r => (false, r)
  let (whole, rest) := cs.span Char.isDigit
  let part := match rest with
    | '.' :: r => r.takeWhile Char.isDigit
    | _ => []
  let n : Int := ((String.ofList (whole ++ part)).toNat?).getD 0
  (if negative then -n else n, part.length)

/-- Compares numbers with different counts of places. -/
def compareDecimals (a b : Int × Nat) : Ordering :=
  compare (a.1 * (Nat.pow 10 b.2 : Nat)) (b.1 * (Nat.pow 10 a.2 : Nat))

/-- The number that a text begins with, where it may have an exponent. -/
def leadingFloat (cs : List Char) : Float :=
  let cs := cs.dropWhile isGap
  let body := cs.takeWhile fun c => c.isDigit || "+-.eE".toList.contains c
  ((List.range (body.length + 1)).reverse.findSome? fun n => Decimal.parse (String.ofList (body.take n))).getD 0

/-- How large the unit after a number is. -/
def unitOf (cs : List Char) : Int :=
  let rest := ((cs.dropWhile isGap).dropWhile (· = '-')).dropWhile fun c => c.isDigit || c = '.'
  let negative := (cs.dropWhile isGap).head? = some '-'
  let n : Int := ((rest.head?.bind fun c => "KMGTPEZY".toList.idxOf? c.toUpper).elim 0 (· + 1) : Nat)
  if negative then -n else n

/-- Compares texts in which runs of digits count as numbers; `fuel` is more than their length. -/
def compareVersions : Nat → List Char → List Char → Ordering
  | 0, _, _ => .eq
  | fuel + 1, a, b =>
    let (x, a) := a.span fun c => !c.isDigit
    let (y, b) := b.span fun c => !c.isDigit
    if x ≠ y then compare (String.ofList x) (String.ofList y)
    else if a.isEmpty && b.isEmpty then .eq
    else
      let (m, a) := a.span Char.isDigit
      let (n, b) := b.span Char.isDigit
      let value (ds : List Char) : Nat := ((String.ofList ds).toNat?).getD 0
      (compare (value m) (value n)).then (compareVersions fuel a b)

/-- The number of a month by the first letters of its name; zero if there is none. -/
def monthOf (cs : List Char) : Nat :=
  let name := String.ofList (((cs.dropWhile isGap).take 3).map Char.toLower)
  ((monthNames.map fun m => String.ofList ((short m).toList.map Char.toLower)).idxOf? name).elim 0 (· + 1)

/-- Compares two keys. -/
def KeyOrder.compare (o : KeyOrder) (a b : List Char) : Ordering :=
  let clean (cs : List Char) : String :=
    let cs := if o.dictionary then cs.filter fun c => c.isAlphanum || isGap c else cs
    let cs := if o.printable then cs.filter fun c => Posix.isGraph c || c = ' ' else cs
    String.ofList (if o.fold then cs.map Char.toUpper else cs)
  let r :=
    if o.numeric then compareDecimals (leadingDecimal a) (leadingDecimal b)
    else if o.human then (Ord.compare (unitOf a) (unitOf b)).then (compareDecimals (leadingDecimal a) (leadingDecimal b))
    else if o.general then
      let (x, y) := (leadingFloat a, leadingFloat b)
      if x < y then .lt else if y < x then .gt else .eq
    else if o.version then compareVersions (a.length + b.length + 1) a b
    else if o.month then Ord.compare (monthOf a) (monthOf b)
    else Ord.compare (clean a) (clean b)
  if o.reverse then r.swap else r

/-- How lines are put in order. -/
structure Sorting where
  keys : List Key
  order : KeyOrder
  separator : Option Char
  skipStart : Bool
  /-- Lines with equal keys keep their order. -/
  stable : Bool

namespace Sorting

/-- Compares lines by their keys. -/
def keyed (s : Sorting) (a b : List Char) : Ordering :=
  let trim (cs : List Char) : List Char := if s.skipStart then cs.dropWhile isGap else cs
  if s.keys.isEmpty then s.order.compare (trim a) (trim b)
  else s.keys.foldl
    (fun r k => r.then (
      let k := if k.order.isNone && s.skipStart then { k with skipStart := true, skipEnd := true } else k
      (k.order.getD s.order).compare (k.of s.separator a) (k.of s.separator b))) .eq

/-- Compares lines. -/
def compare (s : Sorting) (a b : String) : Ordering :=
  let r := s.keyed a.toList b.toList
  if s.stable then r
  else
    let last := Ord.compare a b
    r.then (if s.order.reverse then last.swap else last)

/-- Lines in order, and of those with equal keys only the first if `unique` is set. -/
def sorted (s : Sorting) (unique : Bool) (ls : List String) : List String :=
  let ls := ls.mergeSort fun a b => (s.compare a b) ≠ .gt
  if unique then
    (ls.foldl (fun kept l =>
      match kept with
      | k :: _ => if s.keyed k.toList l.toList = .eq then kept else l :: kept
      | [] => [l]) []).reverse
  else ls

end Sorting

/-- Puts lines in order. -/
def sort : Utility :=
  withOptions "sort"
    { letters := "bdfghinMrVcCmsuzR", valued := "koStT",
      long := [("numeric-sort", 'n'), ("reverse", 'r'), ("unique", 'u'), ("key", 'k'), ("field-separator", 't'),
        ("output", 'o'), ("ignore-case", 'f'), ("ignore-leading-blanks", 'b'), ("check", 'c'), ("stable", 's'),
        ("version-sort", 'V'), ("human-numeric-sort", 'h'), ("general-numeric-sort", 'g'), ("month-sort", 'M'),
        ("dictionary-order", 'd'), ("merge", 'm'), ("zero-terminated", 'z')] }
    2 fun g => do
  match (g.values 'k').mapM Key.read? with
  | none =>
    complain "sort" ("invalid field specification '" ++ (g.value? 'k').getD "" ++ "'")
    return 2
  | some keys =>
    let separator := match (g.value? 't').map String.toList with
      | some ['\\', '0'] => some '\x00'
      | some (c :: _) => some c
      | _ => none
    let s : Sorting :=
      { keys := keys, order := (g.options.map (·.1)).foldl KeyOrder.adding {}, separator := separator,
        skipStart := g.has 'b', stable := g.has 's' || g.has 'u' }
    let split (text : String) : List String :=
      if g.has 'z' then
        let ps := text.toList.splitOn '\x00'
        ((if ps.getLast? = some [] then ps.dropLast else ps).map String.ofList)
      else lines text
    let names := if g.operands.isEmpty then ["-"] else g.operands
    let texts ← names.mapM fun name => return (name, ← readSource name)
    match texts.findSome? fun t => (match t.2 with
      | .error e => some (t.1, e)
      | .ok _ => none) with
    | some (name, e) =>
      if e = .isDirectory then complain "sort" ("read failed: " ++ name ++ ": " ++ e.words)
      else complain "sort" ("cannot read: " ++ name ++ ": " ++ e.words)
      return 2
    | none =>
      let ls := texts.flatMap fun t => (match t.2 with
        | .ok text => split text
        | .error _ => [])
      if g.has 'c' || g.has 'C' then
        let bad := ((ls.zip ls.tail).zipIdx).find? fun p =>
          let r := s.compare p.1.1 p.1.2
          r = .gt || (g.has 'u' && r = .eq)
        match bad with
        | some ((_, b), i) =>
          if g.has 'c' then complain "sort" (names.headD "-" ++ ":" ++ toString (i + 2) ++ ": disorder: " ++ b)
          return 1
        | none => return 0
      else
        let out := s.sorted (g.has 'u') ls
        let text := if g.has 'z' then String.join (out.map (· ++ "\x00")) else unlines out
        match g.value? 'o' with
        | some file =>
          match ← writeFile file text with
          | .ok () => return 0
          | .error e =>
            complain "sort" ("open failed: " ++ file ++ ": " ++ e.words)
            return 2
        | none =>
          say text
          return 0

/-! ## Runs of equal lines -/

/-- Runs of lines with equal keys. -/
def runs (key : String → String) : List String → List (List String)
  | [] => []
  | l :: ls =>
    match runs key ls with
    | (m :: run) :: rest => if key l = key m then (l :: m :: run) :: rest else [l] :: (m :: run) :: rest
    | rest => [l] :: rest

/-- The part of a line after as many fields and then as many bytes. -/
def pastFields (fields bytes : Nat) (cs : List Char) : List Char :=
  match fields with
  | 0 => cs.drop bytes
  | n + 1 => pastFields n bytes ((cs.dropWhile isGap).dropWhile fun c => !isGap c)

/-- Keeps one line of each run of equal lines. -/
def uniq : Utility :=
  withOptions "uniq"
    { letters := "cdDiuz", valued := "fsw",
      long := [("count", 'c'), ("repeated", 'd'), ("unique", 'u'), ("ignore-case", 'i'), ("all-repeated", 'D'),
        ("skip-fields", 'f'), ("skip-chars", 's'), ("check-chars", 'w')] }
    1 fun g => do
  let number (c : Char) : Option Nat := (g.value? c).bind String.toNat?
  let key (l : String) : String :=
    let cs := pastFields ((number 'f').getD 0) ((number 's').getD 0) l.toList
    let cs := match number 'w' with
      | some n => cs.take n
      | none => cs
    String.ofList (if g.has 'i' then cs.map Char.toLower else cs)
  match ← readSource (g.operands.headD "-") with
  | .error e =>
    complain "uniq" (g.operands.headD "-" ++ ": " ++ e.words)
    return 1
  | .ok text =>
    let wanted := (runs key (lines text)).filter fun r =>
      (!g.has 'd' || r.length > 1) && (!g.has 'u' || r.length = 1) && (!g.has 'D' || r.length > 1)
    let out := wanted.flatMap fun r =>
      if g.has 'D' then r
      else [(if g.has 'c' then padLeft 7 (toString r.length) ++ " " else "") ++ r.headD ""]
    match g.operands with
    | _ :: file :: _ =>
      match ← writeFile file (unlines out) with
      | .ok () => return 0
      | .error e =>
        complain "uniq" (file ++ ": " ++ e.words)
        return 1
    | _ =>
      say (unlines out)
      return 0

end Mend.Shell
