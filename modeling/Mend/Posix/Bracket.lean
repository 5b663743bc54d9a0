/-!
# Bracket expressions

A set of bytes as patterns write it between brackets: bytes, ranges of them and named classes, or all
bytes but those. The classes are those of the plain locale, which knows only ASCII.
-/

namespace Mend.Posix

/-- A control byte. -/
def isControl (c : Char) : Bool := c.toNat < 32 || c.toNat = 127

/-- A byte that leaves a mark on paper. -/
def isGraph (c : Char) : Bool := 32 < c.toNat && c.toNat < 127

/-- White space. -/
def isSpace (c : Char) : Bool := c = ' ' || (9 ≤ c.toNat && c.toNat ≤ 13)

/-- The class of a name. -/
def class? : String → Option (Char → Bool)
  | "alpha" => some Char.isAlpha
  | "digit" => some Char.isDigit
  | "alnum" => some Char.isAlphanum
  | "upper" => some Char.isUpper
  | "lower" => some Char.isLower
  | "space" => some isSpace
  | "blank" => some fun c => c = ' ' || c = '\t'
  | "cntrl" => some isControl
  | "graph" => some isGraph
  | "print" => some fun c => isGraph c || c = ' '
  | "punct" => some fun c => isGraph c && !c.isAlphanum
  | "xdigit" => some fun c => c.isDigit || ('a' ≤ c && c ≤ 'f') || ('A' ≤ c && c ≤ 'F')
  | _ => none

/-- The bytes of a class, as ranges. -/
def rangesOf (p : Char → Bool) : List (Char × Char) :=
  ((List.range 256).map Char.ofNat).filterMap fun c => if p c then some (c, c) else none

/-- Bytes in ranges, or all bytes but those. -/
structure Bracket where
  negated : Bool
  ranges : List (Char × Char)
  deriving DecidableEq, Repr, Inhabited

namespace Bracket

/-- A byte is in the set. -/
def has (b : Bracket) (c : Char) : Bool := (b.ranges.any fun r => r.1 ≤ c && c ≤ r.2) != b.negated

/-- A letter is in the set in either case. -/
def hasFolded (b : Bracket) (c : Char) : Bool :=
  (b.ranges.any fun r => (r.1 ≤ c && c ≤ r.2) || (r.1 ≤ c.toLower && c.toLower ≤ r.2) ||
    (r.1 ≤ c.toUpper && c.toUpper ≤ r.2)) != b.negated

/-- The set of one byte. -/
def single (c : Char) : Bracket := ⟨false, [(c, c)]⟩

/-- The set of all bytes. -/
def all : Bracket := ⟨true, []⟩

/-- The set of a class. -/
def ofClass (negated : Bool) (p : Char → Bool) : Bracket := ⟨negated, rangesOf p⟩

/-- Reads a name up to its mark and a bracket, as in `:alpha:]`. -/
def name? (mark : Char) (cs : List Char) : Option (List Char × List Char) :=
  match cs with
  | [] => none
  | c :: r =>
    if c = mark && r.head? = some ']' then some ([], r.tail)
    else (name? mark r).map fun (n, rest) => (c :: n, rest)

/-- Reads one byte, or the name of one, at an end of a range. -/
def point? (escapes : Bool) (cs : List Char) : Option (Char × List Char) :=
  match cs with
  | [] => none
  | '[' :: '.' :: r =>
    match name? '.' r with
    | some ([c], rest) => some (c, rest)
    | _ => none
  | '\\' :: c :: r => if escapes then some (c, r) else some ('\\', c :: r)
  | c :: r => some (c, r)

/-- Reads what stands between brackets up to the closing one, which is itself a member if it stands
`first`. With `escapes` a backslash quotes the byte after it. `fuel` is more than the length. -/
def items? (escapes : Bool) : Nat → Bool → List Char → Option (List (Char × Char) × List Char)
  | 0, _, _ => none
  | fuel + 1, first, cs =>
    match cs with
    | [] => none
    | '[' :: ':' :: r => do
      let (n, r) ← name? ':' r
      let p ← class? (String.ofList n)
      let (more, rest) ← items? escapes fuel false r
      some (rangesOf p ++ more, rest)
    | '[' :: '=' :: r => do
      let (n, r) ← name? '=' r
      let c ← n.head?
      let (more, rest) ← items? escapes fuel false r
      some ((c, c) :: more, rest)
    | c :: r =>
      if c = ']' && !first then some ([], r)
      else do
        let (lo, r) ← point? escapes cs
        match r with
        | '-' :: ']' :: _ => do
          let (more, rest) ← items? escapes fuel false r
          some ((lo, lo) :: more, rest)
        | '-' :: r => do
          let (hi, r) ← point? escapes r
          let (more, rest) ← items? escapes fuel false r
          some ((lo, hi) :: more, rest)
        | r => do
          let (more, rest) ← items? escapes fuel false r
          some ((lo, lo) :: more, rest)

/-- Reads a set after its opening bracket; any of `marks` negates it. -/
def read? (marks : List Char) (escapes : Bool) (cs : List Char) : Option (Bracket × List Char) :=
  let negated := cs.head?.any marks.contains
  let body := if negated then cs.tail else cs
  (items? escapes (body.length + 1) true body).map fun (rs, rest) => (⟨negated, rs⟩, rest)

end Bracket
end Mend.Posix
