/-!
# The shortest decimal of a binary number

A binary floating-point number stands for every real that rounds to it. Among the decimals in that
interval `Shortest.ofFloat` takes one with the fewest digits, and of those the nearest. A decimal
grid has a point in the interval exactly if one of the number's two neighbours on the grid is in it,
so that two candidates are tried for each number of digits.
-/

namespace Mend.Decimal

/-- A finite number: its sign, and a magnitude `mantissa * 2 ^ exponent`. -/
structure Binary where
  negative : Bool
  mantissa : Nat
  exponent : Int

/-- What a floating-point number is. -/
inductive Reading where
  | finite (value : Binary)
  | infinite (negative : Bool)
  | notANumber

/-- Takes the sixty-four bits of a number apart. -/
def Reading.ofFloat (x : Float) : Reading :=
  let bits := x.toBits.toNat
  let negative := bits / Nat.pow 2 63 == 1
  let field := bits / Nat.pow 2 52 % Nat.pow 2 11
  let fraction := bits % Nat.pow 2 52
  if field = 2047 then
    if fraction = 0 then .infinite negative else .notANumber
  else if field = 0 then .finite ⟨negative, fraction, -1074⟩
  else .finite ⟨negative, Nat.pow 2 52 + fraction, Int.ofNat field - 1075⟩

/-- A non-negative rational, `num / den`. -/
structure Ratio where
  num : Nat
  den : Nat

/-- The rational `m * 2 ^ e * 10 ^ k`. -/
def Ratio.scaled (m : Nat) (e k : Int) : Ratio :=
  ⟨m * Nat.pow 2 e.toNat * Nat.pow 10 k.toNat, Nat.pow 2 (-e).toNat * Nat.pow 10 (-k).toNat⟩

/-- A decimal: `digits * 10 ^ exponent`. -/
structure Shortest where
  digits : Nat
  exponent : Int
  deriving Repr, DecidableEq

namespace Shortest

/-- Whether `c * 10 ^ k` lies between the midpoints around `m * 2 ^ e`. The midpoints themselves
round to an even `m`. The lower midpoint is nearer when `m` is the least of its binade. -/
def rounds (m : Nat) (e : Int) (c : Nat) (k : Int) : Bool :=
  let below := if m = Nat.pow 2 52 && decide (-1074 < e) then 4 * m - 1 else 4 * m - 2
  let low := Ratio.scaled below (e - 2) (-k)
  let high := Ratio.scaled (4 * m + 2) (e - 2) (-k)
  if m % 2 = 0 then low.num ≤ c * low.den && c * high.den ≤ high.num
  else low.num < c * low.den && c * high.den < high.num

/-- The exponent `k` with `10 ^ k ≤ m * 2 ^ e < 10 ^ (k + 1)`, found upward from `k`. -/
def magnitudeFrom (m : Nat) (e : Int) : Nat → Int → Int
  | 0, k => k
  | fuel + 1, k =>
    let r := Ratio.scaled m e (-(k + 1))
    if r.den ≤ r.num then magnitudeFrom m e fuel (k + 1) else k

/-- The decimal exponent of the first digit of `m * 2 ^ e`. -/
def magnitude (m : Nat) (e : Int) : Int :=
  let binary : Int := e + (Nat.log2 m : Int)
  magnitudeFrom m e 4 ((binary * 30103) / 100000 - 1)

/-- Drops the zeros at the end. -/
def trim : Nat → Nat → Int → Shortest
  | 0, c, k => ⟨c, k⟩
  | fuel + 1, c, k => if c % 10 = 0 && c ≠ 0 then trim fuel (c / 10) (k + 1) else ⟨c, k⟩

/-- Tries `n` digits, then more, until a neighbour on the grid rounds to the number. -/
def search (m : Nat) (e top : Int) : Nat → Nat → Shortest
  | 0, _ => ⟨0, 0⟩
  | fuel + 1, n =>
    let k := top - n + 1
    let r := Ratio.scaled m e (-k)
    let c := r.num / r.den
    let nearer := if 2 * (r.num - c * r.den) ≤ r.den then c else c + 1
    let other := if nearer = c then c + 1 else c
    if rounds m e nearer k then trim 20 nearer k
    else if rounds m e other k then trim 20 other k
    else search m e top fuel (n + 1)

/-- The shortest decimal that reads back as `m * 2 ^ e`, the nearest of those. -/
def ofBinary (m : Nat) (e : Int) : Shortest :=
  if m = 0 then ⟨0, 0⟩ else search m e (magnitude m e) 20 1

end Shortest
end Mend.Decimal
