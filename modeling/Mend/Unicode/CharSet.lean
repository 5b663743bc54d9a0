/-!
# Sets of characters

A set of code points as ranges in ascending order with gaps between them.
-/

namespace Mend.Unicode

/-- A set of code points. -/
structure CharSet where
  ranges : Array (Nat × Nat)
  deriving DecidableEq, Repr, Inhabited

namespace CharSet

/-- The largest code point. -/
def top : Nat := 0x10FFFF

/-- Adds a range after those in `acc`, whose last comes first, joining it with one that it touches. -/
def insertLast (acc : List (Nat × Nat)) (r : Nat × Nat) : List (Nat × Nat) :=
  match acc with
  | (lo, hi) :: rest => if r.1 ≤ hi + 1 then (lo, max hi r.2) :: rest else r :: acc
  | [] => [r]

/-- The set that holds the given ranges. -/
def ofRanges (rs : List (Nat × Nat)) : CharSet :=
  let sorted := (rs.filter fun r => r.1 ≤ r.2).mergeSort fun a b => a.1 < b.1 || (a.1 = b.1 && a.2 ≤ b.2)
  ⟨(sorted.foldl insertLast []).reverse.toArray⟩

/-- The set without members. -/
def empty : CharSet := ⟨#[]⟩
/-- The set of all code points. -/
def all : CharSet := ⟨#[(0, top)]⟩
/-- The set with one member. -/
def single (c : Char) : CharSet := ⟨#[(c.toNat, c.toNat)]⟩

/-- The members of either set. -/
def union (a b : CharSet) : CharSet := ofRanges (a.ranges.toList ++ b.ranges.toList)

/-- The gaps between ranges, from `next` up to `limit`. -/
def gaps (limit next : Nat) : List (Nat × Nat) → List (Nat × Nat)
  | [] => if next ≤ limit then [(next, limit)] else []
  | (lo, hi) :: rest =>
    if next < lo then (next, lo - 1) :: gaps limit (hi + 1) rest else gaps limit (hi + 1) rest

/-- The code points up to `limit` that are not in the set. -/
def complement (limit : Nat) (s : CharSet) : CharSet := ⟨(gaps limit 0 s.ranges.toList).toArray⟩

/-- The members of both sets. -/
def inter (a b : CharSet) : CharSet := complement top (union (complement top a) (complement top b))

/-- The members of `a` that are not in `b`. -/
def diff (a b : CharSet) : CharSet := inter a (complement top b)

/-- The members of exactly one set. -/
def symmDiff (a b : CharSet) : CharSet := diff (union a b) (inter a b)

/-- Looks for a code point in the ranges from index `lo` up to `hi`, by halving. -/
def search (rs : Array (Nat × Nat)) (n : Nat) : Nat → Nat → Nat → Bool
  | 0, _, _ => false
  | fuel + 1, lo, hi =>
    if lo < hi then
      let mid := (lo + hi) / 2
      match rs[mid]? with
      | none => false
      | some (a, b) =>
        if n < a then search rs n fuel lo mid
        else if b < n then search rs n fuel (mid + 1) hi
        else true
    else false

/-- Whether a code point is in the set. -/
def contains (s : CharSet) (n : Nat) : Bool := search s.ranges n (Nat.log2 s.ranges.size + 2) 0 s.ranges.size

/-- The greatest member. -/
def last? (s : CharSet) : Option Nat := s.ranges.back?.map Prod.snd

end CharSet
end Mend.Unicode
