import Mend.Json.Basic

/-!
# Counts

Counts of lines, issues and outcomes are numbers of thirty-two bits. One that would grow past the
largest of them stays there.
-/

namespace Mend

/-- A number of thirty-two bits. -/
abbrev Count := UInt32

namespace Count

/-- The largest count. -/
def max : Count := 0xFFFFFFFF

/-- The nearest count to a number. -/
def ofNatClamped (n : Nat) : Count := if n < UInt32.size then UInt32.ofNat n else max

/-- The sum, or the largest count if the sum is past it. -/
def add (a b : Count) : Count := ofNatClamped (a.toNat + b.toNat)

theorem toNat_ofNatClamped (n : Nat) : (ofNatClamped n).toNat = min n (UInt32.size - 1) := by
  unfold ofNatClamped
  split
  · next h => rw [UInt32.toNat_ofNat', Nat.mod_eq_of_lt h]; omega
  · next h => rw [show max.toNat = UInt32.size - 1 from rfl]; omega

theorem toNat_add (a b : Count) : (add a b).toNat = min (a.toNat + b.toNat) (UInt32.size - 1) :=
  toNat_ofNatClamped _

end Count

namespace Json

/-- A count, as a whole number. -/
def ofCount (c : Count) : Json := .int c.toNat

/-- Reads a count. -/
def count? (j : Json) : Option Count := (j.nat? 32).map UInt32.ofNat

end Json
end Mend
