import Mend.Count

/-!
# Spans of lines
-/

namespace Mend

/-- The lines from one to another, both of them included. -/
structure Span where
  first : Count
  last : Count
  deriving DecidableEq, Repr, Inhabited

namespace Span

/-- One line. -/
def line (n : Count) : Span := ⟨n, n⟩

/-- The lines between two lines, whichever comes first. -/
def between (a b : Count) : Span := if a ≤ b then ⟨a, b⟩ else ⟨b, a⟩

/-- All lines of any file. -/
def wholeFile : Span := ⟨0, Count.max⟩

/-- The spans have a line in common. -/
def overlaps (a b : Span) : Bool := a.first ≤ b.last && b.first ≤ a.last

instance : Ord Span := ⟨fun a b => (compare a.first b.first).then (compare a.last b.last)⟩

theorem overlaps_comm (a b : Span) : a.overlaps b = b.overlaps a := by
  simp [overlaps, Bool.and_comm]

end Span
end Mend
