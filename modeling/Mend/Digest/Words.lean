/-!
# Words as bytes

A digest is eight words of thirty-two bits, laid out as thirty-two bytes.
-/

namespace Mend.Digest

/-- The bytes of eight words, four for each; the byte at place `k` of a word starts at bit `bit k`. -/
def layOut (words : Vector UInt32 8) (bit : Nat → Nat) : Vector UInt8 32 :=
  Vector.ofFn fun (i : Fin 32) =>
    (words.get ⟨i.val / 4, by omega⟩ >>> UInt32.ofNat (bit (i.val % 4))).toUInt8

end Mend.Digest
