import Mathlib.Algebra.Group.Nat.Defs
import Mend.CycleId
import Mend.Proofs.Text

/-!
# Identifiers as texts

An identifier is read back from its digits (`parse_toText`), so that different identifiers have different
texts (`toText_inj`).
-/

namespace Mend.CycleId

theorem eq_of_value {a b : CycleId} (h : a.value = b.value) : a = b := by
  obtain ⟨a, ha⟩ := a
  obtain ⟨b, hb⟩ := b
  obtain rfl : a = b := h
  rfl

theorem digit?_alphabet : ∀ n < 32, digit? (alphabet.getD n '0') = some n := by decide

theorem alphabet_ascii : ∀ n < 32, (alphabet.getD n '0').toNat < 128 := by decide

theorem forall_mem_digits {P : Char → Prop} (h : ∀ n < 32, P (alphabet.getD n '0')) (k n : Nat) {acc : List Char}
    (hacc : ∀ c ∈ acc, P c) : ∀ c ∈ digits k n acc, P c := by
  induction k generalizing n acc with
  | zero => exact hacc
  | succ k ih =>
    refine ih _ fun c hc => ?_
    rcases List.mem_cons.mp hc with rfl | hc
    · exact h _ (Nat.mod_lt _ (by omega))
    · exact hacc c hc

theorem digits_ascii (k n : Nat) : ∀ c ∈ digits k n [], c.toNat < 128 :=
  forall_mem_digits alphabet_ascii k n (by simp)

theorem length_digits (k n : Nat) (acc : List Char) : (digits k n acc).length = k + acc.length := by
  induction k generalizing n acc with
  | zero => simp [digits]
  | succ k ih => rw [digits, ih, List.length_cons]; omega

/-- The digits before others are read as the low bits of the number. -/
theorem readDigits_digits (k n : Nat) (acc : List Char) (m : Nat) :
    readDigits (digits k n acc) (m % count) = readDigits acc ((m * 32 ^ k + n % 32 ^ k) % count) := by
  induction k generalizing n acc m with
  | zero => simp [digits, Nat.mod_one]
  | succ k ih =>
    rw [digits, ih, readDigits, digit?_alphabet _ (Nat.mod_lt _ (by omega))]
    have hpow : n % 32 ^ (k + 1) = n / 32 % 32 ^ k * 32 + n % 32 := by
      rw [Nat.pow_succ, Nat.mul_comm (32 ^ k) 32, Nat.mod_mul]
      omega
    have hsum : (m * 32 ^ k + n / 32 % 32 ^ k) * 32 + n % 32 = m * 32 ^ (k + 1) + n % 32 ^ (k + 1) := by
      rw [hpow, Nat.pow_succ, Nat.add_mul, Nat.mul_assoc, Nat.add_assoc]
    simp only
    congr 1
    rw [← hsum, Nat.add_mod, Nat.mod_mul_mod, ← Nat.add_mod]

theorem parse_toText (id : CycleId) : parse id.toText = .ok id := by
  obtain ⟨n, hn⟩ := id
  have hread := readDigits_digits 26 n [] 0
  have hsmall : n % 32 ^ 26 = n := Nat.mod_eq_of_lt (by unfold count at hn; omega)
  rw [Nat.zero_mod, Nat.zero_mul, Nat.zero_add, hsmall, Nat.mod_eq_of_lt hn, readDigits] at hread
  rw [parse, toText, Text.utf8ByteSize_ascii (digits_ascii 26 n), length_digits, String.toList_ofList, hread]
  simp [Nat.mod_eq_of_lt hn]

theorem toText_inj {a b : CycleId} (h : a.toText = b.toText) : a = b := by
  have hparse := parse_toText a
  rw [h, parse_toText] at hparse
  exact (Except.ok.inj hparse).symm

theorem alphabet_ne_nul : ∀ n < 32, alphabet.getD n '0' ≠ '\x00' := by decide

theorem toText_ne_nul (id : CycleId) : '\x00' ∉ id.toText.toList := by
  rw [toText, String.toList_ofList]
  intro h
  have hdigits : ∀ c ∈ digits 26 id.value [], c ≠ '\x00' := forall_mem_digits alphabet_ne_nul 26 id.value (by simp)
  exact hdigits _ h rfl

theorem utf8ByteSize_toText (id : CycleId) : id.toText.utf8ByteSize = 26 := by
  rw [toText, Text.utf8ByteSize_ascii (digits_ascii 26 id.value), length_digits]
  rfl

theorem length_toText (id : CycleId) : id.toText.length = 26 := by
  rw [toText, String.length_ofList, length_digits]
  rfl

end Mend.CycleId
