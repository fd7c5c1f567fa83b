import Mathlib.Tactic.Common

/-!
# Decimal digits

What is known of the digits that a natural number is written in: there is at least one, the first
is a zero only where it is the only one (`head?_toDigits_ne`), and reading them gives the number
(`foldl_toDigits`).
-/

namespace EventQuery.Text

theorem isDigit_of_mem_toDigits {n : Nat} {c : Char} (hc : c ∈ Nat.toDigits 10 n) :
    c.isDigit = true :=
  Nat.isDigit_of_mem_toDigits (by decide) (by decide) hc

theorem toDigits_eq_cons (n : Nat) : ∃ d ds, Nat.toDigits 10 n = d :: ds ∧ d.isDigit = true := by
  obtain ⟨d, ds, hd⟩ := List.exists_cons_of_ne_nil (Nat.toDigits_ne_nil (n := n) (b := 10))
  exact ⟨d, ds, hd, isDigit_of_mem_toDigits (hd ▸ List.mem_cons_self)⟩

/-- Digits are read from the left, each one behind ten times the number before it. -/
theorem foldl_toDigits (n : Nat) :
    (Nat.toDigits 10 n).foldl (fun m c => m * 10 + (c.toNat - '0'.toNat)) 0 = n := by
  have hfold := Nat.ofDigitChars_ten_toDigits (n := n)
  simpa only [Nat.ofDigitChars_eq_foldl, Nat.mul_comm 10] using hfold

theorem digitChar_ne_zero : ∀ n < 10, 0 < n → Nat.digitChar n ≠ '0' := by decide

/-- No zero stands in front of other digits. -/
theorem head?_toDigits_ne {n : Nat} (h : 0 < n) : (Nat.toDigits 10 n).head? ≠ some '0' := by
  induction n using Nat.strongRecOn with
  | ind n ih =>
    by_cases hn : n < 10
    · rw [Nat.toDigits_of_lt_base hn, List.head?_cons]
      exact fun e => digitChar_ne_zero n hn h (Option.some.inj e)
    · -- The last digit is not the first, which is that of the tenth part.
      obtain ⟨d, ds, hd, -⟩ := toDigits_eq_cons (n / 10)
      have hfirst := ih (n / 10) (by omega) (by omega)
      rw [Nat.toDigits_of_base_le (by decide) (by omega), hd]
      rw [hd] at hfirst
      exact hfirst

end EventQuery.Text
