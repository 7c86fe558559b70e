import CapabilityArena.Decimal.Numeral

/-!
Whole numbers in decimal digits. The digits of a number spell it, no number but zero starts with a zero, and
where the digits end can be seen by what follows; so numbers may be written one after the other as long as
something that is no digit stands between them.
-/

namespace CapabilityArena.Decimal

variable {m n : Nat} {i : Int}

theorem isDigit_of_mem_toDigits {c : Char} (hc : c ∈ Nat.toDigits 10 n) : c.isDigit = true :=
  Nat.isDigit_of_mem_toDigits (by decide) (by decide) hc

/-- The digits of a number spell it. -/
theorem digitsValue_toDigits (n : Nat) : digitsValue (Nat.toDigits 10 n) = n :=
  Nat.ofDigitChars_ten_toDigits

theorem eq_of_toDigits_eq (heq : Nat.toDigits 10 m = Nat.toDigits 10 n) : m = n := by
  rw [← digitsValue_toDigits m, heq, digitsValue_toDigits]

/-- The first digit of a number is zero for zero alone. -/
theorem head?_toDigits_ne_zero (hpos : 0 < n) : (Nat.toDigits 10 n).head? ≠ some '0' := by
  induction n using Nat.strongRecOn with
  | ind n ih =>
    by_cases hsmall : n < 10
    · rw [Nat.toDigits_of_lt_base hsmall, List.head?_cons]
      intro hzero
      have hn := Nat.digitChar_eq_zero.1 (Option.some.inj hzero)
      omega
    · have hfirst := ih (n / 10) (by omega) (by omega)
      obtain ⟨d, ds, hdigits⟩ := List.exists_cons_of_ne_nil (Nat.toDigits_ne_nil (n := n / 10) (b := 10))
      rw [hdigits] at hfirst
      rw [Nat.toDigits_of_base_le (by decide) (by omega), hdigits]
      exact hfirst

/-- Digits before something that is no digit are read apart from it. -/
theorem toDigits_append_inj {c : Char} {left right : List Char} (hc : c.isDigit = false)
    (heq : Nat.toDigits 10 m ++ c :: left = Nat.toDigits 10 n ++ c :: right) : m = n ∧ left = right := by
  have hdigits : ∀ k rest, (Nat.toDigits 10 k ++ c :: rest).takeWhile Char.isDigit = Nat.toDigits 10 k := by
    intro k rest
    rw [List.takeWhile_append_of_pos fun _ => isDigit_of_mem_toDigits, List.takeWhile_cons_of_neg (by simp [hc]),
      List.append_nil]
  have hsame : Nat.toDigits 10 m = Nat.toDigits 10 n := by
    rw [← hdigits m left, heq, hdigits]
  rw [hsame] at heq
  have hrest := List.append_cancel_left heq
  exact ⟨eq_of_toDigits_eq hsame, (List.cons.inj hrest).2⟩

namespace Numeral

/-- A whole number is read back from its numeral as long as sixty-four bits hold it, with a sign or without. -/
theorem integer?_ofInt (hlow : -0x8000000000000000 ≤ i) (hhigh : i < 0x10000000000000000) :
    (ofInt i).integer? = some i := by
  simp only [integer?, ofInt, digitsValue_toDigits, List.isEmpty_nil, Option.isNone_none, Bool.and_self,
    if_true, decide_eq_true_eq]
  by_cases hnegative : i < 0
  · rw [if_pos hnegative, if_pos (by omega)]
    exact congrArg some (by omega)
  · rw [if_neg hnegative, if_pos (by omega)]
    exact congrArg some (by omega)

end Numeral

end CapabilityArena.Decimal
