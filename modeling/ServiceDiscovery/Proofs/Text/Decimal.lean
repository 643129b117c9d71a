import ServiceDiscovery.Text.Ascii

namespace ServiceDiscovery.Text

theorem ascii_digit_of_decimal (n : Nat) (c : Char) (inside : c ∈ Nat.toDigits 10 n) :
    isAsciiDigit c = true :=
  Nat.isDigit_of_mem_toDigits (by decide) (by decide) inside

theorem numeral_of_digits (digits : List Char) (n : Nat)
    (legal : ∀ c ∈ digits, isAsciiDigit c = true) :
    digits.foldl (fun n c => n * 10 + digitValue c) n = Nat.ofDigitChars 10 digits n := by
  induction digits generalizing n with
  | nil => rfl
  | cons c rest ih =>
      obtain ⟨first, others⟩ := List.forall_mem_cons.1 legal
      rw [List.foldl_cons, ih _ others, Nat.ofDigitChars_cons, digitValue, if_pos first,
        Nat.mul_comm]

theorem numeral_decimal (n : Nat) : numeral 10 (Nat.toDigits 10 n) = n := by
  rw [numeral, numeral_of_digits _ 0 (ascii_digit_of_decimal n), Nat.ofDigitChars_ten_toDigits]

theorem decimal_head (n : Nat) (positive : 0 < n) (tail : List Char) :
    Nat.toDigits 10 n ≠ '0' :: tail := by
  induction n using Nat.strongRecOn generalizing tail with
  | ind n ih =>
      rw [Nat.toDigits_eq_if (by decide)]
      by_cases small : n < 10
      · have all : ∀ n < 10, 0 < n → n.digitChar ≠ '0' := by decide
        rw [if_pos small]
        intro same
        exact all n small positive (List.cons.inj same).1
      · have higher := ih (n / 10) (by omega) (by omega)
        rw [if_neg small]
        intro same
        rcases List.append_eq_cons_iff.1 same with ⟨empty, _⟩ | ⟨rest, same, _⟩
        · exact Nat.toDigits_ne_nil empty
        · exact higher rest same

theorem not_mem_decimal (separator : Char) (n : Nat) (digitless : separator.isDigit = false) :
    separator ∉ (toString n).toList := by
  rw [Nat.toString_eq_ofList_toDigits, String.toList_ofList]
  intro inside
  rw [Nat.isDigit_of_mem_toDigits (by decide) (by decide) inside] at digitless
  cases digitless

theorem decimal_inj (m n : Nat) (same : toString m = toString n) : m = n := by
  rw [Nat.toString_eq_ofList_toDigits, Nat.toString_eq_ofList_toDigits] at same
  have digits : Nat.toDigits 10 m = Nat.toDigits 10 n := by
    simpa only [String.toList_ofList] using congrArg String.toList same
  calc
    m = Nat.ofDigitChars 10 (Nat.toDigits 10 m) 0 := Nat.ofDigitChars_ten_toDigits.symm
    _ = Nat.ofDigitChars 10 (Nat.toDigits 10 n) 0 := by rw [digits]
    _ = n := Nat.ofDigitChars_ten_toDigits

end ServiceDiscovery.Text
