import Mathlib.Data.List.Palindrome
import Mathlib.Data.Nat.Digits.Lemmas
import Mathlib.Data.Nat.ModEq

/-!
# Numbers that are the same both ways round

The digits of a number in a base, from either end.  A number of several digits that is the same
both ways round starts with the digit that it ends with.  Counting on a little changes the last
digit and leaves the first as it was, so no other such number follows soon.
-/

namespace ScuffleVideo.Wire.Digits

variable {base number more : Nat}

/-- The digit that a number starts with. -/
def leading (base number : Nat) : Nat := (Nat.digits base number).getLast?.getD 0

theorem leading_of_lt (small : number < base) : leading base number = number := by
  rcases Nat.eq_zero_or_pos number with rfl | positive
  · rw [leading, Nat.digits_zero]
    rfl
  · rw [leading, Nat.digits_of_lt base number (Nat.ne_of_gt positive) small]
    rfl

/-- What stands in front of the last digit starts as the number does. -/
theorem leading_div (wide : 1 < base) (large : base ≤ number) :
    leading base (number / base) = leading base number := by
  have front : 0 < number / base := Nat.div_pos large (by omega)
  have some : Nat.digits base (number / base) ≠ [] :=
    Nat.digits_ne_nil_iff_ne_zero.mpr (Nat.ne_of_gt front)
  rw [leading, leading, Nat.digits_def' wide (show 0 < number by omega), List.getLast?_cons,
    List.getLast?_eq_some_getLast some]
  rfl

/-- Counting on by one changes the first digit by one at most, unless all digits are full. -/
theorem leading_succ (wide : 1 < base) (number : Nat) :
    leading base (number + 1) = leading base number ∨
      leading base (number + 1) = leading base number + 1 ∨
      leading base number + 1 = base ∧ leading base (number + 1) = 1 := by
  induction number using Nat.strong_induction_on with
  | _ number ih =>
      rcases Nat.lt_trichotomy (number + 1) base with small | full | large
      · rw [leading_of_lt small, leading_of_lt (by omega)]
        exact .inr (.inl rfl)
      · have next : leading base (number + 1) = 1 := by
          rw [full, ← leading_div wide (Nat.le_refl base), Nat.div_self (by omega),
            leading_of_lt wide]
        rw [leading_of_lt (show number < base by omega)]
        exact .inr (.inr ⟨full, next⟩)
      · rw [← leading_div wide (show base ≤ number + 1 by omega),
          ← leading_div wide (show base ≤ number by omega), Nat.succ_div]
        split
        · exact ih _ (Nat.div_lt_self (by omega) wide)
        · exact .inl rfl

/-- A number of several digits that is the same both ways round starts as it ends. -/
theorem leading_of_palindrome (wide : 1 < base) (large : base ≤ number)
    (same : (Nat.digits base number).Palindrome) : leading base number = number % base := by
  have ends := congrArg List.head? same.reverse_eq
  rw [List.head?_reverse] at ends
  rw [leading, ends, Nat.digits_def' wide (show 0 < number by omega)]
  rfl

theorem palindrome_of_lt (small : number < base) : (Nat.digits base number).Palindrome := by
  rcases Nat.eq_zero_or_pos number with rfl | positive
  · rw [Nat.digits_zero]
    exact .nil
  · rw [Nat.digits_of_lt base number (Nat.ne_of_gt positive) small]
    exact .singleton number

/-- Soon behind a number of several digits that is the same both ways round there is no other. -/
theorem not_palindrome_add (large : base ≤ number) (beyond : 2 < more) (soon : more + 1 < base)
    (same : (Nat.digits base number).Palindrome) :
    ¬(Nat.digits base (number + more)).Palindrome := by
  intro other
  have wide : 1 < base := by omega
  have before := leading_of_palindrome wide large same
  have behind := leading_of_palindrome wide (show base ≤ number + more by omega) other
  rw [← leading_div wide large] at before
  rw [← leading_div wide (by omega)] at behind
  have inside := Nat.mod_lt number (show 0 < base by omega)
  have rest : more % base = more := Nat.mod_eq_of_lt (by omega)
  have none : more / base = 0 := Nat.div_eq_of_lt (by omega)
  rcases Nat.lt_or_ge (number % base + more % base) base with within | carry
  · rw [Nat.add_div_eq_of_add_mod_lt within, none, Nat.add_zero, before,
      Nat.add_mod_of_add_mod_lt within] at behind
    omega
  · have last := Nat.add_mod_add_of_le_add_mod carry
    rw [Nat.add_div_eq_of_le_mod_add_mod carry (by omega), none, Nat.add_zero] at behind
    rcases leading_succ wide (number / base) with alike | further | ⟨full, one⟩
    · omega
    · omega
    · omega

/-- So of two such numbers that follow each other soon the first has a single digit. -/
theorem lt_of_palindromes {next : Nat} (beyond : number + 2 < next) (soon : next + 1 < number + base)
    (same : (Nat.digits base number).Palindrome) (other : (Nat.digits base next).Palindrome) :
    number < base := by
  by_contra large
  obtain ⟨more, rfl⟩ := Nat.exists_eq_add_of_le (show number ≤ next by omega)
  exact not_palindrome_add (by omega) (by omega) (by omega) same other

end ScuffleVideo.Wire.Digits
