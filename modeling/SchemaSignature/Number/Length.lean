/-!
The length of whole numbers. Numbers with more digits than a limit are neither read nor written.
`fits_eq_true_iff` says that a number has at most so many digits if it is below that power of ten.
-/

namespace SchemaSignature.Number

/-- The greatest number of digits of a number that is read or written. -/
def digitLimit : Nat := 4300

/-- A number has at most so many digits; zero has none. -/
def fits : (digits number : Nat) → Bool
  | 0, number => number == 0
  | digits + 1, number => number < 10 || fits digits (number / 10)

theorem fits_eq_true_iff (digits number : Nat) :
    fits digits number = true ↔ number < Nat.pow 10 digits := by
  induction digits generalizing number with
  | zero => simp [fits]
  | succ digits inductionHypothesis =>
      have power : Nat.pow 10 (digits + 1) = Nat.pow 10 digits * 10 := rfl
      have positive : 0 < Nat.pow 10 digits := Nat.pow_pos (by decide)
      simp only [fits, Bool.or_eq_true, decide_eq_true_eq, inductionHypothesis, power,
        Nat.div_lt_iff_lt_mul (show 0 < 10 by decide)]
      constructor
      · intro short
        cases short with
        | inl single => omega
        | inr below => exact below
      · exact Or.inr

/-- The text of a number that is not too long to be written. -/
def numeral? (number : Nat) : Option String :=
  if fits digitLimit number then some (toString number) else none

end SchemaSignature.Number
