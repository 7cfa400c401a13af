/-!
Sets of code points given as sorted lists of closed ranges.
-/

namespace SchemaSignature.Text

/-- `inRanges ranges code` means that one of the closed ranges contains `code`. -/
def inRanges (ranges : List (Nat × Nat)) (code : Nat) : Bool :=
  ranges.any fun range => range.1 ≤ code && code ≤ range.2

theorem inRanges_eq_true_iff (ranges : List (Nat × Nat)) (code : Nat) :
    inRanges ranges code = true ↔ ∃ range ∈ ranges, range.1 ≤ code ∧ code ≤ range.2 := by
  simp [inRanges]

end SchemaSignature.Text
