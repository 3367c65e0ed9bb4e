namespace JobProgress.Text

/-! A class of characters is a list of ranges of code points, both ends
included. -/

def inRanges (ranges : List (Nat × Nat)) (codePoint : Nat) : Bool :=
  ranges.any fun (first, last) => first ≤ codePoint && codePoint ≤ last

/-- Whether every range is nonempty and ends before the next begins, with a
gap between the two. -/
def Ascending : List (Nat × Nat) → Prop
  | [] => True
  | [(first, last)] => first ≤ last
  | (first, last) :: (next, stop) :: ranges =>
      first ≤ last ∧ last + 1 < next ∧ Ascending ((next, stop) :: ranges)

instance : (ranges : List (Nat × Nat)) → Decidable (Ascending ranges)
  | [] => isTrue trivial
  | [(first, last)] => inferInstanceAs (Decidable (first ≤ last))
  | (first, last) :: (next, stop) :: ranges =>
      have : Decidable (Ascending ((next, stop) :: ranges)) :=
        instDecidableAscending ((next, stop) :: ranges)
      inferInstanceAs (Decidable (first ≤ last ∧ last + 1 < next ∧ _))

end JobProgress.Text
