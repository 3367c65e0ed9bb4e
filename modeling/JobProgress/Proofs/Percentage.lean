import JobProgress.Sink.Status

/-! A percentage is a hundred times the units reported, in parts of the total. A count cannot
hold a hundred times the units of a very large task, and the percentage stays behind there. -/

namespace JobProgress

theorem Units.saturatingMul_div (left right total : Nat) :
    Units.saturatingMul left right / total = min (left * right / total) (maxUnits / total) := by
  rw [saturatingMul]
  rcases Nat.le_total (left * right) maxUnits with fits | beyond
  · rw [Nat.min_eq_left fits, Nat.min_eq_left (Nat.div_le_div_right fits)]
  · rw [Nat.min_eq_right beyond, Nat.min_eq_right (Nat.div_le_div_right beyond)]

namespace ProgressSnapshot

variable {snapshot : ProgressSnapshot}

def exactPercentage (snapshot : ProgressSnapshot) : Nat :=
  100 * min snapshot.worked snapshot.total / snapshot.total

theorem exactPercentage_le (snapshot : ProgressSnapshot) : snapshot.exactPercentage ≤ 100 := by
  apply Nat.div_le_of_le_mul
  have within := Nat.min_le_right snapshot.worked snapshot.total
  omega

theorem exactPercentage_eq_hundred_iff (declared : 0 < snapshot.total) :
    snapshot.exactPercentage = 100 ↔ snapshot.total ≤ snapshot.worked := by
  have most := snapshot.exactPercentage_le
  have reached : 100 ≤ snapshot.exactPercentage ↔
      100 * snapshot.total ≤ 100 * min snapshot.worked snapshot.total :=
    Nat.le_div_iff_mul_le declared
  omega

/-! ## What is shown -/

theorem percentage_eq_none_iff : snapshot.percentage = none ↔ snapshot.total = 0 := by
  rw [percentage]
  split <;> simp_all

theorem percentage_eq_min (declared : 0 < snapshot.total) :
    snapshot.percentage = some (min snapshot.exactPercentage (maxUnits / snapshot.total)) := by
  rw [percentage, if_neg (Nat.ne_of_gt declared), Units.saturatingMul_div, Nat.mul_comm,
    exactPercentage]

theorem hundred_le_limit_iff (declared : 0 < snapshot.total) :
    100 ≤ maxUnits / snapshot.total ↔ 100 * snapshot.total ≤ maxUnits :=
  Nat.le_div_iff_mul_le declared

theorem percentage_eq_exact (declared : 0 < snapshot.total)
    (fits : 100 * snapshot.total ≤ maxUnits) :
    snapshot.percentage = some snapshot.exactPercentage := by
  have room : 100 ≤ maxUnits / snapshot.total := (hundred_le_limit_iff declared).mpr fits
  have held := Nat.le_trans snapshot.exactPercentage_le room
  rw [percentage_eq_min declared, Nat.min_eq_left held]

theorem percentage_le_of_grows {later : ProgressSnapshot} (sameTotal : later.total = snapshot.total)
    (grows : min snapshot.worked snapshot.total ≤ min later.worked snapshot.total) {percent : Nat}
    (shown : snapshot.percentage = some percent) :
    ∃ reached, later.percentage = some reached ∧ percent ≤ reached := by
  rw [percentage] at shown
  split at shown
  · cases shown
  · next declared =>
      cases shown
      refine ⟨_, by rw [percentage, sameTotal, if_neg declared], Nat.div_le_div_right ?_⟩
      simp only [Units.saturatingMul]
      omega

/-- The percentage lies within a hundred and only grows with the units reported. It is the part
that is done, rounded down, but never more than the largest count in parts of the total. So a
task is shown as complete when all of its units are reported and a count holds a hundred times
as many of them. -/
theorem percentage_held_at_limit (snapshot : ProgressSnapshot) (declared : 0 < snapshot.total) :
    ∃ percent, snapshot.percentage = some percent ∧
      percent = min snapshot.exactPercentage (maxUnits / snapshot.total) ∧
      percent ≤ 100 ∧
      (percent = 100 ↔
        snapshot.total ≤ snapshot.worked ∧ 100 * snapshot.total ≤ maxUnits) ∧
      (100 * snapshot.total ≤ maxUnits → percent = snapshot.exactPercentage) ∧
      ∀ worked, snapshot.worked ≤ worked →
        ∃ later, { snapshot with worked }.percentage = some later ∧ percent ≤ later := by
  have most := snapshot.exactPercentage_le
  have shown := percentage_eq_min declared
  refine ⟨_, shown, rfl, ?_, ?_, fun fits => ?_, fun worked more => ?_⟩
  · exact Nat.le_trans (Nat.min_le_left _ _) most
  · have complete := exactPercentage_eq_hundred_iff declared
    have limit := hundred_le_limit_iff declared
    omega
  · exact Option.some_inj.mp (shown.symm.trans (percentage_eq_exact declared fits))
  · have sameTotal : { snapshot with worked }.total = snapshot.total := rfl
    have grows : min snapshot.worked snapshot.total ≤ min worked snapshot.total := by omega
    exact percentage_le_of_grows sameTotal grows shown

theorem percentage_held_at_limit_of_half_done :
    let snapshot : ProgressSnapshot := ⟨"Indexing", none, maxUnits, maxUnits / 2, false⟩
    0 < snapshot.total ∧ ∃ percent, snapshot.percentage = some percent ∧ percent = 1 := by
  intro snapshot
  have declared : 0 < snapshot.total := by decide
  rcases percentage_held_at_limit snapshot declared with ⟨percent, shown, held, _⟩
  exact ⟨declared, percent, shown, held.trans (by decide)⟩

/-- All of the largest task is reported, and one percent is shown. -/
theorem percentage_of_largest_task :
    let snapshot : ProgressSnapshot := ⟨"Indexing", none, maxUnits, maxUnits, true⟩
    snapshot.percentage = some 1 ∧ snapshot.exactPercentage = 100 ∧
      ¬(snapshot.percentage = some 100 ↔ snapshot.total ≤ snapshot.worked) := by
  decide

end ProgressSnapshot

end JobProgress
