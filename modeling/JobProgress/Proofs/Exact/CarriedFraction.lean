import JobProgress.Proofs.Exact.Ticks
import JobProgress.Proofs.SentUnits

/-! In exact arithmetic the fraction that ticks carry makes up for the split of amounts into
reports: only what the amounts come to together decides which units were sent. They are its
whole part, as far as the task has units, and its fraction is carried. -/

namespace JobProgress.Ticks

/-- What amounts come to together, where those of zero and less count for nothing. -/
def worth (amounts : List Rat) : Rat := (amounts.map (max · 0)).sum

/-- Ticks as they are once amounts worth `sum` were reported: its whole part is sent, if there are
as many units, and its fraction is carried. -/
structure Received (ticks : Ticks Rat) (sum : Rat) : Prop where
  sum_nonneg : 0 ≤ sum
  carry_eq : ticks.carry = Int.fract sum
  reported_eq : ticks.reported = min ticks.total ⌊sum⌋₊
  fits : ticks.total ≤ maxUnits

theorem ofTotal_received {total : Nat} (fits : total ≤ maxUnits) :
    (ofTotal total : Ticks Rat).Received 0 where
  sum_nonneg := le_refl 0
  carry_eq := Int.fract_zero.symm
  reported_eq := by simp [ofTotal]
  fits := fits

namespace Received

variable {ticks : Ticks Rat} {sum : Rat}

theorem carry_nonneg (received : ticks.Received sum) : 0 ≤ ticks.carry :=
  received.carry_eq ▸ Int.fract_nonneg sum

theorem carry_lt_one (received : ticks.Received sum) : ticks.carry < 1 :=
  received.carry_eq ▸ Int.fract_lt_one sum

theorem sum_eq (received : ticks.Received sum) : sum = ⌊sum⌋₊ + ticks.carry := by
  rw [received.carry_eq, natCast_floor_eq_intCast_floor received.sum_nonneg,
    Int.floor_add_fract]

theorem report (received : ticks.Received sum) (amount : Rat) :
    (ticks.report amount).1.Received (sum + max amount 0) := by
  rcases report_exact received.carry_nonneg received.carry_lt_one received.fits amount with
    ⟨carry, reported⟩
  have counted : 0 ≤ max amount 0 := le_max_right amount 0
  have carried : 0 ≤ ticks.carry + max amount 0 := add_nonneg received.carry_nonneg counted
  have parts : sum + max amount 0 = ⌊sum⌋₊ + (ticks.carry + max amount 0) := by
    rw [← add_assoc, ← received.sum_eq]
  have whole : ⌊sum + max amount 0⌋₊ = ⌊sum⌋₊ + ⌊ticks.carry + max amount 0⌋₊ := by
    rw [parts, add_comm (⌊sum⌋₊ : Rat), Nat.floor_add_natCast carried, Nat.add_comm]
  refine ⟨add_nonneg received.sum_nonneg counted, ?_, ?_, ?_⟩
  · rw [carry, parts, Int.fract_natCast_add]
  · -- Cutting off at the total on the way is cutting off at the end.
    rw [report_total, reported, whole, remaining, received.reported_eq]
    omega
  · rw [report_total]
    exact received.fits

theorem reports (received : ticks.Received sum) (amounts : List Rat) :
    (ticks.afterCalls (amounts.map .report)).Received (sum + worth amounts) := by
  induction amounts generalizing ticks sum with
  | nil => exact (add_zero sum).symm ▸ received
  | cons amount amounts induction =>
      have first := received.report amount
      have rest := induction first
      rwa [add_assoc] at rest

theorem eq_of_total {other : Ticks Rat} (received : ticks.Received sum)
    (same : other.Received sum) (total : other.total = ticks.total) : other = ticks := by
  have reported : other.reported = ticks.reported := by
    rw [same.reported_eq, received.reported_eq, total]
  have carry : other.carry = ticks.carry := same.carry_eq.trans received.carry_eq.symm
  cases other
  cases ticks
  simp_all only

end Received

theorem received_reports (total : UInt64) (amounts : List Rat) :
    ((ofTotal total.toNat : Ticks Rat).afterCalls (amounts.map .report)).Received
      (worth amounts) := by
  have received := (ofTotal_received (argument_le_maxUnits total)).reports amounts
  rwa [zero_add] at received

/-- However the work on a task is split into reports, the units sent after each of them are the
whole part of what was reported so far, as far as the task has units, and its fraction is carried
without loss. So ticks that were told of the same in other parts stand where these do. Finishing
sends exactly the units that are missing, and nothing is sent after that. -/
theorem sent_eq_floor_of_worth (total : UInt64) (amounts : List Rat) :
    let start : Ticks Rat := ofTotal total.toNat
    let reached := start.afterCalls (amounts.map .report)
    let sent := SinkCall.totalWorked (start.sentBy (amounts.map .report))
    sent = min total.toNat ⌊worth amounts⌋₊ ∧
      (reached.carry = Int.fract (worth amounts) ∧ 0 ≤ reached.carry ∧ reached.carry < 1) ∧
      (∀ others, worth others = worth amounts →
        start.afterCalls (others.map .report) = reached ∧
          SinkCall.totalWorked (start.sentBy (others.map .report)) = sent) ∧
      reached.finish.2 = SinkCall.report (total.toNat - sent) ∧
      ∀ later, reached.finish.1.sentBy later = [] := by
  intro start reached sent
  have received := received_reports total amounts
  have counted (others : List Rat) :
      (start.afterCalls (others.map .report)).reported =
        SinkCall.totalWorked (start.sentBy (others.map .report)) :=
    (ofTotal_counts total.toNat (others.map .report)).2.2
  have sameTotal (others : List Rat) :
      (start.afterCalls (others.map .report)).total = total.toNat :=
    (ofTotal_counts total.toNat (others.map .report)).1
  refine ⟨?_, ⟨?_, ?_, ?_⟩, ?_, ?_, ?_⟩
  · rw [← sameTotal amounts, ← received.reported_eq]
    exact (counted amounts).symm
  · exact received.carry_eq
  · exact received.carry_nonneg
  · exact received.carry_lt_one
  · intro others same
    have equal : start.afterCalls (others.map .report) = reached :=
      received.eq_of_total (same ▸ received_reports total others)
        ((sameTotal others).trans (sameTotal amounts).symm)
    refine ⟨equal, ?_⟩
    rw [← counted others, equal]
    exact counted amounts
  · change SinkCall.report (reached.total - reached.reported) = _
    rw [sameTotal amounts, counted amounts]
  · intro later
    exact (afterCalls_of_complete (remaining_finish reached) later).1

/-- Thirds of ten units, with an amount below zero among them, leave ticks as one report of all
ten does: no unit was lost, and the two that the task has more are missing. -/
theorem sent_eq_floor_of_worth_in_thirds :
    let thirds : List Rat := [10 / 3, 10 / 3, -10 / 3, 10 / 3]
    let start : Ticks Rat := ofTotal 12
    worth thirds = 10 ∧
      start.afterCalls (thirds.map .report) = start.afterCalls [.report 10] ∧
      SinkCall.totalWorked (start.sentBy (thirds.map .report)) = 10 ∧
      (start.afterCalls (thirds.map .report)).finish.2 = [.worked 2] := by
  intro thirds start
  have sum : worth thirds = 10 := by decide +kernel +zetaReduce
  have once : worth [10] = worth thirds := by decide +kernel +zetaReduce
  rcases sent_eq_floor_of_worth 12 thirds with ⟨sent, _, parts, missing, _⟩
  have whole : SinkCall.totalWorked (start.sentBy (thirds.map .report)) = 10 := by
    rw [sum] at sent
    exact sent
  refine ⟨sum, (parts [10] once).1.symm, whole, ?_⟩
  exact missing.trans (congrArg (fun sent => SinkCall.report (12 - sent)) whole)

end JobProgress.Ticks
