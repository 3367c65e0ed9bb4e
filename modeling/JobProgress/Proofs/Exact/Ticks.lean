import JobProgress.Proofs.Exact.View
import JobProgress.Proofs.Effect
import Mathlib.Data.Rat.Floor

/-! In exact arithmetic ticks lose nothing: as long as no more is reported than
the task was declared with, what was sent and the carried fraction add up to
what was reported. -/

namespace JobProgress

namespace Amount

theorem floor_rat (amount : Rat) : floor amount = (⌊amount⌋ : Rat) := rfl

theorem toUnits_floor_rat (amount : Rat) : toUnits (floor amount) = min ⌊amount⌋₊ maxUnits := by
  change min (⌊((⌊amount⌋ : Int) : Rat)⌋).toNat maxUnits = min ⌊amount⌋₊ maxUnits
  rw [Int.floor_intCast, Int.floor_toNat]

end Amount

namespace Ticks

open Amount

def collected (ticks : Ticks Rat) : Rat := ticks.reported + ticks.carry

/-- Less than a unit is carried, and what was collected lies within the task. -/
structure Sound (ticks : Ticks Rat) : Prop where
  carry_nonneg : 0 ≤ ticks.carry
  carry_lt_one : ticks.carry < 1
  within : ticks.collected ≤ ticks.total
  fits : ticks.total ≤ maxUnits

theorem ofTotal_sound {total : Nat} (fits : total ≤ maxUnits) :
    (ofTotal total : Ticks Rat).Sound where
  carry_nonneg := le_refl 0
  carry_lt_one := zero_lt_one
  within := by simp [collected, ofTotal]
  fits := fits

@[simp] theorem ofTotal_total (total : Nat) : (ofTotal total : Ticks Rat).total = total := rfl

@[simp] theorem collected_ofTotal (total : Nat) : (ofTotal total : Ticks Rat).collected = 0 := by
  simp [collected, ofTotal]

/-- What a report makes of ticks, whether the amount fits into the task or not: of what is carried
and reported together the whole part is sent, as far as units remain, and the fraction is
carried on. -/
theorem report_exact {ticks : Ticks Rat} (nonneg : 0 ≤ ticks.carry) (small : ticks.carry < 1)
    (fits : ticks.total ≤ maxUnits) (amount : Rat) :
    (ticks.report amount).1.carry = Int.fract (ticks.carry + max amount 0) ∧
      (ticks.report amount).1.reported =
        ticks.reported + min ⌊ticks.carry + max amount 0⌋₊ ticks.remaining := by
  simp only [Ticks.report]
  split
  · next ignored =>
      have nothing : max amount 0 = 0 := max_eq_right (by simpa using ignored)
      have whole : ⌊ticks.carry⌋₊ = 0 := Nat.floor_eq_zero.mpr small
      rw [nothing, add_zero, whole, Nat.zero_min, Nat.add_zero]
      exact ⟨(Int.fract_eq_self.mpr ⟨nonneg, small⟩).symm, rfl⟩
  · next counted =>
      have amountNonneg : 0 ≤ amount := le_of_lt (by simpa using counted)
      have carried : 0 ≤ ticks.carry + amount := add_nonneg nonneg amountNonneg
      rw [max_eq_left amountNonneg]
      split
      · next fractional =>
          have noUnit : ⌊ticks.carry + amount⌋ < 1 := by
            rw [floor_rat, ofUnits_rat] at fractional
            exact_mod_cast fractional
          have below : ticks.carry + amount < 1 := by exact_mod_cast Int.floor_lt.mp noUnit
          have whole : ⌊ticks.carry + amount⌋₊ = 0 := Nat.floor_eq_zero.mpr below
          rw [whole, Nat.zero_min, Nat.add_zero]
          exact ⟨(Int.fract_eq_self.mpr ⟨carried, below⟩).symm, rfl⟩
      · -- The largest count of units holds back nothing that remains.
        have units : min (toUnits (floor (ticks.carry + amount))) ticks.remaining =
            min ⌊ticks.carry + amount⌋₊ ticks.remaining := by
          rw [toUnits_floor_rat]
          simp only [Ticks.remaining]
          omega
        rw [units]
        exact ⟨Int.self_sub_floor _, rfl⟩

namespace Sound

variable {ticks : Ticks Rat} {amount : Rat}

theorem reported_eq_floor (sound : ticks.Sound) : ticks.reported = ⌊ticks.collected⌋₊ := by
  symm
  rw [collected, Nat.floor_eq_iff (by have := sound.carry_nonneg; positivity)]
  constructor
  · linarith [sound.carry_nonneg]
  · linarith [sound.carry_lt_one]

theorem floor_le_remaining (sound : ticks.Sound) (nonneg : 0 ≤ amount)
    (fits : ticks.collected + amount ≤ ticks.total) :
    ⌊ticks.carry + amount⌋₊ ≤ ticks.remaining := by
  have carried := sound.carry_nonneg
  have whole : (⌊ticks.carry + amount⌋₊ : Rat) ≤ ticks.carry + amount :=
    Nat.floor_le (by positivity)
  have sum : (ticks.reported : Rat) + ⌊ticks.carry + amount⌋₊ ≤ ticks.total := by
    rw [collected] at fits
    linarith
  have units : ticks.reported + ⌊ticks.carry + amount⌋₊ ≤ ticks.total := by exact_mod_cast sum
  simp only [remaining]
  omega

theorem units_le_remaining (sound : ticks.Sound) (nonneg : 0 ≤ amount)
    (fits : ticks.collected + amount ≤ ticks.total) :
    toUnits (floor (ticks.carry + amount)) ≤ ticks.remaining := by
  rw [toUnits_floor_rat]
  exact le_trans (Nat.min_le_left _ _) (sound.floor_le_remaining nonneg fits)

/-- What a report makes of ticks that an amount fits into: nothing of the amount
is lost, and what is carried stays below a unit. -/
theorem report_spec (sound : ticks.Sound) (nonneg : 0 ≤ amount)
    (fits : ticks.collected + amount ≤ ticks.total) :
    (ticks.report amount).1.collected = ticks.collected + amount ∧
      0 ≤ (ticks.report amount).1.carry ∧ (ticks.report amount).1.carry < 1 := by
  have carried : 0 ≤ ticks.carry + amount := add_nonneg sound.carry_nonneg nonneg
  rcases report_exact sound.carry_nonneg sound.carry_lt_one sound.fits amount with
    ⟨carry, reported⟩
  rw [max_eq_left nonneg] at carry reported
  rw [Nat.min_eq_left (sound.floor_le_remaining nonneg fits)] at reported
  refine ⟨?_, ?_, ?_⟩
  · have parts : (⌊ticks.carry + amount⌋₊ : Rat) + Int.fract (ticks.carry + amount) =
        ticks.carry + amount := by
      rw [natCast_floor_eq_intCast_floor carried, Int.floor_add_fract]
    rw [collected, collected, carry, reported, Nat.cast_add, add_assoc, parts, add_assoc]
  · exact carry ▸ Int.fract_nonneg _
  · exact carry ▸ Int.fract_lt_one _

theorem report (sound : ticks.Sound) (nonneg : 0 ≤ amount)
    (fits : ticks.collected + amount ≤ ticks.total) : (ticks.report amount).1.Sound := by
  rcases sound.report_spec nonneg fits with ⟨collected, carryNonneg, carryLt⟩
  refine ⟨carryNonneg, carryLt, ?_, ?_⟩
  · rw [collected, report_total]
    exact fits
  · rw [report_total]
    exact sound.fits

theorem reported_le (sound : ticks.Sound) : ticks.reported ≤ ticks.total := by
  have within := sound.within
  rw [collected] at within
  have cast : (ticks.reported : Rat) ≤ ticks.total := by linarith [sound.carry_nonneg]
  exact_mod_cast cast

theorem remaining_eq_zero (sound : ticks.Sound) (whole : ticks.collected = ticks.total) :
    ticks.remaining = 0 := by
  have reported := sound.reported_eq_floor
  rw [whole, Nat.floor_natCast] at reported
  rw [remaining, reported, Nat.sub_self]

theorem finish_reported (sound : ticks.Sound) : ticks.finish.1.reported = ticks.total :=
  Nat.add_sub_cancel' sound.reported_le

theorem finish_collected (sound : ticks.Sound) : ticks.finish.1.collected = ticks.total := by
  rw [collected, sound.finish_reported]
  exact add_zero _

theorem finish (sound : ticks.Sound) : ticks.finish.1.Sound where
  carry_nonneg := le_refl 0
  carry_lt_one := zero_lt_one
  within := sound.finish_collected.le
  fits := sound.fits

end Sound

end Ticks

end JobProgress
