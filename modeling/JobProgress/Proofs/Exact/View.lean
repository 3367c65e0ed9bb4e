import JobProgress.View
import Mathlib.Tactic.FieldSimp
import Mathlib.Tactic.Linarith
import Mathlib.Tactic.Ring

/-! In exact arithmetic a view is a slice of which some is consumed. The
`slack` of a view is what it may still hand out; using scale units up, carving,
spreading over a fresh scale and closing move slack around and neither make nor
lose any. -/

namespace JobProgress

namespace Amount

@[simp] theorem ofUnits_rat (units : Nat) : (ofUnits units : Rat) = units := rfl

theorem positivePart_of_nonneg {amount : Rat} (nonneg : 0 ≤ amount) :
    positivePart amount = amount := by
  simp only [positivePart]
  split
  · rfl
  · next notPositive =>
      have zero : ¬0 < amount := by simpa using notPositive
      simpa using (le_antisymm nonneg (not_lt.mp zero))

end Amount

namespace View

open Amount

/-- Amount of the slice that is neither reported nor handed on. -/
def slack (view : View Rat) : Rat := view.capacity - view.consumed

/-- What is consumed lies within the slice, and is what the used scale units
are worth. -/
structure Sound (view : View Rat) : Prop where
  consumed_nonneg : 0 ≤ view.consumed
  consumed_le : view.consumed ≤ view.capacity
  used_le : view.used ≤ view.scale
  scale_le : view.scale ≤ maxUnits
  consumed_eq : view.scale ≠ 0 → view.consumed = view.position view.used

theorem position_eq (view : View Rat) (used : Nat) :
    view.position used = view.capacity * used / view.scale := rfl

theorem position_scale {view : View Rat} (scaled : view.scale ≠ 0) :
    view.position view.scale = view.capacity := by
  have positive : (view.scale : Rat) ≠ 0 := Nat.cast_ne_zero.mpr scaled
  rw [position_eq]
  field_simp

theorem position_mono {view : View Rat} (nonneg : 0 ≤ view.capacity) {fewer more : Nat}
    (le : fewer ≤ more) : view.position fewer ≤ view.position more := by
  have cast : (fewer : Rat) ≤ more := Nat.cast_le.mpr le
  rw [position_eq, position_eq]
  gcongr

namespace Sound

variable {view : View Rat}

theorem capacity_nonneg (sound : view.Sound) : 0 ≤ view.capacity :=
  le_trans sound.consumed_nonneg sound.consumed_le

theorem slack_nonneg (sound : view.Sound) : 0 ≤ view.slack :=
  sub_nonneg.mpr sound.consumed_le

theorem rest_eq (sound : view.Sound) : view.rest = view.slack :=
  positivePart_of_nonneg sound.slack_nonneg

end Sound

theorem root_sound {total : Nat} (fits : total ≤ maxUnits) : (root total : View Rat).Sound where
  consumed_nonneg := le_refl 0
  consumed_le := Nat.cast_nonneg total
  used_le := Nat.zero_le total
  scale_le := fits
  consumed_eq := fun _ => by simp [position, root]

@[simp] theorem slack_root (total : Nat) : (root total : View Rat).slack = total := by
  simp [slack, root]

/-! ## Rescaling -/

theorem Sound.rescale {view : View Rat} (sound : view.Sound) {units : Nat}
    (fits : units ≤ maxUnits) : (view.rescale units).Sound where
  consumed_nonneg := le_refl 0
  consumed_le := by
    change (0 : Rat) ≤ view.rest
    rw [sound.rest_eq]
    exact sound.slack_nonneg
  used_le := Nat.zero_le units
  scale_le := fits
  consumed_eq := fun _ => by simp [position, View.rescale]

theorem Sound.slack_rescale {view : View Rat} (sound : view.Sound) (units : Nat) :
    (view.rescale units).slack = view.slack := by
  have capacity : (view.rescale units).capacity = view.slack := sound.rest_eq
  have consumed : (view.rescale units).consumed = 0 := rfl
  rw [slack, capacity, consumed, sub_zero]

/-! ## Advancing -/

theorem advance_consumed {view : View Rat} (sound : view.Sound) (units : Nat) :
    view.consumed ≤ (view.advance units).1.consumed ∧
      (view.advance units).1.consumed ≤ view.capacity ∧
      ((view.advance units).1.scale ≠ 0 →
        (view.advance units).1.consumed = view.position (view.advance units).1.used) ∧
      (view.advance units).2 = (view.advance units).1.consumed - view.consumed := by
  simp only [advance]
  split
  · exact ⟨le_refl _, sound.consumed_le, sound.consumed_eq, (sub_self _).symm⟩
  · next working =>
      have scaled : view.scale ≠ 0 := fun zero => working (.inl zero)
      have more : view.used ≤ min (Units.saturatingAdd view.used units) view.scale := by
        have used := sound.used_le
        have fits := sound.scale_le
        simp only [Units.saturatingAdd]
        omega
      have grows : view.consumed ≤
          view.position (min (Units.saturatingAdd view.used units) view.scale) := by
        rw [sound.consumed_eq scaled]
        exact position_mono sound.capacity_nonneg more
      refine ⟨grows, ?_, fun _ => rfl, positivePart_of_nonneg (sub_nonneg.mpr grows)⟩
      calc view.position (min (Units.saturatingAdd view.used units) view.scale)
          ≤ view.position view.scale :=
            position_mono sound.capacity_nonneg (Nat.min_le_right _ _)
        _ = view.capacity := position_scale scaled

theorem Sound.advance {view : View Rat} (sound : view.Sound) (units : Nat) :
    (view.advance units).1.Sound := by
  rcases advance_consumed sound units with ⟨grows, within, placed, _⟩
  refine ⟨le_trans sound.consumed_nonneg grows, ?_, ?_, ?_, ?_⟩
  · rw [advance_capacity]
    exact within
  · rw [advance_used sound.used_le sound.scale_le, advance_scale]
    exact Nat.min_le_right _ _
  · rw [advance_scale]
    exact sound.scale_le
  · intro scaled
    rw [placed scaled, position_eq, position_eq, advance_capacity, advance_scale]

theorem Sound.advance_nonneg {view : View Rat} (sound : view.Sound) (units : Nat) :
    0 ≤ (view.advance units).2 := by
  rcases advance_consumed sound units with ⟨grows, _, _, amount⟩
  rw [amount]
  exact sub_nonneg.mpr grows

theorem Sound.slack_advance {view : View Rat} (sound : view.Sound) (units : Nat) :
    (view.advance units).1.slack + (view.advance units).2 = view.slack := by
  rcases advance_consumed sound units with ⟨_, _, _, amount⟩
  rw [amount, slack, slack, advance_capacity]
  ring

theorem Sound.advance_le_slack {view : View Rat} (sound : view.Sound) (units : Nat) :
    (view.advance units).2 ≤ view.slack := by
  rw [← sound.slack_advance units]
  exact le_add_of_nonneg_left (sound.advance units).slack_nonneg

theorem Sound.advance_amount {view : View Rat} (sound : view.Sound) (scaled : view.scale ≠ 0)
    {units : Nat} (fits : view.used + units ≤ view.scale) :
    (view.advance units).2 = view.capacity * units / view.scale := by
  rcases advance_consumed sound units with ⟨_, _, placed, amount⟩
  have used : (view.advance units).1.used = view.used + units := by
    rw [advance_used sound.used_le sound.scale_le]
    exact Nat.min_eq_left fits
  rw [amount, placed (by rwa [advance_scale]), used, sound.consumed_eq scaled, position_eq,
    position_eq]
  push_cast
  ring

/-! ## Carving and closing -/

@[simp] theorem slack_carve (view : View Rat) (share : Nat) :
    (view.carve share).2.slack = (view.advance share).2 := by
  simp [slack, carve]

theorem Sound.carve {view : View Rat} (sound : view.Sound) (share : Nat) :
    (view.carve share).2.Sound where
  consumed_nonneg := le_refl 0
  consumed_le := sound.advance_nonneg share
  used_le := Nat.le_refl 0
  scale_le := Nat.zero_le maxUnits
  consumed_eq := fun scaled => absurd rfl scaled

theorem Sound.finish {view : View Rat} (sound : view.Sound) : view.finish.1.Sound where
  consumed_nonneg := sound.capacity_nonneg
  consumed_le := le_refl _
  used_le := Nat.le_refl _
  scale_le := sound.scale_le
  consumed_eq := by
    intro scaled
    have whole : view.position view.scale = view.capacity := position_scale scaled
    exact whole.symm

end View

end JobProgress
