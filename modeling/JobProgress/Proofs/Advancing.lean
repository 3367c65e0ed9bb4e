import JobProgress.View
import Mathlib.Algebra.Ring.Nat

/-! Where a view stands is worked out from the scale units used so far, and not from where it
stood before. So using units up one after another leaves the view that using up their sum at
once leaves, however amounts round. -/

namespace JobProgress.View

variable {α : Type} [Amount α]

def movedTo (view : View α) (used : Nat) : View α :=
  { view with consumed := view.position used, used }

theorem advance_of_unscaled {view : View α} (unscaled : view.scale = 0) (units : Nat) :
    (view.advance units).1 = view := by
  simp only [advance, unscaled, true_or, if_true]

theorem advance_of_scaled {view : View α} {units : Nat} (scaled : view.scale ≠ 0)
    (positive : units ≠ 0) :
    (view.advance units).1 =
      view.movedTo (min (Units.saturatingAdd view.used units) view.scale) := by
  have working : ¬(view.scale = 0 ∨ units = 0) := not_or_intro scaled positive
  simp only [advance, working, if_false]
  rfl

theorem movedTo_movedTo (view : View α) (first second : Nat) :
    (view.movedTo first).movedTo second = view.movedTo second := rfl

theorem advance_advance (view : View α) (first second : Nat) :
    ((view.advance first).1.advance second).1 = (view.advance (first + second)).1 := by
  by_cases scaled : view.scale = 0
  · rw [advance_of_unscaled scaled, advance_of_unscaled scaled, advance_of_unscaled scaled]
  by_cases none : first = 0
  · rw [none, advance_zero, Nat.zero_add]
  by_cases done : second = 0
  · rw [done, advance_zero, Nat.add_zero]
  have sum : first + second ≠ 0 := by omega
  -- Clamping on the way changes nothing, neither at the scale nor at the largest count.
  have clamped :
      min (Units.saturatingAdd (min (Units.saturatingAdd view.used first) view.scale) second)
          view.scale =
        min (Units.saturatingAdd view.used (first + second)) view.scale := by
    simp only [Units.saturatingAdd]
    omega
  calc ((view.advance first).1.advance second).1
      = (view.movedTo (min (Units.saturatingAdd view.used first) view.scale)).movedTo
          (min (Units.saturatingAdd (min (Units.saturatingAdd view.used first) view.scale) second)
            view.scale) := by
        rw [advance_of_scaled scaled none]
        exact advance_of_scaled scaled done
    _ = view.movedTo (min (Units.saturatingAdd view.used (first + second)) view.scale) := by
        rw [movedTo_movedTo, clamped]
    _ = (view.advance (first + second)).1 := (advance_of_scaled scaled sum).symm

/-- More units than a count can hold are used up like the most it can. -/
theorem advance_min_maxUnits (view : View α) (units : Nat) :
    (view.advance (min units maxUnits)).1 = (view.advance units).1 := by
  by_cases scaled : view.scale = 0
  · rw [advance_of_unscaled scaled, advance_of_unscaled scaled]
  by_cases none : units = 0
  · rw [none, Nat.zero_min]
  have held : min units maxUnits ≠ 0 := by
    simp only [maxUnits]
    omega
  have same : Units.saturatingAdd view.used (min units maxUnits) =
      Units.saturatingAdd view.used units := by
    simp only [Units.saturatingAdd]
    omega
  rw [advance_of_scaled scaled held, advance_of_scaled scaled none, same]

theorem foldl_advance (view : View α) (units : List Nat) :
    units.foldl (fun view units => (view.advance units).1) view =
      (view.advance units.sum).1 := by
  induction units generalizing view with
  | nil => rw [List.foldl_nil, List.sum_nil, advance_zero]
  | cons first later induction =>
      rw [List.foldl_cons, induction, advance_advance, List.sum_cons]

theorem carve_parent (view : View α) (share : Nat) :
    (view.carve share).1 = (view.advance share).1 := rfl

/-- Whatever state a view is in, using counts up one after another leaves the same view, in
every field, as using up at once their sum, held at the largest count. Handing a share to a
nested view leaves the view that using the share up leaves, and so shares handed out one after
another add up as well. -/
theorem advancing_adds_up (view : View α) (units : List Nat) :
    units.foldl (fun view units => (view.advance units).1) view =
        (view.advance (min units.sum maxUnits)).1 ∧
      units.foldl (fun view share => (view.carve share).1) view =
        (view.advance (min units.sum maxUnits)).1 ∧
      ∀ share, (view.carve share).1 = (view.advance share).1 := by
  have sum : units.foldl (fun view units => (view.advance units).1) view =
      (view.advance (min units.sum maxUnits)).1 := by
    rw [foldl_advance, advance_min_maxUnits]
  exact ⟨sum, sum, view.carve_parent⟩

end JobProgress.View
