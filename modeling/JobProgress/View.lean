import JobProgress.Amount

namespace JobProgress

/-! Every job reports through a `View`: a slice of the task's units, divided
into as many scale units as the job has work. Using scale units up yields the
amount they are worth; part of the slice can be carved out for a nested view,
and what is left can be spread over a fresh scale. -/

structure View (α : Type) where
  capacity : α
  consumed : α
  scale : Nat
  used : Nat
  deriving Repr

namespace View

variable {α : Type} [Amount α]

open Amount

def root (total : Nat) : View α := ⟨ofUnits total, ofUnits 0, total, 0⟩

def available (view : View α) : Nat := view.scale - view.used

/-- Amount worth the first `used` scale units. -/
def position (view : View α) (used : Nat) : α :=
  view.capacity * ofUnits used / ofUnits view.scale

/-- Use scale units up, as far as there are any, and return the amount they
are worth. -/
def advance (view : View α) (units : Nat) : View α × α :=
  if view.scale = 0 ∨ units = 0 then
    (view, ofUnits 0)
  else
    let used := min (Units.saturatingAdd view.used units) view.scale
    let position := view.position used
    ({ view with consumed := position, used },
      positivePart (position - view.consumed))

@[simp] theorem advance_capacity (view : View α) (units : Nat) :
    (view.advance units).1.capacity = view.capacity := by
  simp only [advance]
  split <;> rfl

@[simp] theorem advance_scale (view : View α) (units : Nat) :
    (view.advance units).1.scale = view.scale := by
  simp only [advance]
  split <;> rfl

theorem advance_used {view : View α} (used : view.used ≤ view.scale)
    (fits : view.scale ≤ maxUnits) (units : Nat) :
    (view.advance units).1.used = min (view.used + units) view.scale := by
  simp only [advance]
  split
  · next idle =>
      change view.used = min (view.used + units) view.scale
      omega
  · change min (Units.saturatingAdd view.used units) view.scale =
      min (view.used + units) view.scale
    simp only [Units.saturatingAdd]
    omega

@[simp] theorem advance_zero (view : View α) :
    view.advance 0 = (view, ofUnits 0) := by
  simp [advance]

/-- Hand scale units to a nested view. They count as used up at once; the
nested view has no scale until it is rescaled. -/
def carve (view : View α) (share : Nat) : View α × View α :=
  let (parent, capacity) := view.advance share
  (parent, ⟨capacity, ofUnits 0, 0, 0⟩)

def rest (view : View α) : α := positivePart (view.capacity - view.consumed)

/-- Spread what is not consumed over a fresh scale. -/
def rescale (view : View α) (units : Nat) : View α :=
  ⟨view.rest, ofUnits 0, units, 0⟩

def finish (view : View α) : View α × α :=
  ({ view with consumed := view.capacity, used := view.scale }, view.rest)

example :
    let nested := ((root 10 : View Rat).carve 5).2.rescale 4
    (nested.advance 1).2 = 5 / 4 := by
  decide +kernel

end View

end JobProgress
