import JobProgress.Amount
import JobProgress.Sink.Call

namespace JobProgress

/-! A sink counts whole units only. `Ticks` collects the amounts worked on a
task, sends their whole part as soon as there is one, and carries the fraction
to the next report. -/

structure Ticks (α : Type) where
  total : Nat
  reported : Nat
  /-- Amount worked but not sent. -/
  carry : α
  deriving Repr

namespace Ticks

variable {α : Type} [Amount α]

open Amount

def ofTotal (total : Nat) : Ticks α := ⟨total, 0, ofUnits 0⟩

def remaining (ticks : Ticks α) : Nat := ticks.total - ticks.reported

/-- Collect an amount and send its whole part, never more than remains.
Amounts of zero and less are ignored. -/
def report (ticks : Ticks α) (amount : α) : Ticks α × List SinkCall :=
  if amount ≤ ofUnits 0 then
    (ticks, [])
  else
    let carry := ticks.carry + amount
    let whole := floor carry
    if whole < ofUnits 1 then
      ({ ticks with carry }, [])
    else
      let units := min (toUnits whole) ticks.remaining
      ({ ticks with reported := ticks.reported + units, carry := carry - whole },
        SinkCall.report units)

/-- Send whatever remains, so that rounding never leaves a task unfinished. -/
def finish (ticks : Ticks α) : Ticks α × List SinkCall :=
  ({ ticks with reported := ticks.reported + ticks.remaining, carry := ofUnits 0 },
    SinkCall.report ticks.remaining)

example :
    let half : Rat := 1 / 2
    let first := (ofTotal 3 : Ticks Rat).report half
    first.2 = [] ∧ (first.1.report half).2 = [.worked 1] := by
  decide +kernel

example : ((ofTotal 3 : Ticks Rat).finish).2 = [.worked 3] := by
  decide +kernel

end Ticks

end JobProgress
