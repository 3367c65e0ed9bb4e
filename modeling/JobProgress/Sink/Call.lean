namespace JobProgress

/-! A progress sink shows one flat task at a time. Everything a sink is told
is a `SinkCall`, so what a monitor did to its sink is a list of them. -/

inductive SinkCall where
  | taskName (name : String)
  | beginTask (name : String) (total : Nat)
  | worked (units : Nat)
  | workRemaining (units : Nat)
  | subTask (name : String)
  | done
  deriving DecidableEq, Repr

namespace SinkCall

/-- The call that reports `units`, or no call where there is nothing to
report. -/
def report : Nat → List SinkCall
  | 0 => []
  | units => [.worked units]

def workedUnits : SinkCall → Nat
  | .worked units => units
  | _ => 0

def totalWorked (calls : List SinkCall) : Nat :=
  calls.foldr (fun call units => call.workedUnits + units) 0

@[simp] theorem totalWorked_nil : totalWorked [] = 0 := rfl

@[simp] theorem totalWorked_cons (call : SinkCall) (calls : List SinkCall) :
    totalWorked (call :: calls) = call.workedUnits + totalWorked calls := rfl

@[simp] theorem totalWorked_append (first second : List SinkCall) :
    totalWorked (first ++ second) = totalWorked first + totalWorked second := by
  induction first with
  | nil => simp
  | cons call first induction => simp [induction, Nat.add_assoc]

end SinkCall

end JobProgress
