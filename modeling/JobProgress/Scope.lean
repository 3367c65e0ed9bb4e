import JobProgress.View
import JobProgress.Time

namespace JobProgress

/-! A job that is open has a `Scope`: the slice of the task it reports
through, and its own count of the work done, declared and still expected. A
step announces work before it is done, so the work of the latest step is
pending until the job moves on. -/

structure Scope (α : Type) where
  name : String
  view : View α
  totalWork : Nat
  workRemaining : Nat
  workDone : Nat
  /-- Work announced by the latest step, or promised to the job opened inside
  this one. -/
  pending : Nat
  startedAt : Instant
  deriving Repr

namespace Scope

variable {α : Type} [Amount α]

def ofView (name : String) (view : View α) (totalWork : Nat)
    (startedAt : Instant) : Scope α where
  name := name
  view := view.rescale totalWork
  totalWork := totalWork
  workRemaining := totalWork
  workDone := 0
  pending := 0
  startedAt := startedAt

def takePending (scope : Scope α) (next : Nat) : Scope α × Nat :=
  ({ scope with pending := next }, scope.pending)

def account (scope : Scope α) (units : Nat) : Scope α :=
  { scope with
    workDone := Units.saturatingAdd scope.workDone units
    workRemaining := scope.workRemaining - units }

def isExhausted (scope : Scope α) : Bool := scope.workRemaining == 0

/-- The largest share a nested job can get. A job that has used its work up
can give as much as it would be estimated at next. -/
def shareLimit (scope : Scope α) (overrunWork : Nat) : Nat :=
  if scope.isExhausted then overrunWork else min scope.view.available maxWork

/-- Spread the rest of the slice of an exhausted job over a new estimate. -/
def extendView (scope : Scope α) (overrunWork : Nat) : Scope α :=
  if scope.isExhausted then
    { scope with view := scope.view.rescale overrunWork }
  else
    scope

def settle (scope : Scope α) : Scope α :=
  let (scope, pending) := scope.takePending 0
  scope.account pending

end Scope

end JobProgress
