import JobProgress.Config.Basic
import JobProgress.Monitor.Emission
import JobProgress.Monitor.Error
import JobProgress.RateLimited
import JobProgress.Scope
import JobProgress.Ticks

namespace JobProgress

/-! A `Monitor` maps nested jobs onto one flat progress sink. Jobs are opened
and closed innermost first; each nested job gets a share of the job it is
opened in, and whatever it reports is scaled into that share, so that the sink
sees a single task filling up.

A monitor does not hold its sink. Each call tells what it sends out; the time,
and the sink's answer about cancellation, are handed to the calls that need
them. -/

structure Monitor (α : Type) where
  config : Config
  /-- The open jobs, the innermost first. -/
  scopes : List (Scope α)
  ticks : Ticks α
  /-- The name of the first outermost job, shown whenever a job is closed. -/
  topName : Option String
  cancelPoll : RateLimited Bool
  deriving Repr

structure Outcome (α ρ : Type) where
  result : Except CallError ρ
  monitor : Monitor α
  emitted : List Emission

namespace Outcome

variable {α ρ τ : Type}

def map (convert : ρ → τ) (outcome : Outcome α ρ) : Outcome α τ :=
  { outcome with result := outcome.result.map convert }

def after (emitted : List Emission) (outcome : Outcome α ρ) : Outcome α ρ :=
  { outcome with emitted := emitted ++ outcome.emitted }

end Outcome

namespace Monitor

variable {α : Type}

def ofConfig [Amount α] (config : Config) : Monitor α where
  config := config
  scopes := []
  ticks := .ofTotal 0
  topName := none
  cancelPoll := .ofInterval config.cancelPollInterval

def depth (monitor : Monitor α) : Nat := monitor.scopes.length

def isIdle (monitor : Monitor α) : Bool := monitor.scopes.isEmpty

def currentJob (monitor : Monitor α) : Option String :=
  monitor.scopes.head?.map (·.name)

def overrunWork (monitor : Monitor α) : Nat := monitor.config.overrunWork.toNat

/-- A call that fails and leaves everything as it was. -/
def refuse {ρ : Type} (monitor : Monitor α) (error : CallError) : Outcome α ρ :=
  ⟨.error error, monitor, []⟩

end Monitor

end JobProgress
