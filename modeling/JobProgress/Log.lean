import JobProgress.Location
import JobProgress.Time

namespace JobProgress

/-! Jobs, sinks and warnings leave a trail of events. An event is kept as what
happened; the line of a log it becomes, with a level, a message and named
fields, is its `record`. -/

inductive LogLevel where
  | trace
  | debug
  | warn
  deriving DecidableEq, Repr

inductive FieldValue where
  | text (value : String)
  | number (value : Nat)
  | flag (value : Bool)
  deriving DecidableEq, Repr

structure LogRecord where
  level : LogLevel
  message : String
  fields : List (String × FieldValue)
  deriving DecidableEq, Repr

/-- The share of its parent that a nested job was given, and the share it
asked for. -/
structure GrantedShare where
  share : Nat
  requested : Nat
  deriving DecidableEq, Repr

inductive JobEvent where
  /-- A job was opened under `depth` open jobs; only a nested job has a share
  of its parent. -/
  | started (job : String) (depth : Nat) (granted : Option GrantedShare) (total : Nat)
  | shareClamped (job parent : String) (share available : Nat)
  | stepped (job step detail : String) (flushed next : Nat)
  | rescaled (job todo : String) (work : Nat)
  | unbalancedEnd (job : String)
  /-- A job was closed, leaving `depth` jobs open. -/
  | ended (job : String) (depth : Nat) (succeeded : Bool) (worked total : Nat)
      (elapsed : Duration)
  | leftOpen (job inner : String)
  | polled (job : String) (canceled : Bool)
  deriving DecidableEq, Repr

inductive SinkEvent where
  | renamed (task : String)
  | started (task : String) (total : Nat)
  | reported (worked total : Nat)
  | rescaled (remaining : Nat)
  | subTask (name : String)
  | ended (worked total : Nat)
  deriving DecidableEq, Repr

inductive LogEvent where
  | job (event : JobEvent)
  | sink (event : SinkEvent)
  | warning (message : String) (location : SourceLocation)
  deriving DecidableEq, Repr

def JobEvent.record : JobEvent → LogRecord
  | .started job depth none total =>
      ⟨.debug, "Job started", [("job", .text job), ("depth", .number depth),
        ("total", .number total)]⟩
  | .started job depth (some granted) total =>
      ⟨.debug, "Job started", [("job", .text job), ("depth", .number depth),
        ("share", .number granted.share), ("requested", .number granted.requested),
        ("total", .number total)]⟩
  | .shareClamped job parent share available =>
      ⟨.warn, "Job share clamped", [("job", .text job), ("parent", .text parent),
        ("share", .number share), ("available", .number available)]⟩
  | .stepped job step detail flushed next =>
      ⟨.trace, "Job step", [("job", .text job), ("step", .text step),
        ("detail", .text detail), ("flushed", .number flushed), ("next", .number next)]⟩
  | .rescaled job todo work =>
      ⟨.trace, "Job rescaled", [("job", .text job), ("todo", .text todo),
        ("work", .number work)]⟩
  | .unbalancedEnd job =>
      ⟨.warn, "job_end without job_start", [("job", .text job)]⟩
  | .ended job depth succeeded worked total elapsed =>
      ⟨.debug, "Job ended", [("job", .text job), ("depth", .number depth),
        ("succeeded", .flag succeeded), ("worked", .number worked),
        ("total", .number total), ("elapsed_ms", .number elapsed.milliseconds)]⟩
  | .leftOpen job inner =>
      ⟨.warn, "Closing job left open", [("job", .text job), ("inner", .text inner)]⟩
  | .polled job canceled =>
      ⟨.trace, "Polled cancellation", [("job", .text job), ("canceled", .flag canceled)]⟩

def SinkEvent.record : SinkEvent → LogRecord
  | .renamed task => ⟨.debug, "Progress task renamed", [("task", .text task)]⟩
  | .started task total =>
      ⟨.debug, "Progress started", [("task", .text task), ("total", .number total)]⟩
  | .reported worked total =>
      ⟨.trace, "Progress reported", [("worked", .number worked), ("total", .number total)]⟩
  | .rescaled remaining =>
      ⟨.trace, "Progress rescaled", [("remaining", .number remaining)]⟩
  | .subTask name => ⟨.trace, "Progress subtask", [("subtask", .text name)]⟩
  | .ended worked total =>
      ⟨.debug, "Progress ended", [("worked", .number worked), ("total", .number total)]⟩

def LogEvent.record : LogEvent → LogRecord
  | .job event => event.record
  | .sink event => event.record
  | .warning message location =>
      ⟨.warn, message, [("location", .text location.text)]⟩

end JobProgress
