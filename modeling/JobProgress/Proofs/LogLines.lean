import JobProgress.Log

/-! A line of the log is known by its message, and what it tells by the names of its fields. -/

namespace JobProgress

namespace LogRecord

def field? (record : LogRecord) (name : String) : Option FieldValue := record.fields.lookup name

def isStart (record : LogRecord) : Bool := record.message == "Job started"

def isEnd (record : LogRecord) : Bool := record.message == "Job ended"

def isClamp (record : LogRecord) : Bool := record.message == "Job share clamped"

/-- A line tells that a job was opened under `depth` others. Only that of a nested job tells of a
share of the job around it. -/
structure TellsStart (record : LogRecord) (name : String) (depth : Nat)
    (granted : Option GrantedShare) (total : Nat) : Prop where
  level_eq : record.level = .debug
  message_eq : record.message = "Job started"
  job_eq : record.field? "job" = some (.text name)
  depth_eq : record.field? "depth" = some (.number depth)
  share_eq : record.field? "share" = granted.map (.number ·.share)
  requested_eq : record.field? "requested" = granted.map (.number ·.requested)
  total_eq : record.field? "total" = some (.number total)

/-- A line tells that a job was closed `elapsed` after it was opened, and that `depth` others
were left open. The time is told in whole milliseconds. -/
structure TellsEnd (record : LogRecord) (name : String) (depth : Nat) (succeeded : Bool)
    (worked total : Nat) (elapsed : Duration) : Prop where
  level_eq : record.level = .debug
  message_eq : record.message = "Job ended"
  job_eq : record.field? "job" = some (.text name)
  depth_eq : record.field? "depth" = some (.number depth)
  succeeded_eq : record.field? "succeeded" = some (.flag succeeded)
  worked_eq : record.field? "worked" = some (.number worked)
  total_eq : record.field? "total" = some (.number total)
  elapsed_eq : record.field? "elapsed_ms" = some (.number (elapsed.nanoseconds / 1000000))

structure TellsClamp (record : LogRecord) (name parent : String) (share available : Nat) :
    Prop where
  level_eq : record.level = .warn
  message_eq : record.message = "Job share clamped"
  job_eq : record.field? "job" = some (.text name)
  parent_eq : record.field? "parent" = some (.text parent)
  share_eq : record.field? "share" = some (.number share)
  available_eq : record.field? "available" = some (.number available)

end LogRecord

namespace JobEvent

theorem started_tellsStart (name : String) (depth : Nat) (granted : Option GrantedShare)
    (total : Nat) :
    (JobEvent.started name depth granted total).record.TellsStart name depth granted total := by
  cases granted <;> exact ⟨rfl, rfl, rfl, rfl, rfl, rfl, rfl⟩

theorem ended_tellsEnd (name : String) (depth : Nat) (succeeded : Bool) (worked total : Nat)
    (elapsed : Duration) :
    (JobEvent.ended name depth succeeded worked total elapsed).record.TellsEnd name depth
      succeeded worked total elapsed :=
  ⟨rfl, rfl, rfl, rfl, rfl, rfl, rfl, rfl⟩

theorem shareClamped_tellsClamp (name parent : String) (share available : Nat) :
    (JobEvent.shareClamped name parent share available).record.TellsClamp name parent share
      available :=
  ⟨rfl, rfl, rfl, rfl, rfl, rfl⟩

@[simp] theorem isStart_started (name : String) (depth : Nat) (granted : Option GrantedShare)
    (total : Nat) : (JobEvent.started name depth granted total).record.isStart = true := by
  cases granted <;> rfl

end JobEvent

end JobProgress
