import JobProgress.Monitor.Jobs

namespace JobProgress

/-! Calls to a monitor as data, so that what a program does to a monitor is a
list of them. -/

inductive Call where
  | openJob (name : String) (share totalWork : UInt32)
  | step (name detail : String) (share : UInt32)
  | reestimate (name : String) (work : UInt32)
  | closeJob (name : String) (succeeded : Bool)
  | closeAll
  | checkCanceled (name : String)
  deriving DecidableEq, Inhabited, Repr

namespace Call

def openUnitJob (name : String) (totalWork : UInt32) : Call :=
  .openJob name 1 totalWork

def stepOne (name detail : String) : Call := .step name detail 1

end Call

inductive Reply where
  | nothing
  | units (count : Nat)
  | answer (canceled : Bool)
  deriving DecidableEq, Repr

structure Reading where
  clock : Clock
  /-- What the sink answers, should it be asked whether to cancel. -/
  canceled : Bool
  deriving DecidableEq, Repr

def Reading.now (reading : Reading) : Instant := reading.clock.now

namespace Monitor

variable {α : Type} [Amount α]

def perform (monitor : Monitor α) (reading : Reading) : Call → Outcome α Reply
  | .openJob name share totalWork =>
      (monitor.openJob reading.now name share totalWork).map fun () => .nothing
  | .step name detail share =>
      (monitor.step name detail share).map fun () => .nothing
  | .reestimate name work => (monitor.reestimate name work).map fun () => .nothing
  | .closeJob name succeeded =>
      (monitor.closeJob reading.now name succeeded).map .units
  | .closeAll => (monitor.closeAll reading.clock).map .units
  | .checkCanceled name =>
      (monitor.checkCanceled reading.clock name reading.canceled).map .answer

end Monitor

end JobProgress
