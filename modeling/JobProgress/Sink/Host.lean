import JobProgress.Sink.Log
import JobProgress.Sink.Status

namespace JobProgress

/-! A host picks the kind of its sink when it starts. -/

inductive HostSink where
  | null (sink : NullSink)
  | status (sink : StatusSink)
  | log (sink : LogSink)
  deriving DecidableEq, Repr

namespace HostSink

def snapshot? : HostSink → Option ProgressSnapshot
  | .status sink => some sink.snapshot
  | .null _ | .log _ => none

/-- Ask for cancellation at the sink itself, which only a status sink takes
notice of. -/
def cancel : HostSink → HostSink
  | .status sink => .status sink.cancel
  | other => other

instance : ProgressSink HostSink where
  receive
    | .null sink, call =>
        let (sink, events) := ProgressSink.receive sink call
        (.null sink, events)
    | .status sink, call =>
        let (sink, events) := ProgressSink.receive sink call
        (.status sink, events)
    | .log sink, call =>
        let (sink, events) := ProgressSink.receive sink call
        (.log sink, events)
  ask
    | .null sink =>
        let (sink, answer) := ProgressSink.ask sink
        (.null sink, answer)
    | .status sink =>
        let (sink, answer) := ProgressSink.ask sink
        (.status sink, answer)
    | .log sink =>
        let (sink, answer) := ProgressSink.ask sink
        (.log sink, answer)

end HostSink

end JobProgress
