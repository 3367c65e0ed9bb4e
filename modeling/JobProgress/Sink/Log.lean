import JobProgress.Sink.Basic
import JobProgress.Units

namespace JobProgress

/-! A logging sink turns progress into log events. -/

structure LogSink where
  total : Nat
  worked : Nat
  deriving DecidableEq, Repr

namespace LogSink

def initial : LogSink := ⟨0, 0⟩

/-- The sink after a call, and the event it logs. A report is logged with the
sum held at the limit, while the count that is kept starts again. -/
def apply (sink : LogSink) : SinkCall → LogSink × SinkEvent
  | .taskName name => (sink, .renamed name)
  | .beginTask name total => (⟨total, 0⟩, .started name total)
  | .worked units =>
      ({ sink with worked := Units.wrappingAdd sink.worked units },
        .reported (Units.saturatingAdd sink.worked units) sink.total)
  | .workRemaining units => (sink, .rescaled units)
  | .subTask name => (sink, .subTask name)
  | .done => (sink, .ended sink.worked sink.total)

instance : ProgressSink LogSink where
  receive sink call :=
    let (sink, event) := sink.apply call
    (sink, [event])
  ask sink := (sink, false)

end LogSink

end JobProgress
