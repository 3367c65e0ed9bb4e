import JobProgress.Log
import JobProgress.Sink.Call

namespace JobProgress

/-! A progress sink is the surface a host shows progress on. It takes calls in
order and can be asked whether the user wants to cancel. Being asked may
change a sink, if only because it counts how often it was. -/

class ProgressSink (σ : Type) where
  /-- Take a call, and tell what is to be logged about it. -/
  receive : σ → SinkCall → σ × List SinkEvent
  ask : σ → σ × Bool

structure NullSink where
  deriving DecidableEq, Repr

instance : ProgressSink NullSink where
  receive sink _ := (sink, [])
  ask sink := (sink, false)

end JobProgress
