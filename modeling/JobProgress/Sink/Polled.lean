import JobProgress.Sink.Basic

namespace JobProgress

/-! To see how often a sink is really asked about cancellation, it is put
behind a counter, which also holds a cancellation flag of its own. -/

structure PolledSink (σ : Type) where
  inner : σ
  canceled : Bool
  polls : Nat
  deriving Repr

namespace PolledSink

variable {σ : Type}

def ofSink (inner : σ) : PolledSink σ := ⟨inner, false, 0⟩

def setCanceled (sink : PolledSink σ) (canceled : Bool) : PolledSink σ :=
  { sink with canceled }

/-- Calls are passed on; a question is counted, and passed on only while the
flag is down. -/
instance [ProgressSink σ] : ProgressSink (PolledSink σ) where
  receive sink call :=
    let (inner, events) := ProgressSink.receive sink.inner call
    ({ sink with inner }, events)
  ask sink :=
    let counted := { sink with polls := sink.polls + 1 }
    if sink.canceled then
      (counted, true)
    else
      let (inner, answer) := ProgressSink.ask sink.inner
      ({ counted with inner }, answer)

end PolledSink

end JobProgress
