import JobProgress.Proofs.Closing

/-! Whatever is done to a monitor comes down to a few moves: a job is opened as
the outermost one or inside another, the innermost job is advanced, estimated
anew or closed, cancellation is checked, or an event is logged. A `Trace` is a
series of moves with all they send out. Every call makes a trace, so a law of
moves is a law of all reachable monitors. -/

namespace JobProgress.Monitor

variable {α : Type} [Amount α]

/-- One thing that can be done to a monitor, with what it sends out. -/
inductive Move : Monitor α → List Emission → Monitor α → Prop
  | openRoot {monitor : Monitor α} (now name) (totalWork : UInt32) :
      monitor.scopes = [] →
      Move monitor (monitor.openRoot now name totalWork.toNat).emitted
        (monitor.openRoot now name totalWork.toNat).monitor
  | openNested {monitor : Monitor α} {parent outer} (now name) (granted : GrantedShare)
      (totalWork : UInt32) :
      monitor.scopes = parent :: outer →
      granted.share = min granted.requested (parent.shareLimit monitor.overrunWork) →
      Move monitor (monitor.openNested parent outer now name granted totalWork.toNat).emitted
        (monitor.openNested parent outer now name granted totalWork.toNat).monitor
  | step {monitor : Monitor α} {scope outer} (name detail) (share : UInt32) :
      monitor.scopes = scope :: outer →
      Move monitor (monitor.step name detail share).emitted
        (monitor.step name detail share).monitor
  | reestimate {monitor : Monitor α} {scope outer} (name) (work : UInt32) :
      monitor.scopes = scope :: outer →
      Move monitor (monitor.reestimate name work).emitted
        (monitor.reestimate name work).monitor
  | closeJob {monitor : Monitor α} {scope outer} (now name succeeded) :
      monitor.scopes = scope :: outer →
      Move monitor (monitor.closeJob now name succeeded).emitted
        (monitor.closeJob now name succeeded).monitor
  | checkCanceled {monitor : Monitor α} (clock name answer) :
      Move monitor (monitor.checkCanceled clock name answer).emitted
        (monitor.checkCanceled clock name answer).monitor
  | logged {monitor : Monitor α} (event : JobEvent) :
      Move monitor (Emission.ofJobEvent event) monitor

inductive Trace : Monitor α → List Emission → Monitor α → Prop
  | nil (monitor) : Trace monitor [] monitor
  | snoc {first middle last earlier sent} :
      Trace first earlier middle →
      Move middle sent last →
      Trace first (earlier ++ sent) last

namespace Trace

variable {first middle last : Monitor α} {sent later : List Emission}

theorem one (move : Move first sent last) : Trace first sent last := by
  simpa using (Trace.nil first).snoc move

theorem append (left : Trace first sent middle) (right : Trace middle later last) :
    Trace first (sent ++ later) last := by
  induction right with
  | nil => simpa using left
  | snoc _ move induction =>
      rw [← List.append_assoc]
      exact induction.snoc move

end Trace

theorem Move.config_eq {monitor next : Monitor α} {sent : List Emission}
    (move : Move monitor sent next) : next.config = monitor.config := by
  cases move with
  | openRoot _ _ _ _ | openNested _ _ _ _ _ _ | checkCanceled _ _ _ | logged _ => rfl
  | step _ _ _ stack => rw [step_of_open stack]
  | reestimate _ _ stack => rw [reestimate_of_open stack]
  | closeJob _ _ _ stack => rw [closeJob_of_open stack]

theorem Move.received_eq {monitor next : Monitor α} {sent : List Emission}
    (move : Move monitor sent next) :
    Emission.received sent = Emission.sinkCalls sent := by
  cases move with
  | openRoot now name totalWork idle => simp [Monitor.openRoot]
  | openNested now name granted totalWork stack limited => simp [Monitor.openNested]
  | step name detail share stack => simp [step_of_open stack]
  | reestimate name work stack => simp [reestimate_of_open stack]
  | closeJob now name succeeded stack => simp [closeJob_of_open stack]
  | checkCanceled clock name answer =>
      rw [Monitor.checkCanceled]
      rcases monitor.cancelPoll.sample clock.limit clock.now answer with ⟨_, sample⟩
      cases sample <;> rfl
  | logged event => rfl

theorem Trace.received_eq {monitor next : Monitor α} {sent : List Emission}
    (trace : Trace monitor sent next) :
    Emission.received sent = Emission.sinkCalls sent := by
  induction trace with
  | nil => rfl
  | snoc _ move induction =>
      rw [Emission.received_append, Emission.sinkCalls_append, induction, move.received_eq]

/-! ## Calls make traces -/

theorem openJob_trace (monitor : Monitor α) (now : Instant) (name : String)
    (share totalWork : UInt32) :
    Trace monitor (monitor.openJob now name share totalWork).emitted
      (monitor.openJob now name share totalWork).monitor := by
  rcases monitor.openJob_cases now name share totalWork with
    ⟨idle, equal⟩ | ⟨parent, outer, stack, fits, equal⟩ |
    ⟨parent, outer, stack, excess, _, equal⟩ | ⟨_, _, _, _, _, equal⟩
  · rw [equal]
    exact .one (.openRoot now name totalWork idle)
  · rw [equal]
    exact .one (.openNested now name _ totalWork stack (Nat.min_eq_left fits).symm)
  · rw [equal]
    exact (Trace.one (.logged _)).append
      (.one (.openNested now name _ totalWork stack
        (Nat.min_eq_right (Nat.le_of_lt excess)).symm))
  · rw [equal]
    exact .nil monitor

theorem Closing.trace {monitor final : Monitor α} {sent : List Emission}
    (closing : Closing monitor sent final) : Trace monitor sent final := by
  induction closing with
  | nil monitor => exact .nil monitor
  | logged event _ induction => exact (Trace.one (.logged event)).append induction
  | closeJob now name succeeded stack _ induction =>
      exact (Trace.one (.closeJob now name succeeded stack)).append induction

theorem perform_trace (monitor : Monitor α) (reading : Reading) (call : Call) :
    Trace monitor (monitor.perform reading call).emitted
      (monitor.perform reading call).monitor := by
  cases call with
  | openJob name share totalWork => exact monitor.openJob_trace reading.now name share totalWork
  | step name detail share =>
      cases stack : monitor.scopes with
      | nil =>
          rw [perform, step_of_idle stack]
          exact .nil monitor
      | cons scope outer => exact .one (.step name detail share stack)
  | reestimate name work =>
      cases stack : monitor.scopes with
      | nil =>
          rw [perform, reestimate_of_idle stack]
          exact .nil monitor
      | cons scope outer => exact .one (.reestimate name work stack)
  | closeJob name succeeded => exact (monitor.closeJob_closing reading.now name succeeded).trace
  | closeAll => exact (monitor.closeInnermost_closing reading.clock 0 monitor.depth).trace
  | checkCanceled name => exact .one (.checkCanceled reading.clock name reading.canceled)

theorem conclude_trace (monitor : Monitor α) (clock : Clock) (job : String)
    (depth : Nat) (succeeded : Bool) :
    Trace monitor (monitor.conclude clock job depth succeeded).emitted
      (monitor.conclude clock job depth succeeded).monitor :=
  (monitor.conclude_closing clock job depth succeeded).trace

/-! ## Reachable monitors -/

/-- Monitors that calls lead to, also when the bodies of jobs end in between. -/
inductive Reachable : Monitor α → Prop
  | ofConfig (config : Config) : Reachable (.ofConfig config)
  | perform {monitor : Monitor α} (reading call) :
      Reachable monitor → Reachable (monitor.perform reading call).monitor
  | conclude {monitor : Monitor α} (clock job depth succeeded) :
      Reachable monitor → Reachable (monitor.conclude clock job depth succeeded).monitor

theorem Trace.preserves {motive : Monitor α → Prop}
    (kept : ∀ {monitor sent next}, Move monitor sent next → motive monitor → motive next)
    {first last : Monitor α} {sent : List Emission} (trace : Trace first sent last)
    (start : motive first) : motive last := by
  induction trace with
  | nil => exact start
  | snoc _ move induction => exact kept move induction

theorem Trace.config_eq {first last : Monitor α} {sent : List Emission}
    (trace : Trace first sent last) : last.config = first.config :=
  trace.preserves (motive := fun next => next.config = first.config)
    (fun move same => move.config_eq.trans same) rfl

theorem perform_config (monitor : Monitor α) (reading : Reading) (call : Call) :
    (monitor.perform reading call).monitor.config = monitor.config :=
  (monitor.perform_trace reading call).config_eq

theorem Reachable.induct {motive : Monitor α → Prop}
    (initial : ∀ config, motive (.ofConfig config))
    (kept : ∀ {monitor sent next}, Move monitor sent next → motive monitor → motive next)
    {monitor : Monitor α} (reachable : Reachable monitor) : motive monitor := by
  induction reachable with
  | ofConfig config => exact initial config
  | perform reading call _ induction =>
      exact (perform_trace _ reading call).preserves kept induction
  | conclude clock job depth succeeded _ induction =>
      exact (conclude_trace _ clock job depth succeeded).preserves kept induction

end JobProgress.Monitor
