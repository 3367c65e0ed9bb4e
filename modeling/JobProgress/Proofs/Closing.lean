import JobProgress.Proofs.Effect

/-! Closing one job, all of them, or those that the body of a job left open is the same
thing done a number of times. A `Closing` is a series of jobs closed, so what holds of
closing a job is proved of all of these at once. With it `Performs` says once all that a
call can come to. -/

namespace JobProgress.Monitor

variable {α : Type} [Amount α]

/-- Jobs closed one after another, innermost first, with all that was sent out. -/
inductive Closing : Monitor α → List Emission → Monitor α → Prop
  | nil (monitor) : Closing monitor [] monitor
  | logged {monitor final sent} (event : JobEvent) :
      Closing monitor sent final →
      Closing monitor (Emission.ofJobEvent event ++ sent) final
  | closeJob {monitor final : Monitor α} {scope outer sent} (now name succeeded) :
      monitor.scopes = scope :: outer →
      Closing (monitor.closeJob now name succeeded).monitor sent final →
      Closing monitor ((monitor.closeJob now name succeeded).emitted ++ sent) final

namespace Closing

variable {monitor middle final : Monitor α} {first second : List Emission}

theorem append (left : Closing monitor first middle) (right : Closing middle second final) :
    Closing monitor (first ++ second) final := by
  induction left with
  | nil => exact right
  | logged event _ induction =>
      rw [List.append_assoc]
      exact .logged event (induction right)
  | closeJob now name succeeded stack _ induction =>
      rw [List.append_assoc]
      exact .closeJob now name succeeded stack (induction right)

end Closing

theorem closeJob_closing (monitor : Monitor α) (now : Instant) (name : String)
    (succeeded : Bool) :
    Closing monitor (monitor.closeJob now name succeeded).emitted
      (monitor.closeJob now name succeeded).monitor := by
  cases stack : monitor.scopes with
  | nil =>
      rw [closeJob_of_idle stack]
      exact .logged (.unbalancedEnd name) (.nil monitor)
  | cons scope outer =>
      rw [← List.append_nil (monitor.closeJob now name succeeded).emitted]
      exact .closeJob now name succeeded stack (.nil _)

theorem closeInnermost_closing (monitor : Monitor α) (clock : Clock) (worked count : Nat) :
    Closing monitor (monitor.closeInnermost clock worked count).emitted
      (monitor.closeInnermost clock worked count).monitor := by
  induction count generalizing monitor clock worked with
  | zero => exact .nil monitor
  | succ count induction =>
      rw [closeInnermost]
      split
      · exact .nil monitor
      · next name _ =>
          have closed := monitor.closeJob_closing clock.now name false
          dsimp only
          split
          · exact closed
          · next units _ => exact closed.append (induction _ _ units)

theorem closeLeftOpen_closing (monitor : Monitor α) (clock : Clock) (job : String)
    (count : Nat) :
    Closing monitor (monitor.closeLeftOpen clock job count).emitted
      (monitor.closeLeftOpen clock job count).monitor := by
  induction count generalizing monitor clock with
  | zero => exact .nil monitor
  | succ count induction =>
      rw [closeLeftOpen]
      have closed := (monitor.closeJob_closing clock.now (monitor.currentJob.getD "") false).logged
        (.leftOpen job (monitor.currentJob.getD ""))
      split
      · exact closed
      · exact closed.append (induction _ _)

theorem conclude_closing (monitor : Monitor α) (clock : Clock) (job : String) (depth : Nat)
    (succeeded : Bool) :
    Closing monitor (monitor.conclude clock job depth succeeded).emitted
      (monitor.conclude clock job depth succeeded).monitor := by
  have unwound := monitor.closeLeftOpen_closing clock job (monitor.depth - depth)
  rw [conclude]
  split
  · exact unwound
  · split
    · exact unwound.append (closeJob_closing _ _ job succeeded)
    · exact unwound

/-! ## What a call comes to -/

/-- All that can come of a call: whether it is accepted, what it sends out, and the monitor
after it. -/
inductive Performs (monitor : Monitor α) (reading : Reading) :
    Call → Bool → List Emission → Monitor α → Prop
  | refused (call) : Performs monitor reading call false [] monitor
  | openRoot (name) (share totalWork : UInt32) :
      monitor.scopes = [] →
      Performs monitor reading (.openJob name share totalWork) true
        (monitor.openRoot reading.now name totalWork.toNat).emitted
        (monitor.openRoot reading.now name totalWork.toNat).monitor
  | openNested {parent outer} (name) (share totalWork : UInt32) (granted : GrantedShare)
      (logged : List Emission) :
      monitor.scopes = parent :: outer →
      granted.share = min granted.requested (parent.shareLimit monitor.overrunWork) →
      Emission.sinkCalls logged = [] →
      Performs monitor reading (.openJob name share totalWork) true
        (logged ++
          (monitor.openNested parent outer reading.now name granted totalWork.toNat).emitted)
        (monitor.openNested parent outer reading.now name granted totalWork.toNat).monitor
  | step {scope outer} (name detail) (share : UInt32) :
      monitor.scopes = scope :: outer →
      Performs monitor reading (.step name detail share) true
        (monitor.step name detail share).emitted (monitor.step name detail share).monitor
  | reestimate {scope outer} (name) (work : UInt32) :
      monitor.scopes = scope :: outer →
      Performs monitor reading (.reestimate name work) true
        (monitor.reestimate name work).emitted (monitor.reestimate name work).monitor
  | closeJob {accepted sent final} (name succeeded) :
      Closing monitor sent final →
      Performs monitor reading (.closeJob name succeeded) accepted sent final
  | closeAll {accepted sent final} :
      Closing monitor sent final →
      Performs monitor reading .closeAll accepted sent final
  | checkCanceled (name accepted) :
      Performs monitor reading (.checkCanceled name) accepted
        (monitor.checkCanceled reading.clock name reading.canceled).emitted
        (monitor.checkCanceled reading.clock name reading.canceled).monitor

theorem openJob_performs (monitor : Monitor α) (reading : Reading) (name : String)
    (share totalWork : UInt32) :
    let opened := monitor.perform reading (.openJob name share totalWork)
    monitor.Performs reading (.openJob name share totalWork) opened.result.isOk opened.emitted
      opened.monitor := by
  intro opened
  simp only [opened, perform]
  rcases monitor.openJob_cases reading.now name share totalWork with
    ⟨idle, equal⟩ | ⟨parent, outer, stack, fits, equal⟩ |
    ⟨parent, outer, stack, excess, _, equal⟩ | ⟨_, _, _, _, _, equal⟩
  · rw [equal]
    exact .openRoot name share totalWork idle
  · rw [equal]
    exact .openNested name share totalWork _ [] stack (Nat.min_eq_left fits).symm rfl
  · rw [equal]
    exact .openNested name share totalWork _ _ stack
      (Nat.min_eq_right (Nat.le_of_lt excess)).symm rfl
  · rw [equal]
    exact .refused _

theorem perform_performs (monitor : Monitor α) (reading : Reading) (call : Call) :
    let performed := monitor.perform reading call
    monitor.Performs reading call performed.result.isOk performed.emitted performed.monitor := by
  intro performed
  cases call with
  | openJob name share totalWork => exact monitor.openJob_performs reading name share totalWork
  | step name detail share =>
      cases stack : monitor.scopes with
      | nil =>
          simp only [performed, perform, step_of_idle stack]
          exact .refused _
      | cons scope outer =>
          have accepted : performed.result.isOk = true := by
            simp only [performed, perform, step_of_open stack]
            rfl
          rw [accepted]
          exact .step name detail share stack
  | reestimate name work =>
      cases stack : monitor.scopes with
      | nil =>
          simp only [performed, perform, reestimate_of_idle stack]
          exact .refused _
      | cons scope outer =>
          have accepted : performed.result.isOk = true := by
            simp only [performed, perform, reestimate_of_open stack]
            rfl
          rw [accepted]
          exact .reestimate name work stack
  | closeJob name succeeded =>
      exact .closeJob name succeeded (monitor.closeJob_closing reading.now name succeeded)
  | closeAll => exact .closeAll (monitor.closeInnermost_closing reading.clock 0 monitor.depth)
  | checkCanceled name => exact .checkCanceled name _

end JobProgress.Monitor
