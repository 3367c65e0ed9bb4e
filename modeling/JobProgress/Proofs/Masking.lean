import JobProgress.Proofs.SinkProtocol

/-! What a monitor does with its names is to store them and to hand them on. So if a `Mask`
replaces the names that a monitor knows and is given, the monitor does the same as
before, with the replaced names. The same goes for the instants at which its jobs were
opened. Other labels are only logged, and may be anything. -/

namespace JobProgress

/-- What is put in place of names, and of the instants at which jobs are opened. -/
structure Mask where
  name : String → String
  instant : Instant → Instant

namespace Mask

variable {α : Type}

def ofNames (name : String → String) : Mask := ⟨name, id⟩

def sinkCall (mask : Mask) : SinkCall → SinkCall
  | .taskName name => .taskName (mask.name name)
  | .beginTask name total => .beginTask (mask.name name) total
  | .worked units => .worked units
  | .workRemaining units => .workRemaining units
  | .subTask name => .subTask (mask.name name)
  | .done => .done

def error (mask : Mask) : CallError → CallError
  | .noOpenJob operation => .noOpenJob operation
  | .unbalancedEnd => .unbalancedEnd
  | .shareExceedsRemaining job share available =>
      .shareExceedsRemaining (mask.name job) share available
  | .clockOverflow => .clockOverflow

def scope (mask : Mask) (scope : Scope α) : Scope α :=
  { scope with name := mask.name scope.name, startedAt := mask.instant scope.startedAt }

/-- A monitor behind a mask, with another record of polls. -/
def monitor (mask : Mask) (monitor : Monitor α) (cancelPoll : RateLimited Bool) : Monitor α :=
  { monitor with
    scopes := monitor.scopes.map mask.scope
    topName := monitor.topName.map mask.name
    cancelPoll }

section Unnamed

variable {mask : Mask} (kept : mask.name = id)
include kept

theorem sinkCall_eq_self (call : SinkCall) : mask.sinkCall call = call := by
  cases call <;> simp [sinkCall, kept]

theorem map_eq_self (calls : List SinkCall) : calls.map mask.sinkCall = calls := by
  rw [List.map_congr_left fun call _ => mask.sinkCall_eq_self kept call, List.map_id']

theorem error_eq_self (error : CallError) : mask.error error = error := by
  cases error <;> simp [Mask.error, kept]

theorem mapError_eq_self {ρ : Type} (result : Except CallError ρ) :
    result.mapError mask.error = result := by
  cases result with
  | error error => exact congrArg Except.error (error_eq_self kept error)
  | ok _ => rfl

end Unnamed

end Mask

/-- An outcome that is another one behind a mask, apart from what is logged. -/
structure Outcome.Masks {α ρ : Type} (mask : Mask) (cancelPoll : RateLimited Bool)
    (outcome masked : Outcome α ρ) : Prop where
  result_eq : masked.result = outcome.result.mapError mask.error
  monitor_eq : masked.monitor = mask.monitor outcome.monitor cancelPoll
  calls_eq : Emission.sinkCalls masked.emitted =
    (Emission.sinkCalls outcome.emitted).map mask.sinkCall

namespace Outcome.Masks

variable {α ρ τ : Type} {mask : Mask} {cancelPoll : RateLimited Bool}
  {outcome masked : Outcome α ρ}

theorem map (masks : outcome.Masks mask cancelPoll masked) (convert : ρ → τ) :
    (outcome.map convert).Masks mask cancelPoll (masked.map convert) where
  result_eq := by
    rw [map_result, map_result, masks.result_eq]
    cases outcome.result <;> rfl
  monitor_eq := masks.monitor_eq
  calls_eq := masks.calls_eq

theorem after (masks : outcome.Masks mask cancelPoll masked) {sent other : List Emission}
    (told : Emission.sinkCalls other = (Emission.sinkCalls sent).map mask.sinkCall) :
    (outcome.after sent).Masks mask cancelPoll (masked.after other) where
  result_eq := masks.result_eq
  monitor_eq := masks.monitor_eq
  calls_eq := by
    rw [after_emitted, after_emitted, Emission.sinkCalls_append, Emission.sinkCalls_append, told,
      masks.calls_eq, List.map_append]

end Outcome.Masks

/-! ## Parts of a monitor -/

namespace Mask

variable {α : Type} {mask : Mask} {monitor : Monitor α} {cancelPoll : RateLimited Bool}
  {scope : Scope α} {outer : List (Scope α)}

theorem scopes_idle (idle : monitor.scopes = []) :
    (mask.monitor monitor cancelPoll).scopes = [] := by
  rw [Mask.monitor, idle]
  rfl

theorem scopes_open (stack : monitor.scopes = scope :: outer) :
    (mask.monitor monitor cancelPoll).scopes = mask.scope scope :: outer.map mask.scope := by
  rw [Mask.monitor, stack]
  rfl

@[simp] theorem depth_eq : (mask.monitor monitor cancelPoll).depth = monitor.depth :=
  List.length_map _

theorem currentJob_eq :
    (mask.monitor monitor cancelPoll).currentJob = monitor.currentJob.map mask.name := by
  cases stack : monitor.scopes <;> simp [Monitor.currentJob, stack, Mask.monitor, Mask.scope]

theorem showTopName_eq :
    (mask.monitor monitor cancelPoll).showTopName =
      monitor.showTopName.map mask.sinkCall := by
  cases named : monitor.topName <;> simp [Monitor.showTopName, named, Mask.monitor, Mask.sinkCall]

theorem map_resync (exhausted : Bool) :
    (monitor.resync exhausted).map mask.sinkCall = monitor.resync exhausted := by
  cases exhausted <;> rfl

theorem map_reports {count : Nat} {calls : List SinkCall}
    (reports : SinkCall.Reports count calls) : calls.map mask.sinkCall = calls := by
  rcases reports with ⟨units, _, rfl⟩
  rw [List.map_map]
  rfl

theorem settleParent_map (scopes : List (Scope α)) :
    Monitor.settleParent (scopes.map mask.scope) =
      (Monitor.settleParent scopes).map mask.scope := by
  cases scopes <;> rfl

variable [Amount α]

theorem extendView_view (scope : Scope α) (overrunWork : Nat) :
    ((mask.scope scope).extendView overrunWork).view = (scope.extendView overrunWork).view := by
  cases exhausted : scope.isExhausted <;>
    simp_all [Scope.extendView, Scope.isExhausted, Mask.scope]

theorem carved_eq (scope : Scope α) (overrunWork : Nat) (granted : GrantedShare) :
    (mask.scope scope).carved overrunWork granted =
      mask.scope (scope.carved overrunWork granted) := by
  rw [Scope.carved, extendView_view]
  rfl

theorem finishTask_map (ticks : Ticks α) (scopes : List (Scope α)) :
    Monitor.finishTask ticks (scopes.map mask.scope) = Monitor.finishTask ticks scopes := by
  cases scopes <;> rfl

theorem map_finishTask (ticks : Ticks α) (scopes : List (Scope α)) :
    (Monitor.finishTask ticks scopes).2.map mask.sinkCall =
      (Monitor.finishTask ticks scopes).2 := by
  cases scopes with
  | nil => rw [Monitor.finishTask, List.map_append, map_reports ticks.finish_reports]; rfl
  | cons parent outer => rfl

end Mask

namespace Monitor

open Outcome

variable {α : Type} (mask : Mask) (cancelPoll : RateLimited Bool) (monitor : Monitor α)

theorem refuse_masks {ρ : Type} (error : CallError) :
    (monitor.refuse error : Outcome α ρ).Masks mask cancelPoll
      ((mask.monitor monitor cancelPoll).refuse (mask.error error)) :=
  ⟨rfl, rfl, rfl⟩

variable [Amount α]

/-! ## Job calls -/

theorem openRoot_masks (now : Instant) (name : String) (totalWork : Nat) :
    (monitor.openRoot now name totalWork).Masks mask cancelPoll
      ((mask.monitor monitor cancelPoll).openRoot (mask.instant now) (mask.name name)
        totalWork) := by
  refine ⟨rfl, ?_, rfl⟩
  cases named : monitor.topName <;> simp [openRoot, Mask.monitor, Mask.scope, named, Scope.ofView]

theorem openNested_masks (parent : Scope α) (outer : List (Scope α)) (now : Instant)
    (name : String) (granted : GrantedShare) (totalWork : Nat) :
    (monitor.openNested parent outer now name granted totalWork).Masks mask cancelPoll
      ((mask.monitor monitor cancelPoll).openNested (mask.scope parent) (outer.map mask.scope)
        (mask.instant now) (mask.name name) granted totalWork) where
  result_eq := rfl
  monitor_eq := by
    rw [openNested_monitor, openNested_monitor, Mask.extendView_view, Mask.carved_eq]
    rfl
  calls_eq := by
    rw [openNested_calls, openNested_calls, List.map_append, Mask.map_resync]
    rfl

theorem openJob_masks (now : Instant) (name : String) (share totalWork : UInt32) :
    (monitor.openJob now name share totalWork).Masks mask cancelPoll
      ((mask.monitor monitor cancelPoll).openJob (mask.instant now) (mask.name name) share
        totalWork) := by
  rcases monitor.openJob_cases now name share totalWork with
    ⟨idle, equal⟩ | ⟨parent, outer, stack, fits, equal⟩ |
    ⟨parent, outer, stack, excess, policy, equal⟩ |
    ⟨parent, outer, stack, excess, policy, equal⟩
  · rw [equal, openJob_of_idle (Mask.scopes_idle idle)]
    exact monitor.openRoot_masks mask cancelPoll now name totalWork.toNat
  · rw [equal, openJob_of_fits (Mask.scopes_open stack) fits]
    exact monitor.openNested_masks mask cancelPoll parent outer now name _ totalWork.toNat
  · rw [equal, openJob_of_clamp (Mask.scopes_open stack) excess policy]
    exact (monitor.openNested_masks mask cancelPoll parent outer now name _
      totalWork.toNat).after rfl
  · rw [equal, openJob_of_reject (Mask.scopes_open stack) excess policy]
    exact monitor.refuse_masks mask cancelPoll _

theorem step_masks (name detail otherDetail : String) (share : UInt32) :
    (monitor.step name detail share).Masks mask cancelPoll
      ((mask.monitor monitor cancelPoll).step (mask.name name) otherDetail share) := by
  cases stack : monitor.scopes with
  | nil =>
      rw [step_of_idle stack, step_of_idle (Mask.scopes_idle stack)]
      exact monitor.refuse_masks mask cancelPoll _
  | cons scope outer =>
      rw [step_of_open stack, step_of_open (Mask.scopes_open stack)]
      refine ⟨rfl, rfl, ?_⟩
      have reports := monitor.ticks.report_reports (scope.view.advance scope.pending).2
      simp only [Emission.sinkCalls_append, Emission.sinkCalls_ofCalls,
        Emission.sinkCalls_ofJobEvent, List.append_nil, List.map_append, Mask.map_resync,
        Mask.map_reports reports]
      rfl

theorem reestimate_masks (name otherName : String) (work : UInt32) :
    (monitor.reestimate name work).Masks mask cancelPoll
      ((mask.monitor monitor cancelPoll).reestimate otherName work) := by
  cases stack : monitor.scopes with
  | nil =>
      rw [reestimate_of_idle stack, reestimate_of_idle (Mask.scopes_idle stack)]
      exact monitor.refuse_masks mask cancelPoll _
  | cons scope outer =>
      rw [reestimate_of_open stack, reestimate_of_open (Mask.scopes_open stack)]
      exact ⟨rfl, rfl, rfl⟩

theorem closeJob_masks (now otherNow : Instant) (name otherName : String)
    (succeeded otherSucceeded : Bool) :
    (monitor.closeJob now name succeeded).Masks mask cancelPoll
      ((mask.monitor monitor cancelPoll).closeJob otherNow otherName otherSucceeded) := by
  cases stack : monitor.scopes with
  | nil =>
      rw [closeJob_of_idle stack, closeJob_of_idle (Mask.scopes_idle stack)]
      exact (monitor.refuse_masks mask cancelPoll _).after rfl
  | cons scope outer =>
      rw [closeJob_of_open stack, closeJob_of_open (Mask.scopes_open stack)]
      have reports := monitor.ticks.report_reports scope.view.finish.2
      refine ⟨rfl, ?_, ?_⟩
      · dsimp only
        rw [Mask.settleParent_map, Mask.finishTask_map]
        rfl
      · simp only [Emission.sinkCalls_append, Emission.sinkCalls_ofCalls,
          Emission.sinkCalls_ofJobEvent, List.append_nil, List.map_append,
          Mask.map_reports reports, Mask.finishTask_map, Mask.map_finishTask,
          Mask.showTopName_eq]
        rfl

/-! ## Closing several jobs -/

theorem closeInnermost_masks (clock otherClock : Clock) (worked count : Nat) :
    (monitor.closeInnermost clock worked count).Masks mask cancelPoll
      ((mask.monitor monitor cancelPoll).closeInnermost otherClock worked count) := by
  induction count generalizing monitor clock otherClock worked with
  | zero => exact ⟨rfl, rfl, rfl⟩
  | succ count induction =>
      rw [closeInnermost, closeInnermost, Mask.currentJob_eq]
      cases monitor.currentJob with
      | none => exact ⟨rfl, rfl, rfl⟩
      | some name =>
          have closed := monitor.closeJob_masks mask cancelPoll clock.now otherClock.now name
            (mask.name name) false false
          rw [Option.map_some]
          dsimp only
          rw [closed.result_eq, closed.monitor_eq]
          cases (monitor.closeJob clock.now name false).result with
          | error error => exact ⟨rfl, rfl, closed.calls_eq⟩
          | ok units => exact (induction _ _ _ units).after closed.calls_eq

theorem closeAll_masks (clock otherClock : Clock) :
    (monitor.closeAll clock).Masks mask cancelPoll
      ((mask.monitor monitor cancelPoll).closeAll otherClock) := by
  rw [closeAll, closeAll, Mask.depth_eq]
  exact monitor.closeInnermost_masks mask cancelPoll clock otherClock 0 monitor.depth

theorem closeLeftOpen_masks (clock otherClock : Clock) (job otherJob : String) (count : Nat) :
    (monitor.closeLeftOpen clock job count).Masks mask cancelPoll
      ((mask.monitor monitor cancelPoll).closeLeftOpen otherClock otherJob count) := by
  induction count generalizing monitor clock otherClock with
  | zero => exact ⟨rfl, rfl, rfl⟩
  | succ count induction =>
      have closed := monitor.closeJob_masks mask cancelPoll clock.now otherClock.now
        (monitor.currentJob.getD "") ((mask.monitor monitor cancelPoll).currentJob.getD "")
        false false
      rw [closeLeftOpen, closeLeftOpen, closed.result_eq, closed.monitor_eq]
      cases (monitor.closeJob clock.now (monitor.currentJob.getD "") false).result with
      | error error => exact ⟨rfl, rfl, closed.calls_eq⟩
      | ok _ => exact (induction _ _ _).after closed.calls_eq

theorem conclude_masks (clock otherClock : Clock) (job otherJob : String) (depth : Nat)
    (succeeded otherSucceeded : Bool) :
    (monitor.conclude clock job depth succeeded).Masks mask cancelPoll
      ((mask.monitor monitor cancelPoll).conclude otherClock otherJob depth otherSucceeded) := by
  have unwound := monitor.closeLeftOpen_masks mask cancelPoll clock otherClock job otherJob
    (monitor.depth - depth)
  have closed := ((monitor.closeLeftOpen clock job (monitor.depth - depth)).monitor.closeJob_masks
    mask cancelPoll (clock.afterClosing (monitor.depth - depth)).now
    (otherClock.afterClosing (monitor.depth - depth)).now job otherJob succeeded
    otherSucceeded).map fun _ => ()
  simp only [conclude, Mask.depth_eq, unwound.result_eq, unwound.monitor_eq]
  cases (monitor.closeLeftOpen clock job (monitor.depth - depth)).result with
  | error error => exact unwound
  | ok _ =>
      dsimp only [Except.mapError]
      split
      · exact closed.after unwound.calls_eq
      · exact unwound

end Monitor

end JobProgress
