import JobProgress.Proofs.Episodes
import JobProgress.Proofs.SessionTrace

/-! A monitor tells its sink of one task after another. Each call adds to the
chronicle of the sink, and a task is open in it as long as a job is. -/

namespace JobProgress

open SinkCall

namespace Ticks

variable {α : Type} [Amount α]

theorem report_reports (ticks : Ticks α) (amount : α) : Reports 1 (ticks.report amount).2 := by
  simp only [report]
  split
  · exact .nil 1
  · split
    · exact .nil 1
    · exact reports_report _

theorem finish_reports (ticks : Ticks α) : Reports 1 ticks.finish.2 :=
  reports_report ticks.remaining

end Ticks

namespace Monitor

variable {α : Type} {monitor next : Monitor α} {sent calls : List SinkCall}
  {chronicle : Chronicle}

theorem showTopName_eq {top : String} (named : monitor.topName = some top) :
    monitor.showTopName = [.taskName top] := by
  rw [showTopName, named]
  rfl

/-- A monitor and what its sink has heard: a task is open as long as a job is, and
the top name is known since the first task began. -/
structure HasTold (monitor : Monitor α) (sent : List SinkCall) (chronicle : Chronicle) :
    Prop where
  records : chronicle.Records sent
  open_iff : chronicle.current.isSome = true ↔ 0 < monitor.depth
  topName_eq : monitor.topName = firstBegun sent

namespace HasTold

theorem ofConfig [Amount α] (config : Config) :
    (Monitor.ofConfig config : Monitor α).HasTold [] ⟨"", [], none⟩ where
  records := .empty
  open_iff := by simp [Monitor.ofConfig, depth]
  topName_eq := rfl

theorem current_eq_none (told : monitor.HasTold sent chronicle) (idle : monitor.scopes = []) :
    chronicle.current = none := by
  apply Option.not_isSome_iff_eq_none.mp
  intro opened
  have busy := told.open_iff.mp opened
  rw [depth, idle] at busy
  exact Nat.not_lt_zero _ busy

theorem exists_current (told : monitor.HasTold sent chronicle) (opened : 0 < monitor.depth) :
    ∃ episode, chronicle.current = some episode :=
  Option.isSome_iff_exists.mp (told.open_iff.mpr opened)

theorem topName_of_open (told : monitor.HasTold sent chronicle) (opened : 0 < monitor.depth) :
    monitor.topName = some chronicle.top := by
  rcases told.exists_current opened with ⟨episode, current⟩
  rw [told.topName_eq]
  apply told.records.firstBegun_eq_top
  simp [Chronicle.episodes, current]

theorem tell (told : monitor.HasTold sent chronicle) (opened : 0 < monitor.depth)
    (stillOpen : 0 < next.depth) (sameName : next.topName = monitor.topName)
    (within : ∀ call ∈ calls, call.IsWithinTask) :
    next.HasTold (sent ++ calls) (chronicle.tell calls) := by
  rcases told.exists_current opened with ⟨episode, current⟩
  refine ⟨told.records.tell current within, ?_, ?_⟩
  · simp [Chronicle.tell, current, stillOpen]
  · rw [sameName, told.topName_eq, firstBegun_append, firstBegun_of_within within,
      Option.or_none]

theorem finish (told : monitor.HasTold sent chronicle) (opened : 0 < monitor.depth)
    (idle : next.scopes = []) (sameName : next.topName = monitor.topName) :
    next.HasTold (sent ++ .done :: monitor.showTopName) chronicle.finish := by
  rcases told.exists_current opened with ⟨episode, current⟩
  rw [showTopName_eq (told.topName_of_open opened)]
  refine ⟨told.records.finish current, ?_, ?_⟩
  · simp [Chronicle.finish, depth, idle]
  · rw [sameName, told.topName_eq, firstBegun_append]
    simp [firstBegun]

end HasTold

/-! ## What calls tell -/

theorem depth_of_open {scope : Scope α} {outer : List (Scope α)}
    (stack : monitor.scopes = scope :: outer) : 0 < monitor.depth := by
  rw [depth, stack]
  exact Nat.succ_pos _

theorem resync_within (monitor : Monitor α) (exhausted : Bool) :
    ∀ call ∈ monitor.resync exhausted, call.IsWithinTask := by
  intro call member
  cases exhausted with
  | false => cases member
  | true =>
      rw [List.mem_singleton.mp member]
      trivial

theorem showTopName_within (monitor : Monitor α) :
    ∀ call ∈ monitor.showTopName, call.IsWithinTask := by
  intro call member
  rcases List.mem_map.mp member with ⟨name, _, rfl⟩
  trivial

@[simp] theorem checkCanceled_calls (monitor : Monitor α) (clock : Clock) (name : String)
    (answer : Bool) :
    Emission.sinkCalls (monitor.checkCanceled clock name answer).emitted = [] := by
  simp only [checkCanceled]
  split <;> rfl

def restated (scope : Scope α) (remaining : Nat) : List SinkCall :=
  if scope.workRemaining = 0 then [.workRemaining remaining] else []

theorem resync_eq_restated (monitor : Monitor α) (scope : Scope α) :
    monitor.resync scope.isExhausted = restated scope monitor.ticks.remaining := by
  simp [resync, restated, Scope.isExhausted]

/-- What the sink is told by a single call that does not fail, after which some
units remain of the task. -/
inductive Tells (monitor : Monitor α) (remaining : Nat) : Call → List SinkCall → Prop
  | openRoot (name share) (totalWork : UInt32) :
      monitor.scopes = [] →
      Tells monitor remaining (.openJob name share totalWork)
        [.taskName name, .beginTask name totalWork.toNat]
  | openNested {parent : Scope α} {outer} (name share totalWork) :
      monitor.scopes = parent :: outer →
      Tells monitor remaining (.openJob name share totalWork)
        (restated parent remaining ++ [.taskName name])
  | step {scope : Scope α} {outer reports} (name detail share) :
      monitor.scopes = scope :: outer →
      Reports 1 reports →
      Tells monitor remaining (.step name detail share)
        (reports ++ (restated scope remaining ++ [.subTask name]))
  | reestimate {scope : Scope α} {outer} (name work) :
      monitor.scopes = scope :: outer →
      Tells monitor remaining (.reestimate name work) [.workRemaining remaining]
  | closeNested {scope parent : Scope α} {outer reports top} (name succeeded) :
      monitor.scopes = scope :: parent :: outer →
      monitor.topName = some top →
      Reports 1 reports →
      Tells monitor remaining (.closeJob name succeeded) (reports ++ [.taskName top])
  | closeRoot {scope : Scope α} {reports top} (name succeeded) :
      monitor.scopes = [scope] →
      monitor.topName = some top →
      Reports 2 reports →
      Tells monitor remaining (.closeJob name succeeded) (reports ++ [.done, .taskName top])
  | checkCanceled (name) : Tells monitor remaining (.checkCanceled name) []

variable [Amount α] {scope parent : Scope α} {outer : List (Scope α)}

theorem openRoot_calls (monitor : Monitor α) (now : Instant) (name : String) (totalWork : Nat) :
    Emission.sinkCalls (monitor.openRoot now name totalWork).emitted =
      [.taskName name, .beginTask name totalWork] := by
  simp [openRoot]

theorem openNested_calls (monitor : Monitor α) (parent : Scope α) (outer : List (Scope α))
    (now : Instant) (name : String) (granted : GrantedShare) (totalWork : Nat) :
    Emission.sinkCalls
        (monitor.openNested parent outer now name granted totalWork).emitted =
      monitor.resync parent.isExhausted ++ [.taskName name] := by
  simp [openNested]

theorem step_calls (stack : monitor.scopes = scope :: outer) (name detail : String)
    (share : UInt32) :
    ∃ reports, Reports 1 reports ∧
      Emission.sinkCalls (monitor.step name detail share).emitted =
        reports ++
          ((monitor.step name detail share).monitor.resync scope.isExhausted ++
            [.subTask name]) := by
  refine ⟨_, monitor.ticks.report_reports (scope.view.advance scope.pending).2, ?_⟩
  rw [step_of_open stack]
  simp

theorem reestimate_calls (stack : monitor.scopes = scope :: outer) (name : String)
    (work : UInt32) :
    Emission.sinkCalls (monitor.reestimate name work).emitted =
      [.workRemaining monitor.ticks.remaining] := by
  rw [reestimate_of_open stack]
  simp [resync]

theorem closeJob_calls_nested (stack : monitor.scopes = scope :: parent :: outer)
    (now : Instant) (name : String) (succeeded : Bool) :
    ∃ reports, Reports 1 reports ∧
      Emission.sinkCalls (monitor.closeJob now name succeeded).emitted =
        reports ++ monitor.showTopName := by
  refine ⟨_, monitor.ticks.report_reports scope.view.finish.2, ?_⟩
  rw [closeJob_of_open stack]
  simp [finishTask]

theorem closeJob_calls_root (stack : monitor.scopes = [scope]) (now : Instant) (name : String)
    (succeeded : Bool) :
    ∃ reports, Reports 2 reports ∧
      Emission.sinkCalls (monitor.closeJob now name succeeded).emitted =
        reports ++ .done :: monitor.showTopName := by
  have filling := monitor.ticks.report_reports scope.view.finish.2
  refine ⟨_, filling.append (monitor.ticks.report scope.view.finish.2).1.finish_reports, ?_⟩
  rw [closeJob_of_open stack]
  simp [finishTask]

/-! ## What a series of calls tells -/

theorem Move.hasTold {emitted : List Emission} (move : Move monitor emitted next)
    (told : monitor.HasTold sent chronicle) :
    ∃ later, next.HasTold (sent ++ Emission.sinkCalls emitted) later := by
  cases move with
  | openRoot now name totalWork idle =>
      rw [openRoot_calls]
      refine ⟨_, told.records.start (told.current_eq_none idle) name totalWork.toNat, ?_, ?_⟩
      · exact iff_of_true rfl (depth_of_open rfl)
      · rw [firstBegun_append, ← told.topName_eq]
        cases known : monitor.topName <;> simp [Monitor.openRoot, known, firstBegun]
  | openNested now name granted totalWork stack limited =>
      rw [openNested_calls]
      refine ⟨_, told.tell (depth_of_open stack) (depth_of_open rfl) rfl ?_⟩
      exact List.forall_mem_append.mpr
        ⟨resync_within monitor _, List.forall_mem_singleton.mpr trivial⟩
  | step name detail share stack =>
      rcases step_calls stack name detail share with ⟨reports, few, calls⟩
      rw [calls]
      have opened := depth_of_open stack
      rw [step_of_open stack]
      refine ⟨_, told.tell opened (depth_of_open rfl) rfl ?_⟩
      refine List.forall_mem_append.mpr ⟨few.within, List.forall_mem_append.mpr ?_⟩
      exact ⟨resync_within _ _, List.forall_mem_singleton.mpr trivial⟩
  | reestimate name work stack =>
      rw [reestimate_calls stack]
      have opened := depth_of_open stack
      rw [reestimate_of_open stack]
      exact ⟨_, told.tell opened (depth_of_open rfl) rfl (List.forall_mem_singleton.mpr trivial)⟩
  | @closeJob scope outer now name succeeded stack =>
      have opened := depth_of_open stack
      cases outer with
      | nil =>
          rcases closeJob_calls_root stack now name succeeded with ⟨reports, few, calls⟩
          rw [calls, ← List.append_assoc]
          have filled := told.tell opened opened rfl few.within
          refine ⟨_, filled.finish opened ?_ ?_⟩
          · rw [closeJob_of_open stack]
            rfl
          · rw [closeJob_of_open stack]
      | cons parent outer =>
          rcases closeJob_calls_nested stack now name succeeded with ⟨reports, few, calls⟩
          rw [calls]
          rw [closeJob_of_open stack]
          refine ⟨_, told.tell opened (depth_of_open rfl) rfl ?_⟩
          exact List.forall_mem_append.mpr ⟨few.within, showTopName_within monitor⟩
  | checkCanceled now name answer =>
      rw [checkCanceled_calls, List.append_nil]
      exact ⟨chronicle, told.records, told.open_iff, told.topName_eq⟩
  | logged event =>
      rw [Emission.sinkCalls_ofJobEvent, List.append_nil]
      exact ⟨chronicle, told⟩

theorem Trace.hasTold {emitted : List Emission} (trace : Trace monitor emitted next)
    (told : monitor.HasTold sent chronicle) :
    ∃ later, next.HasTold (sent ++ Emission.sinkCalls emitted) later := by
  induction trace with
  | nil => exact ⟨chronicle, by simpa using told⟩
  | snoc _ move induction =>
      rcases induction with ⟨middle, toldSoFar⟩
      rw [Emission.sinkCalls_append, ← List.append_assoc]
      exact move.hasTold toldSoFar

theorem HasTold.tells (told : monitor.HasTold sent chronicle) (reading : Reading) (call : Call)
    (single : call ≠ .closeAll) {reply : Reply}
    (accepted : (monitor.perform reading call).result = .ok reply) :
    monitor.Tells (monitor.perform reading call).monitor.ticks.remaining call
      (Emission.sinkCalls (monitor.perform reading call).emitted) := by
  cases call with
  | openJob name share totalWork =>
      rcases monitor.openJob_cases reading.now name share totalWork with
        ⟨idle, equal⟩ | ⟨parent, outer, stack, _, equal⟩ |
        ⟨parent, outer, stack, _, _, equal⟩ | ⟨_, _, _, _, _, equal⟩
      · rw [perform, equal, Outcome.map_emitted, openRoot_calls]
        exact .openRoot name share totalWork idle
      · rw [perform, equal, Outcome.map_emitted, openNested_calls, resync_eq_restated]
        exact .openNested name share totalWork stack
      · rw [perform, equal, Outcome.map_emitted, Outcome.after_emitted,
          Emission.sinkCalls_append, Emission.sinkCalls_ofJobEvent, openNested_calls,
          resync_eq_restated]
        exact .openNested name share totalWork stack
      · rw [perform, equal] at accepted
        cases accepted
  | step name detail share =>
      cases stack : monitor.scopes with
      | nil =>
          rw [perform, step_of_idle stack] at accepted
          cases accepted
      | cons scope outer =>
          rcases step_calls stack name detail share with ⟨reports, few, calls⟩
          rw [perform, Outcome.map_emitted, calls, resync_eq_restated]
          exact .step name detail share stack few
  | reestimate name work =>
      cases stack : monitor.scopes with
      | nil =>
          rw [perform, reestimate_of_idle stack] at accepted
          cases accepted
      | cons scope outer =>
          rw [perform, Outcome.map_emitted, reestimate_calls stack, Outcome.map_monitor,
            reestimate_of_open stack]
          exact .reestimate name work stack
  | closeJob name succeeded =>
      cases stack : monitor.scopes with
      | nil =>
          rw [perform, closeJob_of_idle stack] at accepted
          cases accepted
      | cons scope outer =>
          have named := told.topName_of_open (depth_of_open stack)
          have shown := showTopName_eq named
          cases outer with
          | nil =>
              rcases closeJob_calls_root stack reading.now name succeeded with
                ⟨reports, few, calls⟩
              rw [perform, Outcome.map_emitted, calls, shown]
              exact .closeRoot name succeeded stack named few
          | cons parent outer =>
              rcases closeJob_calls_nested stack reading.now name succeeded with
                ⟨reports, few, calls⟩
              rw [perform, Outcome.map_emitted, calls, shown]
              exact .closeNested name succeeded stack named few
  | closeAll => exact absurd rfl single
  | checkCanceled name =>
      rw [perform, Outcome.map_emitted, checkCanceled_calls]
      exact .checkCanceled name

end Monitor

namespace Session

variable {σ ω α : Type} [ProgressSink σ] [WarningSink ω] [Amount α]

/-- At every moment of a run the sink has heard of whole tasks, one after another,
and then of the open one, if a job is open; so all it hears breaks off a series of
whole tasks. The name shown when a task is done, and kept as the top name, is that
of the first task of all. What a further call tells hangs only on whether there is
a job around the innermost one, and whether that job has work left. -/
theorem sink_hears_tasks_in_turn (config : Config) (sink : σ) (warnings : ω) (clock : Clock)
    (script : List (Script σ)) {earlier later : List (Moment σ ω α)}
    (moments :
      Report.momentsOf ((ofConfig config sink warnings clock : Session σ ω α).runAll script).1 =
        earlier ++ later) :
    let reached := (ofConfig config sink warnings clock : Session σ ω α).upTo earlier
    let monitor := reached.session.monitor
    let sent := Emission.sinkCalls reached.emitted
    (∃ chronicle : Chronicle, monitor.HasTold sent chronicle ∧
      sent <+: chronicle.episodes.flatMap (·.whole chronicle.top)) ∧
    ∀ reading call reply, call ≠ .closeAll →
      (monitor.perform reading call).result = .ok reply →
      monitor.Tells (monitor.perform reading call).monitor.ticks.remaining call
        (Emission.sinkCalls (monitor.perform reading call).emitted) := by
  intro reached monitor sent
  rcases (upTo_sends moments).traced with ⟨emitted, trace, calls⟩
  rcases trace.hasTold (.ofConfig config) with ⟨chronicle, told⟩
  rw [calls, List.nil_append] at told
  refine ⟨⟨chronicle, told, ?_⟩, ?_⟩
  · have recorded : sent = chronicle.calls := told.records.calls_eq
    rw [recorded]
    exact chronicle.calls_isPrefix
  · intro reading call reply single accepted
    exact told.tells reading call single accepted

/-- The first of two tasks is done and the second is open. -/
theorem sink_hears_tasks_in_turn_of_second_task :
    let script : List (Script NullSink) :=
      [.call (.openJob "build" 1 2),
        .job "compile" 1 3 [.call (.step "parse" "" 3)] ⟨false, none⟩,
        .call (.closeJob "build" true), .call (.openJob "deploy" 1 1),
        .call (.step "copy" "" 1), .call (.closeJob "deploy" true)]
    let clock : Clock := .frozen .zero .zero
    let session : Session NullSink IgnoredWarnings Rat := ofConfig .default ⟨⟩ ⟨⟩ clock
    let earlier := (Report.momentsOf (session.runAll script).1).take 7
    let reached := session.upTo earlier
    Emission.sinkCalls reached.emitted =
        [.taskName "build", .beginTask "build" 2, .taskName "compile", .subTask "parse",
          .worked 1, .taskName "build", .worked 1, .done, .taskName "build",
          .taskName "deploy", .beginTask "deploy" 1, .subTask "copy"] ∧
      reached.session.monitor.topName = some "build" ∧
      ∃ chronicle : Chronicle, chronicle.top = "build" ∧ chronicle.current.isSome = true ∧
        Emission.sinkCalls reached.emitted = chronicle.calls := by
  intro script clock session earlier reached
  have heard : Emission.sinkCalls reached.emitted =
      [.taskName "build", .beginTask "build" 2, .taskName "compile", .subTask "parse",
        .worked 1, .taskName "build", .worked 1, .done, .taskName "build",
        .taskName "deploy", .beginTask "deploy" 1, .subTask "copy"] := by
    decide +kernel +zetaReduce
  have moments := (List.take_append_drop 7 (Report.momentsOf (session.runAll script).1)).symm
  rcases (sink_hears_tasks_in_turn .default _ _ _ script moments).1 with ⟨chronicle, told, _⟩
  change reached.session.monitor.HasTold (Emission.sinkCalls reached.emitted) chronicle at told
  have first : SinkCall.firstBegun (Emission.sinkCalls reached.emitted) = some "build" := by
    rw [heard]
    rfl
  have named := told.topName_eq.trans first
  have top := told.records.top_eq "build" first
  have opened : 0 < reached.session.monitor.depth := by decide +kernel +zetaReduce
  have current := told.open_iff.mpr opened
  exact ⟨heard, named, chronicle, top, current, told.records.calls_eq⟩

end Session

end JobProgress
