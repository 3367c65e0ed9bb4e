import JobProgress.Proofs.Budget
import JobProgress.Proofs.JobBody

/-! All jobs are closed in a loop, from the innermost to the outermost. Each turn counts in
the job around what was promised to the one that is closed, but nothing more, so what the
loop returns can be read off the outermost job before the loop starts. -/

namespace JobProgress

namespace SinkCall

def shownName? : SinkCall → Option String
  | .taskName name => some name
  | _ => none

/-- What is heard while a number of jobs are closed, innermost first and the outermost
last. -/
inductive ClosingCalls (top : String) : Nat → List SinkCall → Prop
  | outermost {reports} :
      Reports 2 reports → ClosingCalls top 1 (reports ++ [.done, .taskName top])
  | nested {count reports calls} :
      Reports 1 reports →
      ClosingCalls top count calls →
      ClosingCalls top (count + 1) (reports ++ [.taskName top] ++ calls)

theorem filterMap_shownName?_of_reports {count : Nat} {calls : List SinkCall}
    (reports : Reports count calls) : calls.filterMap shownName? = [] := by
  rcases reports with ⟨units, _, rfl⟩
  simp [shownName?]

namespace ClosingCalls

variable {top : String} {count : Nat} {calls : List SinkCall}

theorem count_done (closing : ClosingCalls top count calls) : calls.count .done = 1 := by
  induction closing with
  | outermost reports => simp [count_done_of_within reports.within]
  | nested reports _ induction => simp [count_done_of_within reports.within, induction]

theorem names (closing : ClosingCalls top count calls) :
    calls.filterMap shownName? = List.replicate count top := by
  induction closing with
  | outermost reports =>
      rw [List.filterMap_append, filterMap_shownName?_of_reports reports]
      rfl
  | nested reports _ induction =>
      rw [List.filterMap_append, List.filterMap_append, filterMap_shownName?_of_reports reports,
        induction]
      rfl

theorem getLast? (closing : ClosingCalls top count calls) :
    calls.getLast? = some (.taskName top) := by
  induction closing with
  | outermost reports => simp
  | nested reports _ induction => rw [List.getLast?_append, induction, Option.some_or]

theorem not_begun (closing : ClosingCalls top count calls) (name : String) (total : Nat) :
    .beginTask name total ∉ calls := by
  induction closing with
  | outermost reports =>
      have absent := fun member => reports.within (.beginTask name total) member
      exact List.not_mem_append absent (by simp)
  | nested reports _ induction =>
      have absent := fun member => reports.within (.beginTask name total) member
      exact List.not_mem_append (List.not_mem_append absent (by simp)) induction

end ClosingCalls

end SinkCall

open SinkCall

namespace Monitor

variable {α : Type} {monitor final : Monitor α} {clock : Clock} {sent : List Emission}
  {worked units : Nat} {top name : String}

theorem currentJob_eq_some (current : monitor.currentJob = some name) :
    ∃ scope outer, monitor.scopes = scope :: outer := by
  cases stack : monitor.scopes with
  | nil => simp [currentJob, stack] at current
  | cons scope outer => exact ⟨scope, outer, rfl⟩

theorem currentJob_eq_none_iff : monitor.currentJob = none ↔ monitor.scopes = [] := by
  simp [currentJob]

variable [Amount α]

/-- The loop that closes all jobs, which would have returned `worked` so far. The clock goes on
with every turn. -/
inductive ClosesAll : Clock → Nat → Monitor α → List Emission → Nat → Monitor α → Prop
  | finished {monitor : Monitor α} (clock worked) :
      monitor.currentJob = none → ClosesAll clock worked monitor [] worked monitor
  | turn {clock : Clock} {monitor final : Monitor α} {name sent units} (worked) {returned} :
      monitor.currentJob = some name →
      (monitor.closeJob clock.now name false).result = .ok units →
      ClosesAll clock.next units (monitor.closeJob clock.now name false).monitor sent returned
        final →
      ClosesAll clock worked monitor ((monitor.closeJob clock.now name false).emitted ++ sent)
        returned final

theorem closeInnermost_closesAll (monitor : Monitor α) (clock : Clock) (worked : Nat) :
    let closed := monitor.closeInnermost clock worked monitor.depth
    ∃ returned, closed.result = .ok returned ∧
      ClosesAll clock worked monitor closed.emitted returned closed.monitor := by
  generalize deep : monitor.depth = count
  induction count generalizing monitor clock worked with
  | zero =>
      have idle : monitor.scopes = [] := List.length_eq_zero_iff.mp deep
      exact ⟨worked, rfl, .finished clock worked (currentJob_eq_none_iff.mpr idle)⟩
  | succ count induction =>
      have opened : 0 < monitor.depth := by omega
      rcases List.exists_cons_of_length_pos opened with ⟨scope, outer, stack⟩
      have current : monitor.currentJob = some scope.name := by simp [currentJob, stack]
      rcases closeJob_accepts opened clock.now scope.name false with ⟨units, accepted⟩
      have fewer : (monitor.closeJob clock.now scope.name false).monitor.depth = count := by
        rw [closeJob_depth, deep, Nat.add_sub_cancel]
      rcases induction _ clock.next units fewer with ⟨returned, result, closes⟩
      rw [closeInnermost, current]
      simp only [accepted]
      exact ⟨returned, result, .turn worked current accepted closes⟩

omit [Amount α] in
/-- Counting what is pending leaves nothing pending, so counting again changes nothing. -/
theorem getLast?_settleParent (scopes : List (Scope α)) :
    (settleParent scopes).getLast?.map (·.settle.workDone) =
      scopes.getLast?.map (·.settle.workDone) := by
  cases scopes with
  | nil => rfl
  | cons parent outer =>
      cases outer with
      | nil =>
          simp [settleParent, Scope.settle, Scope.account, Scope.takePending,
            Units.saturatingAdd]
      | cons next outer => rfl

namespace ClosesAll

theorem of_idle (closes : ClosesAll clock worked monitor sent units final)
    (idle : monitor.scopes = []) : sent = [] ∧ final = monitor := by
  cases closes with
  | finished _ _ _ => exact ⟨rfl, rfl⟩
  | turn _ current _ _ =>
      rw [currentJob_eq_none_iff.mpr idle] at current
      cases current

theorem scopes_eq (closes : ClosesAll clock worked monitor sent units final) :
    final.scopes = [] := by
  induction closes with
  | finished _ _ none => exact currentJob_eq_none_iff.mp none
  | turn _ _ _ _ induction => exact induction

theorem returns (closes : ClosesAll clock worked monitor sent units final) :
    units = (monitor.scopes.getLast?.map (·.settle.workDone)).getD worked := by
  induction closes with
  | finished _ worked none =>
      rw [currentJob_eq_none_iff.mp none]
      rfl
  | @turn clock monitor _ name _ units worked _ current accepted _ induction =>
      rcases currentJob_eq_some current with ⟨scope, outer, stack⟩
      have closing := closeJob_of_open stack clock.now name false
      rw [closing] at accepted
      cases accepted
      rw [induction, closing]
      dsimp only
      rw [getLast?_settleParent, stack]
      cases outer with
      | nil => rfl
      | cons parent outer =>
          rw [List.getLast?_cons_cons, List.getLast?_cons]
          rfl

theorem calls (closes : ClosesAll clock worked monitor sent units final)
    (opened : 0 < monitor.depth) (named : monitor.topName = some top) :
    ClosingCalls top monitor.depth (Emission.sinkCalls sent) := by
  induction closes with
  | finished _ _ none =>
      rw [depth, currentJob_eq_none_iff.mp none] at opened
      exact absurd opened (Nat.lt_irrefl 0)
  | @turn clock monitor _ name sent _ _ _ current _ rest induction =>
      rcases currentJob_eq_some current with ⟨scope, outer, stack⟩
      have fewer := monitor.closeJob_depth clock.now name false
      have deep : monitor.depth = outer.length + 1 := congrArg List.length stack
      have shown := showTopName_eq named
      rw [Emission.sinkCalls_append, deep]
      cases outer with
      | nil =>
          have idle : (monitor.closeJob clock.now name false).monitor.scopes = [] :=
            List.length_eq_zero_iff.mp (fewer.trans (by rw [deep]; rfl))
          rcases closeJob_calls_root stack clock.now name false with ⟨reports, few, calls⟩
          rw [(rest.of_idle idle).1, calls, shown, Emission.sinkCalls_nil, List.append_nil]
          exact .outermost few
      | cons parent outer =>
          have stillOpen :
              (monitor.closeJob clock.now name false).monitor.depth = outer.length + 1 :=
            fewer.trans (by rw [deep]; rfl)
          have sameName : (monitor.closeJob clock.now name false).monitor.topName = some top := by
            rw [closeJob_of_open stack]
            exact named
          rcases closeJob_calls_nested stack clock.now name false with ⟨reports, few, calls⟩
          have heard := induction (by omega) sameName
          rw [stillOpen] at heard
          rw [calls, shown]
          exact .nested few heard

end ClosesAll

end Monitor

namespace Session

variable {σ ω α : Type} [ProgressSink σ] [WarningSink ω] [Amount α]

/-- At every moment of a run the loop that closes all jobs ends, no call in it fails, and no
job is open afterwards. It returns the units of the outermost job, with those that were
pending before the loop, as far as a count goes. The task is done, once, and all of it is
reported then. With each job closed the top name is shown, which is the last that the
sink is told. Where no job is open nothing happens. -/
theorem closing_all_unwinds (config : Config) (sink : σ) (warnings : ω) (clock : Clock)
    (script : List (Script σ)) {earlier later : List (Moment σ ω α)}
    (moments :
      Report.momentsOf ((ofConfig config sink warnings clock : Session σ ω α).runAll script).1 =
        earlier ++ later) :
    let reached := (ofConfig config sink warnings clock : Session σ ω α).upTo earlier
    let monitor := reached.session.monitor
    let closed := reached.session.perform .closeAll
    let told := Emission.sinkCalls closed.last.emitted
    let units := (monitor.scopes.getLast?.map fun outermost =>
      min (outermost.workDone + outermost.pending) maxUnits).getD 0
    (∃ sent, Monitor.ClosesAll reached.session.clock 0 monitor sent units
        closed.last.session.monitor ∧
      Emission.sinkCalls sent = told) ∧
    closed.result = .ok (.units units) ∧
    closed.last.session.monitor.isIdle = true ∧
    (monitor.depth = 0 → closed.last = ⟨[], reached.session⟩) ∧
    (0 < monitor.depth →
      (∃ before name total during,
        Emission.sinkCalls reached.emitted = before ++ .beginTask name total :: during ∧
        .done ∉ during ∧ (∀ other declared, .beginTask other declared ∉ during) ∧
        totalWorked (during ++ told) = total) ∧
      told.count .done = 1 ∧
      ∃ top, monitor.topName = some top ∧
        told.filterMap shownName? = List.replicate monitor.depth top ∧
        told.getLast? = some (.taskName top)) := by
  intro reached monitor closed told units
  rcases monitor.closeInnermost_closesAll reached.session.clock 0 with ⟨returned, result, closes⟩
  have same : closed.last.session.monitor = (monitor.closeAll reached.session.clock).monitor :=
    reached.session.perform_monitor .closeAll
  have heard : told = Emission.sinkCalls (monitor.closeAll reached.session.clock).emitted :=
    reached.session.perform_calls .closeAll
  have closes : Monitor.ClosesAll reached.session.clock 0 monitor
      (monitor.closeAll reached.session.clock).emitted returned closed.last.session.monitor :=
    same ▸ closes
  have counted : returned = units := closes.returns
  rw [← counted]
  have idle : closed.last.session.monitor.isIdle = true := by
    rw [Monitor.isIdle, closes.scopes_eq]
    rfl
  refine ⟨⟨_, closes, heard.symm⟩, ?_, idle, fun deep => ?_, fun opened => ?_⟩
  · exact (reached.session.perform_result .closeAll).trans
      (congrArg (fun result => (result.map Reply.units).mapError Failure.call) result)
  · rcases closes.of_idle (List.length_eq_zero_iff.mp deep) with ⟨silent, still⟩
    have last : closed.last = reached.session.settle (monitor.closeAll reached.session.clock) := rfl
    rw [last, settle, silent, ← same, still, Nat.sub_self]
    rfl
  · have sends := upTo_sends moments
    rcases sends.traced with ⟨emitted, trace, _⟩
    rcases trace.hasTold (.ofConfig config) with ⟨chronicle, hasTold⟩
    have named := hasTold.topName_of_open opened
    have closing : ClosingCalls chronicle.top monitor.depth told :=
      heard ▸ closes.calls opened named
    refine ⟨?_, closing.count_done, chronicle.top, named, closing.names, closing.getLast?⟩
    have told := sends.transitions ShownTask.blank_sound
    have sound := told.sound ShownTask.blank_sound
    have busy : monitor.isIdle = false := by
      rcases List.exists_cons_of_length_pos opened with ⟨scope, outer, stack⟩
      rw [Monitor.isIdle, stack]
      rfl
    exact told.completes ((reached.session.perform_sends .closeAll).transitions sound)
      ShownTask.blank_sound rfl (congrArg not busy) (congrArg not idle) closing.not_begun

/-- The innermost of three jobs has a step pending, the one around it has outrun its work, and
the outermost has promised a share of four. -/
theorem closing_all_unwinds_of_overrun :
    let script : List (Script NullSink) :=
      [.call (.openJob "build" 1 10), .call (.step "prepare" "" 3), .call (.step "make" "" 1),
        .call (.openJob "compile" 4 2), .call (.step "parse" "" 2), .call (.step "check" "" 5),
        .call (.openJob "link" 1 6), .call (.step "read" "" 2)]
    let clock : Clock := ⟨.zero, ⟨99⟩, [⟨4⟩, ⟨2⟩]⟩
    let reached := (ofConfig .default ⟨⟩ ⟨⟩ clock : Session NullSink IgnoredWarnings Rat).upTo
      (Report.momentsOf
        ((ofConfig .default ⟨⟩ ⟨⟩ clock : Session NullSink IgnoredWarnings Rat).runAll script).1)
    let monitor := reached.session.monitor
    let closed := reached.session.perform .closeAll
    let told := Emission.sinkCalls closed.last.emitted
    monitor.depth = 3 ∧
      closed.result = .ok (.units 7) ∧
      told.count .done = 1 ∧
      (∃ top, monitor.topName = some top ∧ told.filterMap shownName? = [top, top, top]) ∧
      ∃ before name total during,
        Emission.sinkCalls reached.emitted = before ++ .beginTask name total :: during ∧
          .done ∉ during ∧ (∀ other declared, .beginTask other declared ∉ during) ∧
          totalWorked (during ++ told) = total := by
  intro script clock reached monitor closed told
  have deep : monitor.depth = 3 := by decide +kernel +zetaReduce
  have unwinds := closing_all_unwinds (α := Rat) .default (⟨⟩ : NullSink) (⟨⟩ : IgnoredWarnings)
    clock script (List.append_nil _).symm
  extract_lets units at unwinds
  have counted : units = 7 := by decide +kernel +zetaReduce
  rcases unwinds with ⟨_, result, _, _, busy⟩
  rcases busy (Nat.lt_of_lt_of_eq (by decide) deep.symm) with
    ⟨complete, finished, top, named, names, _⟩
  rw [counted] at result
  rw [deep] at names
  exact ⟨deep, result, finished, ⟨top, named, names⟩, complete⟩

end Session

end JobProgress
