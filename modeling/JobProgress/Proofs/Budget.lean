import JobProgress.Proofs.SessionTrace
import JobProgress.Proofs.ShownTask

/-! A monitor never tells its sink of more work than the task was declared
with, and when it is done with a task it has told of all of it. None of this
rests on the arithmetic of slices: whatever amounts come up, `Ticks` sends whole
units, as many as remain at most, and sends the rest at the end. So whatever it
states to remain really does. -/

namespace JobProgress

namespace Ticks

variable {α : Type}

def shown (ticks : Ticks α) : ShownTask := ⟨ticks.total, ticks.reported, true⟩

theorem shown_sound {ticks : Ticks α} (within : ticks.reported ≤ ticks.total) :
    ticks.shown.Sound := ⟨within, fun closed => Bool.noConfusion closed⟩

theorem shown_transitions {ticks : Ticks α} {units : Nat} (fits : units ≤ ticks.remaining)
    (within : ticks.reported ≤ ticks.total) :
    ticks.shown.Transitions (SinkCall.report units)
      ⟨ticks.total, ticks.reported + units, true⟩ := by
  cases units with
  | zero => exact .nil _
  | succ units =>
      have allowed : ticks.shown.Allows (.worked (units + 1)) := by
        refine ⟨rfl, Nat.succ_pos units, ?_⟩
        simp only [remaining, shown] at fits ⊢
        omega
      exact .one allowed

variable [Amount α]

theorem report_sends (ticks : Ticks α) (amount : α) :
    ∃ units ≤ ticks.remaining,
      (ticks.report amount).1.reported = ticks.reported + units ∧
        (ticks.report amount).2 = SinkCall.report units := by
  simp only [report]
  split
  · exact ⟨0, Nat.zero_le _, rfl, rfl⟩
  · split
    · exact ⟨0, Nat.zero_le _, rfl, rfl⟩
    · exact ⟨_, Nat.min_le_right _ _, rfl, rfl⟩

theorem report_transitions {ticks : Ticks α} (amount : α)
    (within : ticks.reported ≤ ticks.total) :
    ticks.shown.Transitions (ticks.report amount).2 (ticks.report amount).1.shown := by
  rcases ticks.report_sends amount with ⟨units, fits, reported, sent⟩
  have counted : (ticks.report amount).1.shown = ⟨ticks.total, ticks.reported + units, true⟩ := by
    simp only [shown, report_total, reported]
  rw [sent, counted]
  exact shown_transitions fits within

theorem finish_transitions {ticks : Ticks α} (within : ticks.reported ≤ ticks.total) :
    ticks.shown.Transitions ticks.finish.2 ticks.finish.1.shown :=
  shown_transitions (Nat.le_refl _) within

theorem finish_reported {ticks : Ticks α} (within : ticks.reported ≤ ticks.total) :
    ticks.finish.1.reported = ticks.finish.1.total :=
  Nat.add_sub_cancel' within

end Ticks

namespace Monitor

variable {α : Type}

def shownTask (monitor : Monitor α) : ShownTask :=
  { monitor.ticks.shown with isOpen := !monitor.isIdle }

theorem shownTask_of_open {monitor : Monitor α} {scope : Scope α} {outer : List (Scope α)}
    (stack : monitor.scopes = scope :: outer) : monitor.shownTask = monitor.ticks.shown := by
  simp [shownTask, isIdle, stack, Ticks.shown]

theorem resync_transitions {monitor : Monitor α} {ticks : Ticks α}
    (counting : monitor.ticks = ticks) (exhausted : Bool)
    (within : ticks.reported ≤ ticks.total) :
    ticks.shown.Transitions (monitor.resync exhausted) ticks.shown := by
  subst counting
  cases exhausted with
  | false => exact .nil _
  | true => exact .one ⟨rfl, Nat.add_sub_cancel' within⟩

theorem showTopName_transitions (monitor : Monitor α) (task : ShownTask) :
    task.Transitions monitor.showTopName task := by
  cases named : monitor.topName with
  | none =>
      simp only [showTopName, named]
      exact .nil task
  | some name =>
      simp only [showTopName, named]
      exact .one trivial

variable [Amount α]

theorem finishTask_transitions {ticks : Ticks α} (within : ticks.reported ≤ ticks.total)
    (outer : List (Scope α)) :
    ticks.shown.Transitions (finishTask ticks outer).2
      { (finishTask ticks outer).1.shown with isOpen := !(settleParent outer).isEmpty } := by
  cases outer with
  | nil =>
      exact (Ticks.finish_transitions within).append
        (.one ⟨rfl, Ticks.finish_reported within⟩)
  | cons parent outer => exact .nil _

/-- Whatever is done to a monitor, the calls sent out are in order, and what
the sink shows then is what the monitor counts. -/
theorem Move.transitions {monitor next : Monitor α} {sent : List Emission}
    (move : Move monitor sent next) (sound : monitor.shownTask.Sound) :
    monitor.shownTask.Transitions (Emission.sinkCalls sent) next.shownTask := by
  have within : monitor.ticks.reported ≤ monitor.ticks.total := sound.within
  cases move with
  | openRoot now name totalWork idle =>
      have closed : monitor.shownTask.isOpen = false := by simp [shownTask, isIdle, idle]
      simp only [Monitor.openRoot, Emission.sinkCalls_append, Emission.sinkCalls_ofCalls,
        Emission.sinkCalls_ofJobEvent, List.append_nil]
      exact .cons trivial (.cons closed (.nil _))
  | openNested now name granted totalWork stack _ =>
      rw [shownTask_of_open stack]
      simp only [Monitor.openNested, Emission.sinkCalls_append, Emission.sinkCalls_ofCalls,
        Emission.sinkCalls_ofJobEvent, List.append_nil]
      exact (resync_transitions rfl _ within).append (.cons trivial (.nil _))
  | @step scope outer name detail share stack =>
      have reporting := Ticks.report_transitions (scope.view.advance scope.pending).2 within
      have advanced := (reporting.sound (Ticks.shown_sound within)).within
      rw [shownTask_of_open stack, step_of_open stack]
      simp only [Emission.sinkCalls_append, Emission.sinkCalls_ofCalls,
        Emission.sinkCalls_ofJobEvent, List.append_nil]
      refine (reporting.append (resync_transitions ?_ _ advanced)).append (.cons ?_ (.nil _))
      · rfl
      · rfl
  | reestimate name work stack =>
      rw [shownTask_of_open stack, reestimate_of_open stack]
      simp only [Emission.sinkCalls_append, Emission.sinkCalls_ofCalls,
        Emission.sinkCalls_ofJobEvent, List.append_nil]
      exact resync_transitions rfl true within
  | @closeJob scope outer now name succeeded stack =>
      have reporting := Ticks.report_transitions scope.view.finish.2 within
      have filled := (reporting.sound (Ticks.shown_sound within)).within
      rw [shownTask_of_open stack, closeJob_of_open stack]
      simp only [Emission.sinkCalls_append, Emission.sinkCalls_ofCalls,
        Emission.sinkCalls_ofJobEvent, List.append_nil]
      exact (reporting.append (finishTask_transitions filled outer)).append
        (showTopName_transitions monitor _)
  | checkCanceled now name answer =>
      simp only [Monitor.checkCanceled]
      split <;> exact .nil _
  | logged event => exact .nil _

theorem Trace.transitions {first last : Monitor α} {sent : List Emission}
    (trace : Trace first sent last) (sound : first.shownTask.Sound) :
    first.shownTask.Transitions (Emission.sinkCalls sent) last.shownTask := by
  induction trace with
  | nil => exact .nil _
  | snoc _ move induction =>
      rw [Emission.sinkCalls_append]
      exact induction.append (move.transitions (induction.sound sound))

theorem Reachable.shownTask_sound {monitor : Monitor α} (reachable : monitor.Reachable) :
    monitor.shownTask.Sound :=
  reachable.induct (motive := fun monitor => monitor.shownTask.Sound)
    (fun _ => ShownTask.blank_sound)
    (fun move sound => (move.transitions sound).sound sound)

end Monitor

namespace Session

theorem Sends.transitions {σ ω α : Type} [Amount α] {session next : Session σ ω α}
    {emitted : List Emission} (sends : Sends session emitted next)
    (sound : session.monitor.shownTask.Sound) :
    session.monitor.shownTask.Transitions (Emission.sinkCalls emitted)
      next.monitor.shownTask := by
  rcases sends.traced with ⟨sent, trace, calls⟩
  rw [← calls]
  exact trace.transitions sound

variable {σ ω α : Type} [ProgressSink σ] [WarningSink ω] [Amount α]

theorem runAll_transitions (config : Config) (sink : σ) (warnings : ω) (clock : Clock)
    (script : List (Script σ)) :
    let run := (ofConfig config sink warnings clock : Session σ ω α).runAll script
    ShownTask.blank.Transitions (Emission.sinkCalls (Report.emittedBy run.1))
      run.2.monitor.shownTask := by
  have sends := (ofConfig config sink warnings clock : Session σ ω α).runBody_sends false script
  exact sends.transitions ShownTask.blank_sound

/-- Between the beginning of a task and its end every report carries a unit,
the units reported never go beyond the total the task began with, and they make
up all of it when the task is done. It is done before another begins. -/
theorem reported_within_total (config : Config) (sink : σ) (warnings : ω) (clock : Clock)
    (script : List (Script σ)) {before during after : List SinkCall} {name : String}
    {total : Nat}
    (calls :
      Emission.sinkCalls (Report.emittedBy
        ((ofConfig config sink warnings clock : Session σ ω α).runAll script).1) =
      before ++ .beginTask name total :: (during ++ after))
    (ongoing : .done ∉ during) :
    (∀ units, .worked units ∈ during → 1 ≤ units) ∧
      SinkCall.totalWorked during ≤ total ∧
      (after.head? = some .done → SinkCall.totalWorked during = total) ∧
      ∀ other declared, .beginTask other declared ∉ during := by
  have transitions := runAll_transitions (α := α) config sink warnings clock script
  dsimp only at transitions
  rw [calls] at transitions
  rcases transitions.split with ⟨idle, earlier, rest⟩
  cases rest with
  | cons begins rest =>
      rcases rest.split with ⟨reached, middle, later⟩
      have started : (idle.after (.beginTask name total)).Sound :=
        (earlier.sound ShownTask.blank_sound).after begins
      have sound := middle.sound started
      rcases middle.of_not_done rfl ongoing with ⟨_, sameTotal, sum⟩
      have reachedTotal : reached.total = total := sameTotal
      have reachedWorked : reached.worked = SinkCall.totalWorked during := by
        simpa [ShownTask.after] using sum
      refine ⟨fun units member => middle.one_le_of_mem member, ?_, ?_,
        middle.not_mem_beginTask rfl ongoing⟩
      · rw [← reachedWorked, ← reachedTotal]
        exact sound.within
      · intro finished
        rcases List.head?_eq_some_iff.mp finished with ⟨rest, rfl⟩
        cases later with
        | cons complete _ => rw [← reachedWorked, ← reachedTotal, complete.2]

/-- A nested job takes three tenths of a task and does its work in sevenths. -/
theorem reported_within_total_of_nested_job :
    let script : List (Script NullSink) :=
      [.call (.openJob "build" 1 10),
        .job "compile" 3 7 [.call (.step "parse" "" 5), .call (.step "check" "" 9)] ⟨false, none⟩,
        .call (.closeJob "build" true)]
    let clock : Clock := .frozen .zero .zero
    let run := (ofConfig .default ⟨⟩ ⟨⟩ clock : Session NullSink IgnoredWarnings Rat).runAll script
    let during : List SinkCall :=
      [.taskName "compile", .subTask "parse", .worked 2, .subTask "check", .worked 1,
        .taskName "build", .worked 7]
    Emission.sinkCalls (Report.emittedBy run.1) =
        [.taskName "build"] ++ .beginTask "build" 10 :: (during ++ [.done, .taskName "build"]) ∧
      .done ∉ during ∧ SinkCall.totalWorked during = 10 := by
  intro script clock run during
  have calls :
      Emission.sinkCalls (Report.emittedBy run.1) =
        [.taskName "build"] ++ .beginTask "build" 10 ::
          (during ++ [.done, .taskName "build"]) := by
    decide +kernel +zetaReduce
  have ongoing : .done ∉ during := by decide +zetaReduce
  have within := reported_within_total .default _ _ _ script calls ongoing
  exact ⟨calls, ongoing, within.2.2.1 rfl⟩

/-- Whatever is stated to remain of a task is what it began with, less all that was
reported since. The task is the latest one, and it is not done. -/
theorem stated_remaining_is_left (config : Config) (sink : σ) (warnings : ω) (clock : Clock)
    (script : List (Script σ)) {earlier later : List SinkCall} {remaining : Nat}
    (calls :
      Emission.sinkCalls (Report.emittedBy
        ((ofConfig config sink warnings clock : Session σ ω α).runAll script).1) =
      earlier ++ .workRemaining remaining :: later) :
    ∃ before name total during, earlier = before ++ .beginTask name total :: during ∧
      .done ∉ during ∧ (∀ other declared, .beginTask other declared ∉ during) ∧
      SinkCall.totalWorked during + remaining = total := by
  have transitions := runAll_transitions (α := α) config sink warnings clock script
  dsimp only at transitions
  rw [calls] at transitions
  rcases transitions.split with ⟨task, heard, rest⟩
  cases rest with
  | cons truthful _ =>
      rcases truthful with ⟨opened, left⟩
      rcases heard.exists_beginTask rfl opened with
        ⟨before, name, during, begun, ongoing, latest, reported⟩
      refine ⟨before, name, task.total, during, begun, ongoing, latest, ?_⟩
      rw [reported]
      exact left

/-- In the second task a nested job outruns its work, which tells what remains after
the report of the same step. -/
theorem stated_remaining_is_left_of_overrun :
    let script : List (Script NullSink) :=
      [.call (.openJob "build" 1 3), .call (.closeJob "build" true),
        .call (.openJob "deploy" 1 8), .call (.openJob "copy" 4 2),
        .call (.step "read" "" 2), .call (.step "write" "" 1), .call (.step "sync" "" 1)]
    let clock : Clock := .frozen .zero .zero
    let run := (ofConfig .default ⟨⟩ ⟨⟩ clock : Session NullSink IgnoredWarnings Rat).runAll script
    let earlier : List SinkCall :=
      [.taskName "build", .beginTask "build" 3, .worked 3, .done, .taskName "build",
        .taskName "deploy", .beginTask "deploy" 8, .taskName "copy", .subTask "read",
        .worked 4, .subTask "write"]
    Emission.sinkCalls (Report.emittedBy run.1) =
        earlier ++ .workRemaining 4 :: [.subTask "sync"] ∧
      ∃ before name total during, earlier = before ++ .beginTask name total :: during ∧
        .done ∉ during ∧ (∀ other declared, .beginTask other declared ∉ during) ∧
        SinkCall.totalWorked during + 4 = total := by
  intro script clock run earlier
  have calls :
      Emission.sinkCalls (Report.emittedBy run.1) =
        earlier ++ .workRemaining 4 :: [.subTask "sync"] := by
    decide +kernel +zetaReduce
  exact ⟨calls, stated_remaining_is_left .default _ _ _ script calls⟩

end Session

end JobProgress
