import JobProgress.Proofs.Closing
import JobProgress.Proofs.Course
import JobProgress.Proofs.Exact.Conservation
import JobProgress.Proofs.WorkLeft

/-! A job that has outrun its work is estimated anew, so that there is something to spread
over the steps still to come. In exact arithmetic there is not: all scale units together are
worth the whole slice, so what took the last of the work took the last of the slice with it,
before the new estimate. A task is kept from being shown as complete by what the jobs around
have left, and by slices that were never spread over work: those of jobs declared without any,
or estimated at none. -/

namespace JobProgress

namespace View

theorem Sound.slack_eq_zero {view : View Rat} (sound : view.Sound) (scaled : view.scale ≠ 0)
    (none : view.available = 0) : view.slack = 0 := by
  have used : view.used = view.scale :=
    Nat.le_antisymm sound.used_le (Nat.le_of_sub_eq_zero none)
  rw [slack, sound.consumed_eq scaled, used, position_scale scaled, sub_self]

end View

namespace Scope

variable {scope : Scope Rat} {promised overrunWork : Nat}

/-- The slice of a job runs out with its work: it is spread over a scale as long as there is
work left, and none of it is left once there is not. A job that was declared without work still
has its slice then. -/
structure RunsOut (scope : Scope Rat) (promised : Nat) : Prop extends scope.Tallies promised where
  sound : scope.view.Sound
  scale_ne_zero : scope.workRemaining ≠ 0 → scope.view.scale ≠ 0
  usedUp : scope.workRemaining = 0 → scope.totalWork ≠ 0 → scope.view.slack = 0

namespace RunsOut

theorem ofView {view : View Rat} (sound : view.Sound) (name : String) (totalWork : UInt32)
    (now : Instant) : (Scope.ofView name view totalWork.toNat now).RunsOut 0 where
  toTallies := .ofView name view totalWork now
  sound := sound.rescale (toNat_le_maxUnits totalWork)
  scale_ne_zero := id
  usedUp := fun none declared => absurd none declared

theorem step (runsOut : scope.RunsOut 0) (fits : overrunWork ≤ maxWork) (next : Nat) :
    (scope.stepped overrunWork next).RunsOut 0 := by
  have fitting : overrunWork ≤ maxUnits := Nat.le_trans fits maxWork_le_maxUnits
  have sound := stepped_sound runsOut.sound fitting next
  refine ⟨runsOut.toTallies.step fits next, sound, ?_, ?_⟩
  · intro afterwards
    have left : scope.workRemaining ≠ 0 := by
      intro none
      simp [stepped, none] at afterwards
    simpa [stepped, isExhausted_eq_false left] using runsOut.scale_ne_zero left
  · intro none declared
    by_cases exhausted : scope.workRemaining = 0
    · have before := runsOut.usedUp exhausted declared
      have moved := stepped_slack runsOut.sound overrunWork next
      have advanced := runsOut.sound.advance_nonneg scope.pending
      exact le_antisymm (by linarith) sound.slack_nonneg
    · -- The pending share is all that was left, so all of the slice gets used.
      have view : (scope.stepped overrunWork next).view = (scope.view.advance scope.pending).1 := by
        simp [stepped, isExhausted_eq_false exhausted]
      have used : (scope.view.advance scope.pending).1.available = 0 := by
        rw [runsOut.scaled.available_advance, runsOut.available_eq exhausted]
        exact none
      rw [view]
      refine (runsOut.sound.advance scope.pending).slack_eq_zero ?_ used
      rw [View.advance_scale]
      exact runsOut.scale_ne_zero exhausted

theorem nested (runsOut : scope.RunsOut 0) (fits : overrunWork ≤ maxWork)
    {granted : GrantedShare}
    (limited : granted.share = min granted.requested (scope.shareLimit overrunWork)) :
    (scope.carved overrunWork granted).RunsOut granted.requested := by
  have fitting : overrunWork ≤ maxUnits := Nat.le_trans fits maxWork_le_maxUnits
  have extended := extendView_sound runsOut.sound fitting
  have sound : (scope.carved overrunWork granted).view.Sound := extended.advance granted.share
  refine ⟨runsOut.toTallies.nested fits limited, sound, ?_, ?_⟩
  · intro left
    change scope.workRemaining ≠ 0 at left
    simpa [carved, View.carve, extendView_of_left left] using runsOut.scale_ne_zero left
  · intro exhausted declared
    have before := runsOut.usedUp exhausted declared
    have moved := carved_slack runsOut.sound fitting granted
    have slice := (extended.carve granted.share).slack_nonneg
    exact le_antisymm (by linarith) sound.slack_nonneg

theorem reestimate (sound : scope.view.Sound) {work : UInt32} (some : work ≠ 0) :
    RunsOut { scope with view := scope.view.rescale work.toNat, workRemaining := work.toNat }
      0 where
  toTallies := .reestimate scope work
  sound := sound.rescale (toNat_le_maxUnits work)
  scale_ne_zero := id
  usedUp := fun none => absurd (UInt32.toNat_inj.mp none) some

theorem settle (runsOut : scope.RunsOut scope.pending) : scope.settle.RunsOut 0 where
  toTallies := runsOut.toTallies.settle
  sound := runsOut.sound
  scale_ne_zero := by
    intro left
    change scope.workRemaining - scope.pending ≠ 0 at left
    exact runsOut.scale_ne_zero (by omega)
  usedUp := by
    intro none declared
    change scope.workRemaining - scope.pending = 0 at none
    change scope.view.slack = 0
    by_cases exhausted : scope.workRemaining = 0
    · exact runsOut.usedUp exhausted declared
    · exact runsOut.sound.slack_eq_zero (runsOut.scale_ne_zero exhausted)
        ((runsOut.available_eq exhausted).trans none)

end RunsOut

end Scope

namespace Monitor

variable {monitor final : Monitor Rat} {scope : Scope Rat} {scopes outer : List (Scope Rat)}
  {sent : List Emission}

def AllRunOut : List (Scope Rat) → Prop
  | [] => True
  | scope :: outer => scope.RunsOut 0 ∧ ∀ around ∈ outer, around.RunsOut around.pending

namespace AllRunOut

theorem of_cons (runOut : AllRunOut scopes) (stack : scopes = scope :: outer) :
    scope.RunsOut 0 ∧ ∀ around ∈ outer, around.RunsOut around.pending := by
  subst stack
  exact runOut

theorem settleParent (around : ∀ scope ∈ outer, scope.RunsOut scope.pending) :
    AllRunOut (settleParent outer) := by
  cases outer with
  | nil => trivial
  | cons parent outer =>
      rcases List.forall_mem_cons.mp around with ⟨parentRunsOut, others⟩
      exact ⟨parentRunsOut.settle, others⟩

end AllRunOut

theorem Closing.allRunOut (closing : Closing monitor sent final)
    (runOut : AllRunOut monitor.scopes) : AllRunOut final.scopes := by
  induction closing with
  | nil => exact runOut
  | logged _ _ induction => exact induction runOut
  | closeJob now name succeeded stack _ induction =>
      apply induction
      rw [closeJob_of_open stack]
      exact .settleParent (runOut.of_cons stack).2

/-- Only an estimate at no work can leave a job without work and with a part of its slice. -/
theorem Performs.allRunOut {reading : Reading} {call : Call} {accepted : Bool}
    (performs : monitor.Performs reading call accepted sent final)
    (estimated : ∀ name, call ≠ .reestimate name 0) (runOut : AllRunOut monitor.scopes) :
    AllRunOut final.scopes := by
  have fits : monitor.overrunWork ≤ maxWork := toNat_le_maxWork monitor.config.overrunWork
  cases performs with
  | refused _ | checkCanceled _ _ => exact runOut
  | openRoot name share totalWork idle =>
      refine ⟨.ofView ?_ name totalWork reading.now, fun around member => nomatch member⟩
      exact View.root_sound (toNat_le_maxUnits totalWork)
  | openNested name share totalWork granted logged stack limited _ =>
      rcases runOut.of_cons stack with ⟨parent, around⟩
      have fitting : monitor.overrunWork ≤ maxUnits := Nat.le_trans fits maxWork_le_maxUnits
      have slice := (Scope.extendView_sound parent.sound fitting).carve granted.share
      refine ⟨.ofView slice name totalWork reading.now, ?_⟩
      exact List.forall_mem_cons.mpr ⟨parent.nested fits limited, around⟩
  | step name detail share stack =>
      rcases runOut.of_cons stack with ⟨current, around⟩
      rw [step_of_open stack]
      exact ⟨current.step fits share.toNat, around⟩
  | reestimate name work stack =>
      rcases runOut.of_cons stack with ⟨current, around⟩
      have some : work ≠ 0 := fun none => estimated name (none ▸ rfl)
      rw [reestimate_of_open stack]
      exact ⟨.reestimate current.sound some, around⟩
  | closeJob _ _ closing | closeAll closing => exact closing.allRunOut runOut

theorem step_reported (sound : scope.view.Sound) (stack : monitor.scopes = scope :: outer)
    (usedUp : scope.view.slack = 0) (name detail : String) (share : UInt32) :
    (monitor.step name detail share).monitor.ticks.reported = monitor.ticks.reported := by
  have nothing : (scope.view.advance scope.pending).2 = 0 := by
    have within := sound.advance_le_slack scope.pending
    rw [usedUp] at within
    exact le_antisymm within (sound.advance_nonneg scope.pending)
  rw [step_of_open stack]
  simp [nothing, Ticks.report]

theorem slack_pos_iff (sound : ∀ scope ∈ scopes, scope.view.Sound) :
    0 < slack scopes ↔ ∃ scope ∈ scopes, 0 < scope.view.slack := by
  induction scopes with
  | nil => simp
  | cons scope outer induction =>
      rcases List.forall_mem_cons.mp sound with ⟨current, others⟩
      have currentNonneg := current.slack_nonneg
      have othersNonneg := slack_nonneg others
      rw [slack_cons, List.exists_mem_cons_iff, ← induction others]
      constructor
      · intro positive
        by_contra nothing
        rw [not_or, not_lt, not_lt] at nothing
        linarith
      · rintro (positive | positive) <;> linarith

theorem Reachable.reported_lt_iff (reachable : monitor.Reachable) :
    monitor.ticks.reported < monitor.ticks.total ↔
      ∃ scope ∈ monitor.scopes, 0 < scope.view.slack := by
  have balanced := reachable.balanced
  have balance := balanced.balance
  have collected : 0 ≤ monitor.ticks.collected :=
    add_nonneg (Nat.cast_nonneg _) balanced.ticks.carry_nonneg
  rw [← slack_pos_iff balanced.views, balanced.ticks.reported_eq_floor,
    Nat.floor_lt collected, ← balance]
  exact lt_add_iff_pos_right _

/-- Once the innermost job has used its slice up, only a job around it can have slack. -/
theorem Reachable.reported_lt_iff_around (reachable : monitor.Reachable)
    (stack : monitor.scopes = scope :: outer) (usedUp : scope.view.slack = 0) :
    monitor.ticks.reported < monitor.ticks.total ↔ ∃ around ∈ outer, 0 < around.view.slack := by
  rw [reachable.reported_lt_iff, stack, List.exists_mem_cons_iff, usedUp]
  simp

end Monitor

namespace Session

variable {σ ω : Type} [ProgressSink σ]

theorem Occurs.allRunOut {occurrence : Occurrence σ ω Rat} (occurs : Occurs occurrence)
    (estimated : ∀ name, occurrence.deed ≠ .call (.reestimate name 0))
    (runOut : Monitor.AllRunOut occurrence.before.monitor.scopes) :
    Monitor.AllRunOut occurrence.after.session.monitor.scopes := by
  cases occurs with
  | call session call =>
      rw [perform_monitor]
      refine (session.monitor.perform_performs _ call).allRunOut (fun name nothing => ?_) runOut
      exact estimated name (congrArg Deed.call nothing)
  | conclude session job depth result =>
      rw [conclude_monitor]
      exact (session.monitor.conclude_closing session.clock job depth result.isOk).allRunOut runOut
  | beside _ same _ =>
      rw [same]
      exact runOut

theorem Unfolds.allRunOut {session final : Session σ ω Rat}
    {occurrences : List (Occurrence σ ω Rat)} (unfolds : Unfolds session occurrences final)
    (estimated : ∀ occurrence ∈ occurrences,
      ∀ name, occurrence.deed ≠ .call (.reestimate name 0))
    (runOut : Monitor.AllRunOut session.monitor.scopes) :
    Monitor.AllRunOut final.monitor.scopes := by
  induction unfolds with
  | nil => exact runOut
  | cons occurs _ induction =>
      rcases List.forall_mem_cons.mp estimated with ⟨first, later⟩
      exact induction later (occurs.allRunOut first runOut)

theorem Occurs.step_monitor {occurrence : Occurrence σ ω Rat} (occurs : Occurs occurrence)
    {name detail : String} {share : UInt32}
    (step : occurrence.deed = .call (.step name detail share)) :
    occurrence.after.session.monitor =
      (occurrence.before.monitor.step name detail share).monitor := by
  cases occurs with
  | call session call =>
      cases step
      exact session.perform_monitor (.step name detail share)
  | conclude _ _ _ _ | beside _ _ _ => cases step

/-- After a step in a job that has no work left, the task is shown as incomplete if and only if
an open job has slack. A job that was declared with work has none, unless jobs were estimated
at no work: whatever is expected of it next, the step reports nothing, and the task was shown
as incomplete before if and only if a job around it has slack. So if it is the outermost job,
the task was shown as complete. -/
theorem overrun_shows_slack_only [WarningSink ω] (config : Config) (sink : σ) (warnings : ω)
    (clock : Clock)
    (script : List (Script σ)) {earlier later : List (Occurrence σ ω Rat)}
    {occurrence : Occurrence σ ω Rat} {name detail : String} {share : UInt32}
    {scope : Scope Rat} {outer : List (Scope Rat)}
    (course : (ofConfig config sink warnings clock : Session σ ω Rat).course script =
      earlier ++ occurrence :: later)
    (step : occurrence.deed = .call (.step name detail share))
    (stack : occurrence.before.monitor.scopes = scope :: outer)
    (exhausted : scope.workRemaining = 0) :
    let sent := Emission.sinkCalls occurrence.after.emitted
    ∃ before task total during,
      Emission.sinkCalls (earlier.flatMap (·.after.emitted)) =
        before ++ .beginTask task total :: during ∧
      .done ∉ during ++ sent ∧ (∀ other declared, .beginTask other declared ∉ during ++ sent) ∧
      (SinkCall.totalWorked (during ++ sent) < total ↔
        ∃ job ∈ occurrence.after.session.monitor.scopes, 0 < job.view.slack) ∧
      (scope.totalWork ≠ 0 →
        (∀ other ∈ earlier, ∀ label, other.deed ≠ .call (.reestimate label 0)) →
        SinkCall.totalWorked sent = 0 ∧
          (SinkCall.totalWorked during < total ↔ ∃ around ∈ outer, 0 < around.view.slack) ∧
          (outer = [] → SinkCall.totalWorked during = total)) := by
  intro sent
  have unfolds := (ofConfig config sink warnings clock : Session σ ω Rat).course_unfolds script
  rw [course] at unfolds
  rcases unfolds.split with ⟨middle, passed, rest⟩
  cases rest with
  | cons occurs _ =>
      have reachable := passed.sends.reachable (.ofConfig config)
      have sound := reachable.shownTask_sound
      have heard := passed.sends.transitions ShownTask.blank_sound
      have opened : occurrence.before.monitor.shownTask.isOpen = true := by
        rw [Monitor.shownTask_of_open stack]
        rfl
      rcases heard.exists_beginTask rfl opened with
        ⟨before, task, during, begun, ongoing, latest, reported⟩
      have next := occurs.step_monitor step
      have stillOpen : 0 < occurrence.after.session.monitor.depth := by
        rw [next, Monitor.step_of_open stack]
        exact Nat.succ_pos outer.length
      have goesOn : .done ∉ sent := List.count_eq_zero.mp (occurs.leads.not_done stillOpen)
      have sends := occurs.leads.sends
      have telling := sends.transitions sound
      rcases telling.of_not_done opened goesOn with ⟨_, sameTotal, added⟩
      refine ⟨before, task, _, during, begun, List.not_mem_append ongoing goesOn, ?_, ?_, ?_⟩
      · exact fun other declared => List.not_mem_append (latest other declared)
          (telling.not_mem_beginTask opened goesOn other declared)
      · have worked : SinkCall.totalWorked (during ++ sent) =
            occurrence.after.session.monitor.shownTask.worked := by
          rw [SinkCall.totalWorked_append, reported, added]
        rw [worked, ← sameTotal]
        exact (sends.reachable reachable).reported_lt_iff
      · intro declared estimated
        have runOut := passed.allRunOut estimated trivial
        have current := (runOut.of_cons stack).1
        have usedUp := current.usedUp exhausted declared
        -- The pending work is worth nothing, and so is what the job is expected to do next.
        have nothing : SinkCall.totalWorked sent = 0 := by
          have same := Monitor.step_reported current.sound stack usedUp name detail share
          rw [← next] at same
          exact Nat.left_eq_add.mp (same.symm.trans added)
        have shown := reachable.reported_lt_iff_around stack usedUp
        refine ⟨nothing, reported ▸ shown, fun outermost => ?_⟩
        subst outermost
        have whole := mt shown.mp (by simp)
        exact reported.trans (Nat.le_antisymm sound.within (Nat.le_of_not_lt whole))

/-- A job inside another has announced a step beyond its work. It took one third of the task,
and the job around it has two thirds left. -/
theorem overrun_shows_slack_only_of_nested_job :
    let clock : Clock := .frozen .zero .zero
    let start : Session NullSink IgnoredWarnings Rat :=
      ofConfig { Config.default with overrunWork := 4 } ⟨⟩ ⟨⟩ clock
    let script : List (Script NullSink) :=
      [.call (.openJob "build" 1 3),
        .job "copy" 1 2
          [.call (.step "read" "" 1), .call (.step "write" "" 1), .call (.step "sync" "" 1),
            .call (.step "flush" "" 2)] ⟨false, none⟩]
    let earlier := (start.course script).take 5
    ∃ occurrence later scope outer,
      start.course script = earlier ++ occurrence :: later ∧
      occurrence.deed = .call (.step "flush" "" 2) ∧
      occurrence.before.monitor.scopes = scope :: outer ∧
      scope.workRemaining = 0 ∧ scope.totalWork = 2 ∧ outer.map (·.view.slack) = [2] ∧
      SinkCall.totalWorked (Emission.sinkCalls occurrence.after.emitted) = 0 ∧
      ∃ before task total during,
        Emission.sinkCalls (earlier.flatMap (·.after.emitted)) =
          before ++ .beginTask task total :: during ∧
        SinkCall.totalWorked during < total := by
  intro clock start script earlier
  let occurrence := (start.course script).get ⟨5, by decide +kernel +zetaReduce⟩
  have course : start.course script = earlier ++ occurrence :: (start.course script).drop 6 := by
    have long : 5 < (start.course script).length := by decide +kernel +zetaReduce
    have parts := (List.take_append_drop 5 (start.course script)).symm
    rwa [List.drop_eq_getElem_cons long] at parts
  have step : occurrence.deed = .call (.step "flush" "" 2) := by decide +kernel +zetaReduce
  have jobs : occurrence.before.monitor.scopes.map
      (fun scope => (scope.workRemaining, scope.totalWork, scope.view.slack)) =
        [(0, 2, 0), (3, 3, 2)] := by
    decide +kernel +zetaReduce
  have estimated : ∀ other ∈ earlier, ∀ label, other.deed ≠ .call (.reestimate label 0) := by
    have deeds : earlier.map (·.deed) =
        [.call (.openJob "build" 1 3), .call (.openJob "copy" 1 2), .call (.step "read" "" 1),
          .call (.step "write" "" 1), .call (.step "sync" "" 1)] := by
      decide +kernel +zetaReduce
    intro other member label nothing
    have listed : Deed.call (.reestimate label 0) ∈ earlier.map (·.deed) :=
      nothing ▸ List.mem_map_of_mem member
    simp [deeds] at listed
  rcases stack : occurrence.before.monitor.scopes with _ | ⟨scope, outer⟩
  · simp [stack] at jobs
  · rw [stack, List.map_cons, List.cons.injEq, Prod.mk.injEq, Prod.mk.injEq] at jobs
    rcases jobs with ⟨⟨exhausted, declared, _⟩, around⟩
    have slack : outer.map (·.view.slack) = [2] := by
      simpa using congrArg (List.map (·.2.2)) around
    have left : ∃ job ∈ outer, 0 < job.view.slack := by
      have two : (2 : Rat) ∈ outer.map (·.view.slack) := by simp [slack]
      rcases List.mem_map.mp two with ⟨job, member, equal⟩
      exact ⟨job, member, by rw [equal]; decide⟩
    rcases overrun_shows_slack_only _ _ _ clock script course step stack exhausted with
      ⟨before, task, total, during, begun, _, _, _, apart⟩
    rcases apart (by simp [declared]) estimated with ⟨nothing, shown, _⟩
    exact ⟨occurrence, _, scope, outer, course, step, stack, exhausted, declared, slack, nothing,
      before, task, total, during, begun, shown.mpr left⟩

/-- The one job open was declared with one unit of work and makes its third step. It is
expected to take four more, and all of the task is shown for done. -/
theorem overrun_shown_as_complete :
    let clock : Clock := .frozen .zero .zero
    let start : Session NullSink IgnoredWarnings Rat :=
      ofConfig { Config.default with overrunWork := 4 } ⟨⟩ ⟨⟩ clock
    let script : List (Script NullSink) :=
      [.call (.openJob "loop" 1 1), .call (.step "a" "" 1), .call (.step "b" "" 1)]
    let exhausted := start.runAll script
    let stepped := exhausted.2.perform (.step "c" "" 1)
    let during : List SinkCall :=
      [.subTask "a", .worked 1, .subTask "b", .workRemaining 0, .subTask "c"]
    (exhausted.2.monitor.scopes.map fun scope => (scope.totalWork, scope.workRemaining)) =
        [(1, 0)] ∧
      stepped.result.isOk = true ∧
      (stepped.last.session.monitor.scopes.map fun scope => (scope.totalWork, scope.view.scale)) =
        [(1, 4)] ∧
      Emission.sinkCalls (Report.emittedBy exhausted.1 ++ stepped.last.emitted) =
        [.taskName "loop"] ++ .beginTask "loop" 1 :: during ∧
      ¬SinkCall.totalWorked during < 1 := by
  decide +kernel +zetaReduce

end Session

end JobProgress
