import JobProgress.Proofs.Budget
import JobProgress.Proofs.Closing
import JobProgress.Proofs.Course
import JobProgress.Proofs.Snapshot

/-! A status bar that only a monitor writes to shows what the monitor counts: the task and
how much of it was reported, whether it is done, and the label of the latest step since
it began. -/

namespace JobProgress

namespace Monitor

variable {α : Type} [Amount α] {monitor next : Monitor α} {sent : List Emission}

theorem Move.total_le (move : Move monitor sent next) (fits : monitor.ticks.total ≤ maxWork) :
    next.ticks.total ≤ maxWork := by
  cases move with
  | openRoot now name totalWork idle => exact toNat_le_maxWork totalWork
  | step name detail share stack =>
      rw [step_of_open stack]
      simpa using fits
  | reestimate name work stack =>
      rw [reestimate_of_open stack]
      exact fits
  | closeJob now name succeeded stack =>
      rw [closeJob_total]
      exact fits
  | openNested _ _ _ _ _ _ | checkCanceled _ _ _ | logged _ => exact fits

theorem Reachable.total_le (reachable : monitor.Reachable) : monitor.ticks.total ≤ maxWork :=
  reachable.induct (motive := fun monitor => monitor.ticks.total ≤ maxWork)
    (fun _ => Nat.zero_le _) Move.total_le

end Monitor

namespace ShownTask.Transitions

variable {task final : ShownTask} {calls : List SinkCall} {name : String}

theorem isOpen_of_not_begins (transitions : task.Transitions calls final)
    (silent : calls.any SinkCall.begins = false) (opened : final.isOpen = true) :
    task.isOpen = true := by
  cases before : task.isOpen with
  | true => rfl
  | false =>
      rcases transitions.exists_beginTask before opened with ⟨_, name, _, rfl, _⟩
      rw [List.any_append, List.any_cons] at silent
      simp [SinkCall.begins] at silent

theorem done_mem_of_closes (transitions : task.Transitions calls final)
    (opened : task.isOpen = true) (closed : final.isOpen = false) : .done ∈ calls := by
  by_contra ongoing
  have stillOpen := (transitions.of_not_done opened ongoing).1
  cases closed.symm.trans stillOpen

theorem isOpen_of_subTask (transitions : task.Transitions [.subTask name] final) :
    task.isOpen = true ∧ final.isOpen = true := by
  cases transitions with
  | cons allowed rest =>
      cases rest
      exact ⟨allowed, allowed⟩

end ShownTask.Transitions

namespace SinkCall

def IsPlain (call : SinkCall) : Prop := call.begins = false ∧ call.labels = false

theorem any_begins_of_plain {calls : List SinkCall} (plain : ∀ call ∈ calls, call.IsPlain) :
    calls.any begins = false := by
  refine List.any_eq_false.mpr fun call member => ?_
  rw [(plain call member).1]
  exact Bool.false_ne_true

end SinkCall

namespace Monitor

open SinkCall

variable {α : Type} {monitor final : Monitor α} {sent : List Emission}

theorem shownTask_isOpen_iff : monitor.shownTask.isOpen = true ↔ monitor.isIdle = false := by
  simp [shownTask]

theorem depth_pos_of_not_idle (opened : monitor.isIdle = false) : 0 < monitor.depth := by
  rw [depth, List.length_pos_iff]
  simpa [isIdle] using opened

theorem plain_of_reports {count : Nat} {calls : List SinkCall} (reports : Reports count calls) :
    ∀ call ∈ calls, call.IsPlain := by
  rcases reports with ⟨units, _, rfl⟩
  intro call member
  rcases List.mem_map.mp member with ⟨_, _, rfl⟩
  exact ⟨rfl, rfl⟩

theorem showTopName_plain (monitor : Monitor α) : ∀ call ∈ monitor.showTopName, call.IsPlain := by
  intro call member
  rcases List.mem_map.mp member with ⟨_, _, rfl⟩
  exact ⟨rfl, rfl⟩

theorem resync_plain (monitor : Monitor α) (exhausted : Bool) :
    ∀ call ∈ monitor.resync exhausted, call.IsPlain := by
  cases exhausted with
  | false => exact fun _ member => absurd member List.not_mem_nil
  | true => exact List.forall_mem_singleton.mpr ⟨rfl, rfl⟩

variable [Amount α]

theorem openNested_plain (monitor : Monitor α) (parent : Scope α) (outer : List (Scope α))
    (now : Instant) (name : String) (granted : GrantedShare) (totalWork : Nat) :
    ∀ call ∈ Emission.sinkCalls
      (monitor.openNested parent outer now name granted totalWork).emitted, call.IsPlain := by
  rw [openNested_calls]
  exact List.forall_mem_append.mpr
    ⟨resync_plain monitor _, List.forall_mem_singleton.mpr ⟨rfl, rfl⟩⟩

theorem closeJob_plain {scope : Scope α} {outer : List (Scope α)}
    (stack : monitor.scopes = scope :: outer) (now : Instant) (name : String)
    (succeeded : Bool) :
    ∀ call ∈ Emission.sinkCalls (monitor.closeJob now name succeeded).emitted,
      call.IsPlain := by
  cases outer with
  | nil =>
      rcases closeJob_calls_root stack now name succeeded with ⟨reports, few, calls⟩
      rw [calls]
      refine List.forall_mem_append.mpr ⟨plain_of_reports few, ?_⟩
      exact List.forall_mem_cons.mpr ⟨⟨rfl, rfl⟩, showTopName_plain monitor⟩
  | cons parent outer =>
      rcases closeJob_calls_nested stack now name succeeded with ⟨reports, few, calls⟩
      rw [calls]
      exact List.forall_mem_append.mpr ⟨plain_of_reports few, showTopName_plain monitor⟩

theorem Closing.plain (closing : Closing monitor sent final) :
    ∀ call ∈ Emission.sinkCalls sent, call.IsPlain := by
  induction closing with
  | nil => exact fun _ member => absurd member List.not_mem_nil
  | logged _ _ induction => exact induction
  | closeJob now name succeeded stack _ induction =>
      rw [Emission.sinkCalls_append]
      exact List.forall_mem_append.mpr ⟨closeJob_plain stack now name succeeded, induction⟩

end Monitor

namespace Occurrence

variable {σ ω α : Type}

def startsTask (occurrence : Occurrence σ ω α) : Bool :=
  match occurrence.deed with
  | .call (.openJob _ _ _) => occurrence.result.isOk && occurrence.before.monitor.isIdle
  | _ => false

def steppedTo? (occurrence : Occurrence σ ω α) : Option String :=
  match occurrence.deed with
  | .call (.step name _ _) => if occurrence.result.isOk then some name else none
  | _ => none

/-- What an occurrence does to the label, told by what it tells the sink. -/
inductive Tells (occurrence : Occurrence σ ω α) : List SinkCall → Prop
  | starts (name total) :
      occurrence.startsTask = true → occurrence.steppedTo? = none →
      Tells occurrence [.taskName name, .beginTask name total]
  | steps {name silent} :
      occurrence.startsTask = false → occurrence.steppedTo? = some name →
      (∀ call ∈ silent, call.IsPlain) →
      Tells occurrence (silent ++ [.subTask name])
  | other {calls} :
      occurrence.startsTask = false → occurrence.steppedTo? = none →
      (∀ call ∈ calls, call.IsPlain) →
      Tells occurrence calls

variable {occurrence : Occurrence σ ω α} {sent : List Emission} {call : Call}

theorem startsTask_of_failed (failed : occurrence.result.isOk = false) :
    occurrence.startsTask = false := by
  rw [startsTask]
  split
  · rw [failed, Bool.false_and]
  · rfl

theorem steppedTo?_of_failed (failed : occurrence.result.isOk = false) :
    occurrence.steppedTo? = none := by
  rw [steppedTo?]
  split
  · rw [failed, if_neg Bool.false_ne_true]
  · rfl

variable [Amount α] {reading : Reading} {accepted : Bool} {final : Monitor α}

theorem Tells.of_performs
    (performs : occurrence.before.monitor.Performs reading call accepted sent final)
    (made : occurrence.deed = .call call) (result : occurrence.result.isOk = accepted) :
    occurrence.Tells (Emission.sinkCalls sent) := by
  cases performs with
  | refused _ =>
      exact .other (startsTask_of_failed result) (steppedTo?_of_failed result)
        fun _ member => absurd member List.not_mem_nil
  | openRoot name share totalWork idle =>
      rw [Monitor.openRoot_calls]
      refine .starts name totalWork.toNat ?_ ?_
      · simp [startsTask, made, result, Monitor.isIdle, idle]
      · simp [steppedTo?, made]
  | openNested name share totalWork granted logged stack _ silent =>
      rw [Emission.sinkCalls_append, silent, List.nil_append]
      refine .other ?_ ?_ (Monitor.openNested_plain _ _ _ _ _ _ _)
      · simp [startsTask, made, Monitor.isIdle, stack]
      · simp [steppedTo?, made]
  | step name detail share stack =>
      rcases Monitor.step_calls stack name detail share with ⟨reports, few, calls⟩
      rw [calls, ← List.append_assoc]
      refine .steps ?_ ?_ (List.forall_mem_append.mpr
        ⟨Monitor.plain_of_reports few, Monitor.resync_plain _ _⟩)
      · simp [startsTask, made]
      · simp [steppedTo?, made, result]
  | reestimate name work stack =>
      rw [Monitor.reestimate_calls stack]
      refine .other ?_ ?_ (List.forall_mem_singleton.mpr ⟨rfl, rfl⟩)
      · simp [startsTask, made]
      · simp [steppedTo?, made]
  | closeJob _ _ closing | closeAll closing =>
      refine .other ?_ ?_ closing.plain
      · simp [startsTask, made]
      · simp [steppedTo?, made]
  | checkCanceled name _ =>
      rw [Monitor.checkCanceled_calls]
      refine .other ?_ ?_ fun _ member => absurd member List.not_mem_nil
      · simp [startsTask, made]
      · simp [steppedTo?, made]

end Occurrence

namespace Session

variable {σ ω α : Type} [ProgressSink σ] [Amount α]

theorem perform_isOk (session : Session σ ω α) (call : Call) :
    (session.perform call).result.isOk =
      (session.monitor.perform (session.read call).2 call).result.isOk := by
  rw [perform_result]
  cases (session.monitor.perform (session.read call).2 call).result <;> rfl

theorem Occurs.tells {occurrence : Occurrence σ ω α} (occurs : Occurs occurrence) :
    occurrence.Tells (Emission.sinkCalls occurrence.after.emitted) := by
  cases occurs with
  | call session call =>
      rw [perform_calls]
      exact .of_performs (session.monitor.perform_performs _ call) rfl (session.perform_isOk call)
  | conclude session job depth result =>
      rw [conclude_calls]
      exact .other rfl rfl
        (session.monitor.conclude_closing session.clock job depth result.isOk).plain
  | beside silent _ _ =>
      rw [silent]
      exact .other rfl rfl fun _ member => absurd member List.not_mem_nil

theorem Unfolds.begins_eq {session final : Session σ ω α}
    {occurrences : List (Occurrence σ ω α)} (unfolds : Unfolds session occurrences final) :
    (Emission.sinkCalls (occurrences.flatMap (·.after.emitted))).any SinkCall.begins =
      occurrences.any (·.startsTask) := by
  induction unfolds with
  | nil => rfl
  | @cons occurrence occurrences final occurs _ induction =>
      have first : (Emission.sinkCalls occurrence.after.emitted).any SinkCall.begins =
          occurrence.startsTask := by
        have tells := occurs.tells
        generalize Emission.sinkCalls occurrence.after.emitted = calls at tells
        cases tells with
        | starts name total starts _ =>
            rw [starts]
            rfl
        | steps starts _ plain =>
            rw [starts, List.any_append, SinkCall.any_begins_of_plain plain]
            rfl
        | other starts _ plain => rw [starts, SinkCall.any_begins_of_plain plain]
      rw [List.flatMap_cons, Emission.sinkCalls_append, List.any_append, List.any_cons, first,
        induction]

/-! ## A status bar -/

section Status

variable {session final : Session StatusSink ω α} {occurrence : Occurrence StatusSink ω α}
  {past occurrences : List (Occurrence StatusSink ω α)}

theorem deliver_snapshot (sink : StatusSink) (emissions : List Emission) :
    (deliver sink emissions).1.snapshot =
      sink.snapshot.afterAll (Emission.received emissions) := by
  rw [deliver_sink]
  induction Emission.received emissions generalizing sink with
  | nil => rfl
  | cons call calls induction => exact induction { sink with snapshot := sink.snapshot.apply call }

omit [Amount α] in
theorem settle_snapshot (session : Session StatusSink ω α) {ρ : Type} {outcome : Outcome α ρ}
    (own : Emission.received outcome.emitted = Emission.sinkCalls outcome.emitted) :
    (session.settle outcome).session.sink.snapshot =
      session.sink.snapshot.afterAll (Emission.sinkCalls outcome.emitted) := by
  rw [← own]
  exact deliver_snapshot session.sink outcome.emitted

omit [Amount α] in
theorem read_sink (session : Session StatusSink ω α) (call : Call) :
    (session.read call).1.sink = session.sink := by
  cases call with
  | checkCanceled name =>
      simp only [read, poll]
      split <;> rfl
  | _ => rfl

theorem Occurs.snapshot_eq (occurs : Occurs occurrence)
    (alone : occurrence.deed = .beside →
      occurrence.after.session.sink.snapshot = occurrence.before.sink.snapshot) :
    occurrence.after.session.sink.snapshot =
      occurrence.before.sink.snapshot.afterAll
        (Emission.sinkCalls occurrence.after.emitted) := by
  cases occurs with
  | call session call =>
      have trace := session.monitor.perform_trace (session.read call).2 call
      rw [← session.read_monitor call] at trace
      have settled := (session.read call).1.settle_snapshot trace.received_eq
      rw [perform_calls, ← session.read_monitor call, ← session.read_sink call]
      exact settled
  | conclude session job depth result =>
      have trace := session.monitor.conclude_trace session.clock job depth result.isOk
      have settled := session.settle_snapshot trace.received_eq
      rw [conclude_calls, ← settled, Session.conclude]
      split <;> rfl
  | beside silent _ _ =>
      rw [silent]
      exact alone rfl

theorem Unfolds.snapshot_eq (unfolds : Unfolds session occurrences final)
    (alone : ∀ occurrence ∈ occurrences, occurrence.deed = .beside →
      occurrence.after.session.sink.snapshot = occurrence.before.sink.snapshot) :
    final.sink.snapshot = session.sink.snapshot.afterAll
      (Emission.sinkCalls (occurrences.flatMap (·.after.emitted))) := by
  induction unfolds with
  | nil => rfl
  | cons occurs _ induction =>
      rcases List.forall_mem_cons.mp alone with ⟨first, later⟩
      rw [List.flatMap_cons, Emission.sinkCalls_append, ProgressSnapshot.afterAll_append,
        ← occurs.snapshot_eq first]
      exact induction later

theorem Unfolds.mirrors {begun : Bool} (unfolds : Unfolds session occurrences final)
    (mirrors : session.sink.snapshot.Mirrors session.monitor.shownTask begun)
    (sound : session.monitor.shownTask.Sound)
    (alone : ∀ occurrence ∈ occurrences, occurrence.deed = .beside →
      occurrence.after.session.sink.snapshot = occurrence.before.sink.snapshot) :
    final.sink.snapshot.Mirrors final.monitor.shownTask
      (begun || occurrences.any (·.startsTask)) := by
  rw [unfolds.snapshot_eq alone, ← unfolds.begins_eq]
  exact mirrors.afterAll (unfolds.sends.transitions sound)

/-- The label is that of the latest step since the latest outermost job was opened, and it is
gone when no job is open. -/
structure ShowsLatestStep (session : Session StatusSink ω α)
    (past : List (Occurrence StatusSink ω α)) : Prop where
  idle : session.monitor.isIdle = true → session.sink.snapshot.subtask = none
  ongoing : session.monitor.isIdle = false →
    ∃ before opening during, past = before ++ opening :: during ∧ opening.startsTask = true ∧
      (∀ occurrence ∈ during, occurrence.startsTask = false) ∧
      session.sink.snapshot.subtask = (during.filterMap (·.steppedTo?)).getLast?

namespace ShowsLatestStep

omit [Amount α] in
theorem extend (shows : ShowsLatestStep occurrence.before past)
    (opened : occurrence.before.monitor.isIdle = false) (starts : occurrence.startsTask = false)
    (label : occurrence.after.session.sink.snapshot.subtask =
      occurrence.steppedTo?.or occurrence.before.sink.snapshot.subtask) :
    ∃ before opening during, past ++ [occurrence] = before ++ opening :: during ∧
      opening.startsTask = true ∧ (∀ other ∈ during, other.startsTask = false) ∧
      occurrence.after.session.sink.snapshot.subtask =
        (during.filterMap (·.steppedTo?)).getLast? := by
  rcases shows.ongoing opened with ⟨before, opening, during, rfl, started, latest, shown⟩
  refine ⟨before, opening, during ++ [occurrence], by simp, started, ?_, ?_⟩
  · exact List.forall_mem_append.mpr ⟨latest, List.forall_mem_singleton.mpr starts⟩
  · rw [label, shown, List.filterMap_append]
    cases stepped : occurrence.steppedTo? <;> simp [stepped]

theorem step (shows : ShowsLatestStep occurrence.before past) (occurs : Occurs occurrence)
    (sound : occurrence.before.monitor.shownTask.Sound)
    (alone : occurrence.deed = .beside →
      occurrence.after.session.sink.snapshot = occurrence.before.sink.snapshot) :
    ShowsLatestStep occurrence.after.session (past ++ [occurrence]) := by
  have transitions := occurs.leads.sends.transitions sound
  have snapshot := occurs.snapshot_eq alone
  have tells := occurs.tells
  have notDone := occurs.leads.not_done
  generalize Emission.sinkCalls occurrence.after.emitted = calls at *
  cases tells with
  | starts name total starts _ =>
      have gone : occurrence.after.session.sink.snapshot.subtask = none := by
        rw [snapshot]
        rfl
      refine ⟨fun _ => gone, fun _ => ⟨past, occurrence, [], rfl, starts, ?_, gone⟩⟩
      exact fun _ member => absurd member List.not_mem_nil
  | @steps name silent starts stepped plain =>
      rcases transitions.split with ⟨middle, left, right⟩
      have stillOpen := right.isOpen_of_subTask
      have opened := left.isOpen_of_not_begins (SinkCall.any_begins_of_plain plain) stillOpen.1
      have label : occurrence.after.session.sink.snapshot.subtask = some name := by
        rw [snapshot, ProgressSnapshot.afterAll_append]
        rfl
      refine ⟨fun idle => ?_, fun _ => ?_⟩
      · cases idle.symm.trans (Monitor.shownTask_isOpen_iff.mp stillOpen.2)
      · refine shows.extend (Monitor.shownTask_isOpen_iff.mp opened) starts ?_
        rw [label, stepped]
        rfl
  | other starts stepped plain =>
      have label := occurrence.before.sink.snapshot.subtask_afterAll fun call member =>
        (plain call member).2
      rw [← snapshot, SinkCall.any_begins_of_plain plain] at label
      refine ⟨fun idle => ?_, fun opened => ?_⟩
      · cases before : occurrence.before.monitor.isIdle with
        | true =>
            rw [label, shows.idle before]
            exact ite_self none
        | false =>
            have closed : occurrence.after.session.monitor.shownTask.isOpen = false := by
              rw [Monitor.shownTask, idle]
              rfl
            have done := transitions.done_mem_of_closes
              (Monitor.shownTask_isOpen_iff.mpr before) closed
            rw [label, if_pos (.inl done)]
      · have stillOpen := Monitor.shownTask_isOpen_iff.mpr opened
        -- No task begins here, so the one that is open is that of the label before.
        have before := transitions.isOpen_of_not_begins
          (SinkCall.any_begins_of_plain plain) stillOpen
        have ongoing : .done ∉ calls :=
          List.count_eq_zero.mp (notDone (Monitor.depth_pos_of_not_idle opened))
        refine shows.extend (Monitor.shownTask_isOpen_iff.mp before) starts ?_
        rw [label, stepped, if_neg (by simp [ongoing])]
        rfl

theorem ofUnfolds (shows : ShowsLatestStep session past)
    (unfolds : Unfolds session occurrences final)
    (sound : session.monitor.shownTask.Sound)
    (alone : ∀ occurrence ∈ occurrences, occurrence.deed = .beside →
      occurrence.after.session.sink.snapshot = occurrence.before.sink.snapshot) :
    ShowsLatestStep final (past ++ occurrences) := by
  induction unfolds generalizing past with
  | nil =>
      rw [List.append_nil]
      exact shows
  | @cons occurrence occurrences final occurs _ induction =>
      rcases List.forall_mem_cons.mp alone with ⟨first, later⟩
      rw [← List.singleton_append, ← List.append_assoc]
      have transitions := occurs.leads.sends.transitions sound
      exact induction (shows.step occurs sound first) (transitions.sound sound) later

end ShowsLatestStep

/-- A status bar that only a monitor writes to mirrors the monitor after every call. Its
total and the units on it are those that the monitor counts. It is done once an outermost
job was opened and none is open. Its label is that of the latest step of the open task. The
part it shows for done is there for a task with units, and is then the exact quotient,
rounded down; it is all of the task if and only if all units were reported, which they are
once the task is done; and between the calls that begin two tasks it never decreases. -/
theorem status_mirrors_monitor [WarningSink ω] (config : Config) (warnings : ω) (clock : Clock)
    (script : List (Script StatusSink)) {earlier later : List (Occurrence StatusSink ω α)}
    (course : (ofConfig config .initial warnings clock : Session StatusSink ω α).course script =
      earlier ++ later)
    (alone : ∀ occurrence ∈ earlier, occurrence.deed = .beside →
      occurrence.after.session.sink.snapshot = occurrence.before.sink.snapshot) :
    let reached := (ofConfig config .initial warnings clock : Session StatusSink ω α).upTo
      (earlier.map (·.after))
    let monitor := reached.session.monitor
    let ticks := monitor.ticks
    let snapshot := reached.session.sink.snapshot
    let calls := Emission.sinkCalls reached.emitted
    snapshot.total = ticks.total ∧
      snapshot.worked = ticks.reported ∧
      (snapshot.done = true ↔
        monitor.isIdle = true ∧ ∃ occurrence ∈ earlier, occurrence.startsTask = true) ∧
      reached.session.ShowsLatestStep earlier ∧
      (snapshot.percentage = none ↔ snapshot.total = 0) ∧
      (snapshot.total ≠ 0 →
        snapshot.percentage = some (100 * snapshot.worked / snapshot.total)) ∧
      (snapshot.percentage = some 100 ↔ ticks.total ≠ 0 ∧ ticks.reported = ticks.total) ∧
      (monitor.isIdle = true → ticks.total ≠ 0 → snapshot.percentage = some 100) ∧
      snapshot = ProgressSnapshot.initial.afterAll calls ∧
      ∀ heard more percent, calls = heard ++ more → (∀ call ∈ more, call.begins = false) →
        (ProgressSnapshot.initial.afterAll heard).percentage = some percent →
        ∃ shown, snapshot.percentage = some shown ∧ percent ≤ shown := by
  intro reached monitor ticks snapshot calls
  have unfolds :=
    (ofConfig config .initial warnings clock : Session StatusSink ω α).course_unfolds script
  rw [course] at unfolds
  rcases unfolds.split with ⟨middle, passed, _⟩
  have reaches : reached.session = middle := passed.upTo_session
  subst reaches
  have told : calls = Emission.sinkCalls (earlier.flatMap (·.after.emitted)) := by
    rw [← List.flatMap_map]
    rfl
  have reachable : monitor.Reachable := passed.sends.reachable (.ofConfig config)
  have shown : snapshot = ProgressSnapshot.initial.afterAll calls := by
    rw [told]
    exact passed.snapshot_eq alone
  have mirrors : snapshot.Mirrors monitor.shownTask (earlier.any (·.startsTask)) :=
    passed.mirrors ProgressSnapshot.initial_mirrors ShownTask.blank_sound alone
  have sameTotal : snapshot.total = ticks.total := mirrors.total_eq
  have fits : ticks.total ≤ maxWork := reachable.total_le
  have sameWorked : snapshot.worked = ticks.reported :=
    mirrors.worked_eq (Nat.le_trans fits maxWork_le_maxUnits)
  have within : snapshot.worked ≤ snapshot.total := by
    rw [sameWorked, sameTotal]
    exact reachable.shownTask_sound.within
  have fitsSnapshot : snapshot.total ≤ maxWork := sameTotal ▸ fits
  have hundred : snapshot.percentage = some 100 ↔
      ticks.total ≠ 0 ∧ ticks.reported = ticks.total := by
    rw [← sameTotal, ← sameWorked]
    exact ProgressSnapshot.percentage_eq_hundred_iff within fitsSnapshot
  refine ⟨sameTotal, sameWorked, ?_, ?_, ProgressSnapshot.percentage_eq_none_iff,
    fun declared => ProgressSnapshot.percentage_eq declared within fitsSnapshot, hundred,
    fun idle declared => hundred.mpr ⟨declared, ?_⟩, shown, ?_⟩
  · rw [mirrors.done_eq, Monitor.shownTask]
    simp [and_comm]
  · have fresh :
        ShowsLatestStep (ofConfig config .initial warnings clock : Session StatusSink ω α) [] :=
      ⟨fun _ => rfl, fun opened => absurd opened.symm Bool.false_ne_true⟩
    exact fresh.ofUnfolds passed ShownTask.blank_sound alone
  · apply reachable.shownTask_sound.complete
    rw [Monitor.shownTask, idle]
    rfl
  · intro heard more percent split ongoing percentage
    have sameDeclared : snapshot.total = (ProgressSnapshot.initial.afterAll heard).total := by
      rw [shown, split, ProgressSnapshot.afterAll_append, ProgressSnapshot.afterAll_total ongoing]
    rw [shown, split, ProgressSnapshot.afterAll_append]
    refine ProgressSnapshot.percentage_le_afterAll ?_ ongoing percentage
    exact sameDeclared ▸ Nat.le_trans fitsSnapshot maxWork_le_maxUnits

/-- The second task, while a job inside it has made its second step and someone has asked to
cancel. -/
theorem status_mirrors_monitor_in_second_task :
    let clock : Clock := .frozen .zero (.after .zero (.ofSeconds 9))
    let start : Session StatusSink IgnoredWarnings Rat := ofConfig .default .initial ⟨⟩ clock
    let script : List (Script StatusSink) :=
      [.call (.openJob "build" 1 2), .call (.step "parse" "" 1), .call (.closeJob "build" true),
        .call (.openJob "deploy" 1 8), .touch (·.cancel),
        .job "copy" 4 4
          [.call (.step "read" "" 3), .wait ⟨7⟩, .call (.checkCanceled "copy"),
            .call (.step "write" "" 1), .call (.reestimate "copy" 5)] ⟨false, none⟩]
    let earlier := (start.course script).take 10
    let reached := start.upTo (earlier.map (·.after))
    let snapshot := reached.session.sink.snapshot
    snapshot = ⟨"copy", some "write", 8, 3, false⟩ ∧
      snapshot.worked = reached.session.monitor.ticks.reported ∧
      reached.session.ShowsLatestStep earlier ∧
      snapshot.percentage = some (100 * 3 / 8) := by
  intro clock start script earlier reached snapshot
  have course : start.course script = earlier ++ (start.course script).drop 10 :=
    (List.take_append_drop 10 _).symm
  have alone : ∀ occurrence ∈ earlier, occurrence.deed = .beside →
      occurrence.after.session.sink.snapshot = occurrence.before.sink.snapshot := by
    decide +kernel +zetaReduce
  have shown : snapshot = ⟨"copy", some "write", 8, 3, false⟩ := by decide +kernel +zetaReduce
  rcases status_mirrors_monitor .default ⟨⟩ clock script course alone with
    ⟨_, worked, _, label, _, part, _⟩
  have percentage : snapshot.total ≠ 0 →
      snapshot.percentage = some (100 * snapshot.worked / snapshot.total) := by
    simpa only [snapshot, reached, start] using part
  refine ⟨shown, ?_, ?_, ?_⟩
  · simpa only [snapshot, reached, start] using worked
  · simpa only [reached, start] using label
  · rw [percentage (by rw [shown]; decide), shown]

end Status

end Session

end JobProgress
