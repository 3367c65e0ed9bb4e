import JobProgress.Proofs.Checks
import JobProgress.Proofs.FreshStart
import JobProgress.Proofs.Masking
import JobProgress.Sink.Polled

/-! Jobs and cancellation have nothing to do with each other, nor jobs with time. What a
monitor is apart from time are its `accounts`, and what job calls do to those does not
hang on when they are made, nor on what is done between them. And no job call touches the
record of polls, which is all that the answer to a check hangs on. -/

namespace JobProgress

theorem Scope.eqUpToStart_of_map {α : Type} {first second : List (Scope α)}
    (same : first.map (·.openedAt .zero) = second.map (·.openedAt .zero)) :
    List.Forall₂ EqUpToStart first second := by
  induction first generalizing second with
  | nil =>
      cases List.map_eq_nil_iff.mp same.symm
      exact .nil
  | cons scope outer induction =>
      rcases List.map_eq_cons_iff.mp same.symm with ⟨other, around, rfl, equal, alike⟩
      have opened := congrArg (openedAt · scope.startedAt) equal
      exact .cons ⟨scope.startedAt, opened.symm⟩ (induction alike.symm)

/-- A monitor apart from time: as if its jobs had been opened at the start of the clock, and
cancellation had not been checked. -/
def Monitor.accounts {α : Type} (monitor : Monitor α) : Monitor α :=
  { monitor with
    scopes := monitor.scopes.map (·.openedAt .zero)
    cancelPoll := .ofInterval monitor.config.cancelPollInterval }

structure Outcome.SameAccounts {α ρ : Type} (first second : Outcome α ρ) : Prop where
  result_eq : first.result = second.result
  accounts_eq : first.monitor.accounts = second.monitor.accounts
  calls_eq : Emission.sinkCalls first.emitted = Emission.sinkCalls second.emitted

/-- The accounts are the monitor behind this mask, which hides when jobs were opened. -/
def Mask.timeless : Mask := ⟨id, fun _ => .zero⟩

namespace Monitor

variable {α : Type} {first second : Monitor α}

theorem timeless_eq_accounts (monitor : Monitor α) :
    Mask.timeless.monitor monitor (.ofInterval monitor.config.cancelPollInterval) =
      monitor.accounts := by
  rw [Mask.monitor, Mask.timeless, Option.map_id]
  rfl

theorem accounts_timeless (monitor : Monitor α) (cancelPoll : RateLimited Bool) :
    (Mask.timeless.monitor monitor cancelPoll).accounts = monitor.accounts := by
  rw [accounts, Mask.monitor, Mask.timeless, Option.map_id, List.map_map]
  rfl

end Monitor

theorem Outcome.Masks.sameAccounts {α ρ : Type} {first second masked : Outcome α ρ}
    {firstPoll secondPoll : RateLimited Bool} (left : first.Masks .timeless firstPoll masked)
    (right : second.Masks .timeless secondPoll masked) : first.SameAccounts second where
  result_eq := by
    have same := left.result_eq.symm.trans right.result_eq
    rwa [Mask.mapError_eq_self rfl, Mask.mapError_eq_self rfl] at same
  accounts_eq := by
    rw [← Monitor.accounts_timeless first.monitor firstPoll, ← left.monitor_eq, right.monitor_eq,
      Monitor.accounts_timeless]
  calls_eq := by
    have same := left.calls_eq.symm.trans right.calls_eq
    rwa [Mask.map_eq_self rfl, Mask.map_eq_self rfl] at same

namespace Monitor

variable {α : Type} [Amount α] {first second : Monitor α}

/-- Each job call is compared to the same call on the accounts alone, at the start of the
clock. -/
theorem perform_masks (monitor : Monitor α) (cancelPoll : RateLimited Bool) (reading : Reading)
    {call : Call} (job : call.asks = false) :
    (monitor.perform reading call).Masks .timeless cancelPoll
      ((Mask.timeless.monitor monitor cancelPoll).perform ⟨.frozen .zero .zero, false⟩ call) := by
  cases call with
  | openJob name share totalWork =>
      exact (monitor.openJob_masks .timeless cancelPoll reading.now name share totalWork).map _
  | step name detail share =>
      exact (monitor.step_masks .timeless cancelPoll name detail detail share).map _
  | reestimate name work =>
      exact (monitor.reestimate_masks .timeless cancelPoll name name work).map _
  | closeJob name succeeded =>
      exact (monitor.closeJob_masks .timeless cancelPoll reading.now .zero name name succeeded
        succeeded).map _
  | closeAll => exact (monitor.closeAll_masks .timeless cancelPoll reading.clock _).map _
  | checkCanceled name => cases job

theorem perform_sameAccounts (same : first.accounts = second.accounts)
    (firstReading secondReading : Reading) {call : Call} (job : call.asks = false) :
    (first.perform firstReading call).SameAccounts (second.perform secondReading call) := by
  have left := first.perform_masks (.ofInterval first.config.cancelPollInterval) firstReading job
  have right := second.perform_masks (.ofInterval second.config.cancelPollInterval) secondReading
    job
  rw [timeless_eq_accounts] at left right
  exact (same ▸ left).sameAccounts right

theorem conclude_sameAccounts (same : first.accounts = second.accounts)
    (firstClock secondClock : Clock) (job : String) (depth : Nat) (succeeded : Bool) :
    (first.conclude firstClock job depth succeeded).SameAccounts
      (second.conclude secondClock job depth succeeded) := by
  have left := first.conclude_masks .timeless (.ofInterval first.config.cancelPollInterval)
    firstClock (.frozen .zero .zero) job job depth succeeded succeeded
  have right := second.conclude_masks .timeless (.ofInterval second.config.cancelPollInterval)
    secondClock (.frozen .zero .zero) job job depth succeeded succeeded
  rw [timeless_eq_accounts] at left right
  exact (same ▸ left).sameAccounts right

end Monitor

namespace Occurrence

variable {σ ω α : Type}

def operation? (occurrence : Occurrence σ ω α) : Option Deed :=
  match occurrence.deed with
  | .call call => if call.asks then none else some (.call call)
  | .conclude job depth succeeded => some (.conclude job depth succeeded)
  | .beside => none

def returned? (occurrence : Occurrence σ ω α) : Option (Except Failure Reply) :=
  match occurrence.operation? with
  | some (.call _) => some occurrence.result
  | _ => none

end Occurrence

namespace Session

variable {σ τ ω υ α : Type} [ProgressSink σ] [ProgressSink τ] [Amount α]

section Quiet

variable {session final : Session σ ω α} {occurrence : Occurrence σ ω α}
  {occurrences : List (Occurrence σ ω α)}

theorem Occurs.quiet (occurs : Occurs occurrence) (other : occurrence.operation? = none) :
    occurrence.returned? = none ∧
      Emission.sinkCalls occurrence.after.emitted = [] ∧
      occurrence.after.session.monitor.accounts = occurrence.before.monitor.accounts := by
  cases occurs with
  | call session call =>
      cases call with
      | checkCanceled name =>
          refine ⟨rfl, ?_, ?_⟩
          · rw [perform_calls]
            exact Monitor.checkCanceled_calls ..
          · rw [perform_monitor]
            rfl
      | _ => cases other
  | conclude session job depth result => cases other
  | beside silent same _ => exact ⟨rfl, silent, congrArg Monitor.accounts same⟩

theorem Unfolds.quiet (unfolds : Unfolds session occurrences final)
    (others : ∀ occurrence ∈ occurrences, occurrence.operation? = none) :
    occurrences.filterMap (·.returned?) = [] ∧
      Emission.sinkCalls (occurrences.flatMap (·.after.emitted)) = [] ∧
      final.monitor.accounts = session.monitor.accounts := by
  induction unfolds with
  | nil session => exact ⟨rfl, rfl, rfl⟩
  | cons occurs _ induction =>
      rcases List.forall_mem_cons.mp others with ⟨first, later⟩
      rcases occurs.quiet first with ⟨returned, told, accounts⟩
      rcases induction later with ⟨laterReturned, laterTold, laterAccounts⟩
      refine ⟨?_, ?_, laterAccounts.trans accounts⟩
      · rw [List.filterMap_cons_none returned, laterReturned]
      · rw [List.flatMap_cons, Emission.sinkCalls_append, told, laterTold]
        rfl

theorem Unfolds.pass {operation : Deed} {operations : List Deed}
    (unfolds : Unfolds session occurrences final)
    (does : occurrences.filterMap (·.operation?) = operation :: operations) :
    ∃ done rest, Occurs done ∧ done.operation? = some operation ∧
      done.before.monitor.accounts = session.monitor.accounts ∧
      Unfolds done.after.session rest final ∧
      rest.filterMap (·.operation?) = operations ∧
      occurrences.filterMap (·.returned?) =
        done.returned?.toList ++ rest.filterMap (·.returned?) ∧
      Emission.sinkCalls (occurrences.flatMap (·.after.emitted)) =
        Emission.sinkCalls done.after.emitted ++
          Emission.sinkCalls (rest.flatMap (·.after.emitted)) := by
  rcases List.filterMap_eq_cons_iff.mp does with
    ⟨idle, done, rest, rfl, others, first, later⟩
  rcases unfolds.split with ⟨middle, before, unfolding⟩
  rcases before.quiet others with ⟨returned, told, accounts⟩
  cases unfolding with
  | cons occurs unfolding =>
      refine ⟨done, rest, occurs, first, accounts, unfolding, later, ?_, ?_⟩
      · rw [List.filterMap_append, returned, List.nil_append, List.filterMap_cons]
        cases done.returned? <;> rfl
      · rw [List.flatMap_append, Emission.sinkCalls_append, told, List.nil_append,
          List.flatMap_cons, Emission.sinkCalls_append]

end Quiet

theorem Occurs.of_job {occurrence : Occurrence σ ω α} {call : Call} (occurs : Occurs occurrence)
    (does : occurrence.operation? = some (.call call)) :
    call.asks = false ∧ occurrence.returned? = some (occurrence.before.perform call).result ∧
      occurrence.after = (occurrence.before.perform call).last := by
  cases occurs with
  | call session other =>
      have returns : Occurrence.returned? ⟨session, .call other, (session.perform other).result,
          (session.perform other).last⟩ = some (session.perform other).result := by
        rw [Occurrence.returned?, does]
      rw [Occurrence.operation?] at does
      dsimp only at does
      split at does
      · cases does
      · next job =>
          cases does
          exact ⟨Bool.eq_false_iff.mpr job, returns, rfl⟩
  | conclude => cases does
  | beside => cases does

theorem Occurs.of_conclude {occurrence : Occurrence σ ω α} {job : String} {depth : Nat}
    {succeeded : Bool} (occurs : Occurs occurrence)
    (does : occurrence.operation? = some (.conclude job depth succeeded)) :
    occurrence.returned? = none ∧ ∃ result : Except Failure Reply, result.isOk = succeeded ∧
      occurrence.after = (occurrence.before.conclude job depth result).2 := by
  cases occurs with
  | call session call =>
      rw [Occurrence.operation?] at does
      dsimp only at does
      split at does <;> cases does
  | conclude session name level result =>
      cases does
      exact ⟨rfl, result, rfl, rfl⟩
  | beside => cases does

theorem Occurs.sameAccounts {first : Occurrence σ ω α} {second : Occurrence τ υ α}
    {operation : Deed} (firstOccurs : Occurs first) (secondOccurs : Occurs second)
    (same : first.before.monitor.accounts = second.before.monitor.accounts)
    (firstDoes : first.operation? = some operation)
    (secondDoes : second.operation? = some operation) :
    first.returned? = second.returned? ∧
      Emission.sinkCalls first.after.emitted = Emission.sinkCalls second.after.emitted ∧
      first.after.session.monitor.accounts = second.after.session.monitor.accounts := by
  cases operation with
  | call call =>
      rcases firstOccurs.of_job firstDoes with ⟨job, firstReturned, firstAfter⟩
      rcases secondOccurs.of_job secondDoes with ⟨_, secondReturned, secondAfter⟩
      have performed := Monitor.perform_sameAccounts same (first.before.read call).2
        (second.before.read call).2 job
      rw [firstReturned, secondReturned, firstAfter, secondAfter, perform_result, perform_result,
        perform_calls, perform_calls, perform_monitor, perform_monitor, performed.result_eq]
      exact ⟨rfl, performed.calls_eq, performed.accounts_eq⟩
  | conclude job depth succeeded =>
      rcases firstOccurs.of_conclude firstDoes with ⟨firstReturned, _, rfl, firstAfter⟩
      rcases secondOccurs.of_conclude secondDoes with ⟨secondReturned, result, ended, secondAfter⟩
      have concluded := Monitor.conclude_sameAccounts same first.before.clock second.before.clock
        job depth result.isOk
      rw [firstReturned, secondReturned, firstAfter, secondAfter, conclude_calls, conclude_calls,
        conclude_monitor, conclude_monitor, ← ended]
      exact ⟨rfl, concluded.calls_eq, concluded.accounts_eq⟩
  | beside =>
      rw [Occurrence.operation?] at firstDoes
      split at firstDoes
      · split at firstDoes <;> cases firstDoes
      · cases firstDoes
      · cases firstDoes

variable {first firstEnd : Session σ ω α} {second secondEnd : Session τ υ α}
  {firstCourse : List (Occurrence σ ω α)} {secondCourse : List (Occurrence τ υ α)}

/-- Over two runs, by induction on the operations that they have in common. -/
theorem Unfolds.sameAccounts {operations : List Deed}
    (firstUnfolds : Unfolds first firstCourse firstEnd)
    (secondUnfolds : Unfolds second secondCourse secondEnd)
    (same : first.monitor.accounts = second.monitor.accounts)
    (firstDoes : firstCourse.filterMap (·.operation?) = operations)
    (secondDoes : secondCourse.filterMap (·.operation?) = operations) :
    firstCourse.filterMap (·.returned?) = secondCourse.filterMap (·.returned?) ∧
      Emission.sinkCalls (firstCourse.flatMap (·.after.emitted)) =
        Emission.sinkCalls (secondCourse.flatMap (·.after.emitted)) ∧
      firstEnd.monitor.accounts = secondEnd.monitor.accounts := by
  induction operations generalizing first second firstCourse secondCourse with
  | nil =>
      rcases firstUnfolds.quiet (List.filterMap_eq_nil_iff.mp firstDoes) with
        ⟨firstReturned, firstTold, firstAccounts⟩
      rcases secondUnfolds.quiet (List.filterMap_eq_nil_iff.mp secondDoes) with
        ⟨secondReturned, secondTold, secondAccounts⟩
      rw [firstReturned, secondReturned, firstTold, secondTold, firstAccounts, secondAccounts]
      exact ⟨rfl, rfl, same⟩
  | cons operation operations induction =>
      rcases firstUnfolds.pass firstDoes with
        ⟨firstDone, firstRest, firstOccurs, firstOperation, firstBefore, firstUnfolding,
          firstLater, firstReturned, firstTold⟩
      rcases secondUnfolds.pass secondDoes with
        ⟨secondDone, secondRest, secondOccurs, secondOperation, secondBefore, secondUnfolding,
          secondLater, secondReturned, secondTold⟩
      -- Whatever each run does before the operation, it does not do to jobs.
      rw [← firstBefore, ← secondBefore] at same
      rcases firstOccurs.sameAccounts secondOccurs same firstOperation secondOperation with
        ⟨returned, told, accounts⟩
      rcases induction firstUnfolding secondUnfolding accounts firstLater secondLater with
        ⟨laterReturned, laterTold, final⟩
      refine ⟨?_, ?_, final⟩
      · rw [firstReturned, secondReturned, returned, laterReturned]
      · rw [firstTold, secondTold, told, laterTold]

variable [WarningSink ω] [WarningSink υ]

/-- Jobs are separate from cancellation, warnings and time. In two runs of a monitor that do
the same to jobs, whatever else happens in between and whenever, all job calls return the
same, the monitor tells its sink the same, and at the end the same jobs are open, which may
have been opened at other instants, in the same task, under the same top name. Conversely,
checks that are made at the same times, and that read the same flag, are answered the same,
and the same of them ask the sink, whatever happens to jobs in between. -/
theorem jobs_separate_from_cancellation (config : Config) (firstSink : σ) (secondSink : τ)
    (firstWarnings : ω) (secondWarnings : υ) (firstClock secondClock : Clock)
    (firstScript : List (Script σ)) (secondScript : List (Script τ)) :
    let first : Session σ ω α := ofConfig config firstSink firstWarnings firstClock
    let second : Session τ υ α := ofConfig config secondSink secondWarnings secondClock
    let firstCourse := first.course firstScript
    let secondCourse := second.course secondScript
    let firstEnd := (first.runAll firstScript).2.monitor
    let secondEnd := (second.runAll secondScript).2.monitor
    let firstChecks := firstCourse.filterMap (·.check?)
    let secondChecks := secondCourse.filterMap (·.check?)
    (firstCourse.filterMap (·.operation?) = secondCourse.filterMap (·.operation?) →
      firstCourse.filterMap (·.returned?) = secondCourse.filterMap (·.returned?) ∧
      Emission.sinkCalls (Report.emittedBy (first.runAll firstScript).1) =
        Emission.sinkCalls (Report.emittedBy (second.runAll secondScript).1) ∧
      List.Forall₂ Scope.EqUpToStart firstEnd.scopes secondEnd.scopes ∧
      firstEnd.ticks = secondEnd.ticks ∧ firstEnd.topName = secondEnd.topName) ∧
    (firstChecks.map (·.reading) = secondChecks.map (·.reading) →
      firstChecks = secondChecks) := by
  intro first second firstCourse secondCourse firstEnd secondEnd firstChecks secondChecks
  have firstUnfolds : Unfolds first firstCourse _ := first.course_unfolds firstScript
  have secondUnfolds : Unfolds second secondCourse _ := second.course_unfolds secondScript
  constructor
  · intro sameOperations
    rcases firstUnfolds.sameAccounts secondUnfolds rfl sameOperations rfl with
      ⟨returned, told, accounts⟩
    rw [first.course_emitted, second.course_emitted] at told
    refine ⟨returned, told, ?_, congrArg (·.ticks) accounts, congrArg (·.topName) accounts⟩
    exact Scope.eqUpToStart_of_map (congrArg (·.scopes) accounts)
  · intro sameReadings
    have sampled : ∀ limiter : RateLimited Bool,
        limiter.checks (firstChecks.map (·.reading)) =
          limiter.checks (secondChecks.map (·.reading)) :=
      fun limiter => congrArg limiter.checks sameReadings
    exact firstUnfolds.checks_eq.trans ((sampled _).trans secondUnfolds.checks_eq.symm)

/-- One run checks cancellation and warns where the other does not, and takes its time. A
third one checks as the first does, but with other jobs, and with time that passes while one of
them is closed. -/
theorem jobs_separate_from_cancellation_in_build :
    let config : Config := { Config.default with cancelPollInterval := ⟨10⟩ }
    let clock : Clock := .frozen .zero ⟨99⟩
    let slower : Clock := ⟨.zero, ⟨99⟩, [⟨1⟩]⟩
    let plain : Session NullSink IgnoredWarnings Rat := ofConfig config ⟨⟩ ⟨⟩ slower
    let watched : Session (PolledSink NullSink) RecordedWarnings Rat :=
      ofConfig config (.ofSink ⟨⟩) ⟨[]⟩ clock
    let busy : Session (PolledSink NullSink) RecordedWarnings Rat :=
      ofConfig config (.ofSink ⟨⟩) ⟨[]⟩ slower
    let jobs : List (Script NullSink) :=
      [.call (.openJob "build" 1 4), .call (.step "fetch" "" 1),
        .job "compile" 2 3 [.call (.step "parse" "" 2)] ⟨true, none⟩]
    let checked : List (Script (PolledSink NullSink)) :=
      [.call (.checkCanceled "plan"), .wait ⟨4⟩, .call (.openJob "build" 1 4), .wait ⟨5⟩,
        .call (.step "fetch" "" 1),
        .job "compile" 2 3
          [.touch (·.setCanceled true), .call (.checkCanceled "read"),
            .warn "slow" (.ofUri ⟨"file:///a"⟩), .call (.step "parse" "" 2), .wait ⟨1⟩,
            .call (.checkCanceled "link")] ⟨true, none⟩]
    let others : List (Script (PolledSink NullSink)) :=
      [.call .closeAll, .call (.checkCanceled "one"), .wait ⟨9⟩,
        .job "test" 1 1 [.touch (·.setCanceled true), .call (.checkCanceled "two")] ⟨false, none⟩,
        .call (.checkCanceled "three")]
    let plainEnd := (plain.runAll jobs).2.monitor
    let watchedEnd := (watched.runAll checked).2.monitor
    (plain.course jobs).filterMap (·.returned?) =
        (watched.course checked).filterMap (·.returned?) ∧
      Emission.sinkCalls (Report.emittedBy (plain.runAll jobs).1) =
        Emission.sinkCalls (Report.emittedBy (watched.runAll checked).1) ∧
      List.Forall₂ Scope.EqUpToStart plainEnd.scopes watchedEnd.scopes ∧
      plainEnd.depth = 1 ∧
      (watched.course checked).filterMap (·.check?) =
        (busy.course others).filterMap (·.check?) ∧
      (busy.course others).filterMap (·.check?) =
        [⟨⟨.frozen ⟨0⟩ ⟨99⟩, false⟩, some false, true⟩,
          ⟨⟨.frozen ⟨9⟩ ⟨99⟩, true⟩, some false, false⟩,
          ⟨⟨.frozen ⟨10⟩ ⟨99⟩, true⟩, some true, true⟩] := by
  intro config clock slower plain watched busy jobs checked others plainEnd watchedEnd
  have sameOperations : (plain.course jobs).filterMap (·.operation?) =
      (watched.course checked).filterMap (·.operation?) := by
    decide +kernel +zetaReduce
  have sameReadings : ((watched.course checked).filterMap (·.check?)).map (·.reading) =
      ((busy.course others).filterMap (·.check?)).map (·.reading) := by
    decide +kernel +zetaReduce
  have apart := jobs_separate_from_cancellation (σ := NullSink) (τ := PolledSink NullSink)
    (ω := IgnoredWarnings) (υ := RecordedWarnings) (α := Rat) config ⟨⟩ (.ofSink ⟨⟩) ⟨⟩ ⟨[]⟩
    slower clock jobs checked
  have alike := jobs_separate_from_cancellation (σ := PolledSink NullSink)
    (τ := PolledSink NullSink) (ω := RecordedWarnings) (υ := RecordedWarnings) (α := Rat) config
    (.ofSink ⟨⟩) (.ofSink ⟨⟩) ⟨[]⟩ ⟨[]⟩ clock slower checked others
  rcases apart.1 sameOperations with ⟨returned, told, scopes, _⟩
  have answered := alike.2 sameReadings
  refine ⟨returned, told, ?_, ?_, answered, ?_⟩
  · simpa only [plainEnd, watchedEnd, plain, watched] using scopes
  · decide +kernel +zetaReduce
  · decide +kernel +zetaReduce

end Session

end JobProgress
