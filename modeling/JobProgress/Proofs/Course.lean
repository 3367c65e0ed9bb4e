import JobProgress.Proofs.JobBody

/-! A script is run line by line, and into the bodies of its jobs. The `course` of a run
is flat: it lists one occurrence after another, be it a call with what it returned, the
end of the body of a job, or something that the monitor has no part in. -/

namespace JobProgress

inductive Deed where
  | call (call : Call)
  /-- The body of a job has ended, and the job, then one of `depth`, is closed. -/
  | conclude (job : String) (depth : Nat) (succeeded : Bool)
  /-- The monitor has no part in it. -/
  | beside
  deriving DecidableEq, Repr

structure Occurrence (σ ω α : Type) where
  before : Session σ ω α
  deed : Deed
  result : Except Failure Reply
  after : Moment σ ω α

namespace Report

variable {σ ω α : Type}

def sessionAfter (session : Session σ ω α) (reports : List (Report σ ω α)) : Session σ ω α :=
  (reports.getLast?.map (·.last.session)).getD session

mutual

def course (before : Session σ ω α) : Script σ → Report σ ω α → List (Occurrence σ ω α)
  | .call made, report => [⟨before, .call made, report.result, report.last⟩]
  | .job name share totalWork _ _, .line result after =>
      [⟨before, .call (.openJob name share totalWork), result, after⟩]
  | .job name share totalWork body _, .job result opened reports closed =>
      ⟨before, .call (.openJob name share totalWork), .ok .nothing, opened⟩ ::
        (courseOf opened.session body reports ++
          [⟨sessionAfter opened.session reports,
            .conclude name opened.session.monitor.depth result.isOk, result, closed⟩])
  | .warn _ _, report | .wait _, report | .direct _, report | .touch _, report =>
      [⟨before, .beside, report.result, report.last⟩]

def courseOf (before : Session σ ω α) :
    List (Script σ) → List (Report σ ω α) → List (Occurrence σ ω α)
  | first :: lines, report :: reports =>
      course before first report ++ courseOf report.last.session lines reports
  | _, _ => []

end

end Report

namespace Session

variable {σ ω α : Type} [ProgressSink σ] [Amount α]

def course [WarningSink ω] (session : Session σ ω α) (script : List (Script σ)) :
    List (Occurrence σ ω α) :=
  Report.courseOf session script (session.runAll script).1

/-- The ways in which things come about in a session. What the monitor has no part in
does not turn the clock back. -/
inductive Occurs : Occurrence σ ω α → Prop
  | call (session : Session σ ω α) (call) :
      Occurs ⟨session, .call call, (session.perform call).result, (session.perform call).last⟩
  | conclude (session : Session σ ω α) (job depth result) :
      Occurs ⟨session, .conclude job depth result.isOk, (session.conclude job depth result).1,
        (session.conclude job depth result).2⟩
  | beside {session : Session σ ω α} {result} {after : Moment σ ω α} :
      Emission.sinkCalls after.emitted = [] →
      after.session.monitor = session.monitor →
      session.now ≤ after.session.now →
      Occurs ⟨session, .beside, result, after⟩

inductive Unfolds : Session σ ω α → List (Occurrence σ ω α) → Session σ ω α → Prop
  | nil (session) : Unfolds session [] session
  | cons {occurrence : Occurrence σ ω α} {occurrences final} :
      Occurs occurrence →
      Unfolds occurrence.after.session occurrences final →
      Unfolds occurrence.before (occurrence :: occurrences) final

theorem Occurs.leads {occurrence : Occurrence σ ω α} (occurs : Occurs occurrence) :
    Leads occurrence.before occurrence.after := by
  cases occurs with
  | call session call => exact .perform session call
  | conclude session job depth result => exact .conclude session job depth result
  | beside silent same _ => exact .beside silent same

omit [Amount α] in
@[simp] theorem read_clock (session : Session σ ω α) (call : Call) :
    (session.read call).1.clock = session.clock := by
  cases call with
  | checkCanceled name =>
      simp only [read, poll]
      split <;> rfl
  | _ => rfl

theorem perform_clock (session : Session σ ω α) (call : Call) :
    let after := (session.perform call).last.session
    after.clock = session.clock.afterClosing (session.monitor.depth - after.monitor.depth) := by
  intro after
  have settled : after.clock = (session.read call).1.clock.afterClosing
      ((session.read call).1.monitor.depth - after.monitor.depth) := rfl
  rw [settled, read_clock, read_monitor]

theorem conclude_clock (session : Session σ ω α) (job : String) (depth : Nat)
    (result : Except Failure Reply) :
    let after := (session.conclude job depth result).2.session
    after.clock = session.clock.afterClosing (session.monitor.depth - after.monitor.depth) := by
  intro after
  simp only [after, conclude_last]
  rfl

theorem Occurs.now_le {occurrence : Occurrence σ ω α} (occurs : Occurs occurrence) :
    occurrence.before.now ≤ occurrence.after.session.now := by
  cases occurs with
  | call session call =>
      rw [Session.now, Session.now, perform_clock]
      exact session.clock.now_le_afterClosing _
  | conclude session job depth result =>
      rw [Session.now, Session.now, conclude_clock]
      exact session.clock.now_le_afterClosing _
  | beside _ _ later => exact later

namespace Unfolds

variable {session middle final : Session σ ω α} {occurrence : Occurrence σ ω α}
  {occurrences first second : List (Occurrence σ ω α)}

theorem one (occurs : Occurs occurrence) :
    Unfolds occurrence.before [occurrence] occurrence.after.session :=
  .cons occurs (.nil _)

theorem beside {result : Except Failure Reply} {after : Moment σ ω α}
    (silent : Emission.sinkCalls after.emitted = [])
    (same : after.session.monitor = session.monitor) (later : session.now ≤ after.session.now) :
    Unfolds session [⟨session, .beside, result, after⟩] after.session :=
  .one (.beside silent same later)

theorem append (left : Unfolds session first middle) (right : Unfolds middle second final) :
    Unfolds session (first ++ second) final := by
  induction left with
  | nil => exact right
  | cons occurs _ induction => exact .cons occurs (induction right)

theorem split (unfolds : Unfolds session (first ++ second) final) :
    ∃ middle, Unfolds session first middle ∧ Unfolds middle second final := by
  induction first generalizing session with
  | nil => exact ⟨session, .nil session, unfolds⟩
  | cons occurrence first induction =>
      cases unfolds with
      | cons occurs rest =>
          rcases induction rest with ⟨middle, left, right⟩
          exact ⟨middle, .cons occurs left, right⟩

theorem follows (unfolds : Unfolds session occurrences final) :
    Follows session (occurrences.map (·.after)) final := by
  induction unfolds with
  | nil session => exact .nil session
  | cons occurs _ induction => exact .cons occurs.leads induction

theorem sends (unfolds : Unfolds session occurrences final) :
    Sends session (occurrences.flatMap (·.after.emitted)) final := by
  have sends := unfolds.follows.passes.sends
  rwa [List.flatMap_map] at sends

theorem occurs_of_mem (unfolds : Unfolds session occurrences final)
    {occurrence : Occurrence σ ω α} (member : occurrence ∈ occurrences) : Occurs occurrence := by
  induction unfolds with
  | nil => cases member
  | cons occurs _ induction =>
      rcases List.mem_cons.mp member with rfl | later
      · exact occurs
      · exact induction later

theorem upTo_session (unfolds : Unfolds session occurrences final) :
    (session.upTo (occurrences.map (·.after))).session = final :=
  unfolds.follows.passes.upTo_session

end Unfolds

section Run

variable [WarningSink ω]

theorem runBody_session (session : Session σ ω α) (strict : Bool) (lines : List (Script σ)) :
    (session.runBody strict lines).2.2 =
      Report.sessionAfter session (session.runBody strict lines).1 := by
  induction lines generalizing session with
  | nil => rfl
  | cons line lines induction =>
      rw [runBody.eq_def]
      dsimp only
      split
      · rfl
      · rw [induction]
        simp only [Report.sessionAfter, List.getLast?_cons]
        cases ((session.run line).last.session.runBody strict lines).1.getLast? <;> rfl

omit [WarningSink ω] in
theorem openJob_returns_nothing {session : Session σ ω α} {name : String}
    {share totalWork : UInt32} {reply : Reply}
    (accepted : (session.perform (.openJob name share totalWork)).result = .ok reply) :
    reply = .nothing := by
  rw [perform_result, Monitor.perform, Outcome.map_result] at accepted
  cases result : (session.monitor.openJob (session.read _).2.now name share totalWork).result with
  | error error =>
      rw [result] at accepted
      cases accepted
  | ok _ =>
      rw [result] at accepted
      cases accepted
      rfl

mutual

theorem run_unfolds (session : Session σ ω α) (line : Script σ) :
    Unfolds session (Report.course session line (session.run line))
      (session.run line).last.session := by
  cases line with
  | call call =>
      rw [run]
      exact .one (.call session call)
  | warn message location =>
      exact .beside (Emission.sinkCalls_ofLogEvents _) rfl (Nat.le_refl _)
  | wait duration => exact .beside rfl rfl (Nat.le_add_right _ _)
  | direct call =>
      exact .beside (sinkCalls_deliver session.sink [.foreign call]) rfl (Nat.le_refl _)
  | touch change => exact .beside rfl rfl (Nat.le_refl _)
  | job name share totalWork body ending =>
      have opening : Occurs ⟨session, .call (.openJob name share totalWork), _, _⟩ :=
        .call session (.openJob name share totalWork)
      rw [run]
      dsimp only
      split
      · exact .one opening
      · next reply accepted =>
          rcases Monitor.openJob_opens (accepted_of_perform accepted) with ⟨_, base, stack, _⟩
          have deeper : (session.perform (.openJob name share totalWork)).last.session.monitor.depth
              = base.length + 1 := congrArg List.length stack
          rw [accepted, openJob_returns_nothing accepted] at opening
          let opened := (session.perform (.openJob name share totalWork)).last.session
          let ran := opened.runBody ending.strict body
          let result := bodyResult ending body.length ran.2.1
          -- What the body returned is returned, so the job is closed as the report tells.
          have concluded : Occurs ⟨ran.2.2, .conclude name (base.length + 1) result.isOk, _, _⟩ :=
            .conclude ran.2.2 name (base.length + 1) result
          rw [Report.course, ← runBody_session, deeper, conclude_returns]
          rw [conclude_returns] at concluded
          exact .cons opening ((runBody_unfolds _ ending.strict body).append (.one concluded))

theorem runBody_unfolds (session : Session σ ω α) (strict : Bool) (lines : List (Script σ)) :
    Unfolds session (Report.courseOf session lines (session.runBody strict lines).1)
      (session.runBody strict lines).2.2 := by
  cases lines with
  | nil => exact .nil session
  | cons line lines =>
      have running := session.run_unfolds line
      rw [runBody.eq_def]
      dsimp only
      split
      · simpa [Report.courseOf] using running
      · exact running.append ((session.run line).last.session.runBody_unfolds strict lines)

end

mutual

theorem run_course_moments (session : Session σ ω α) (line : Script σ) :
    (Report.course session line (session.run line)).map (·.after) =
      (session.run line).moments := by
  cases line with
  | job name share totalWork body ending =>
      rw [run]
      dsimp only
      split
      · rfl
      · simp only [Report.course, Report.moments, List.map_cons, List.map_append, List.map_nil]
        rw [runBody_course_moments]
  | _ => rfl

theorem runBody_course_moments (session : Session σ ω α) (strict : Bool)
    (lines : List (Script σ)) :
    (Report.courseOf session lines (session.runBody strict lines).1).map (·.after) =
      Report.momentsOf (session.runBody strict lines).1 := by
  cases lines with
  | nil => rfl
  | cons line lines =>
      have first := session.run_course_moments line
      rw [runBody.eq_def]
      dsimp only
      split
      · simpa [Report.courseOf, Report.momentsOf] using first
      · rw [Report.courseOf, Report.momentsOf, List.map_append, first,
          runBody_course_moments]

end

theorem course_moments (session : Session σ ω α) (script : List (Script σ)) :
    (session.course script).map (·.after) = Report.momentsOf (session.runAll script).1 :=
  session.runBody_course_moments false script

theorem course_emitted (session : Session σ ω α) (script : List (Script σ)) :
    (session.course script).flatMap (·.after.emitted) =
      Report.emittedBy (session.runAll script).1 := by
  rw [← Report.flatMap_momentsOf, ← session.course_moments script, List.flatMap_map]

theorem course_unfolds (session : Session σ ω α) (script : List (Script σ)) :
    Unfolds session (session.course script) (session.runAll script).2 :=
  session.runBody_unfolds false script

end Run

end Session

end JobProgress
