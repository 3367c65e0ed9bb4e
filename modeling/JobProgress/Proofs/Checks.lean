import JobProgress.Proofs.Closing
import JobProgress.Proofs.Course
import JobProgress.Proofs.Sampling

/-! Cancellation is checked against a sampler that nothing else touches. So the `checks`
of a run, with the time of each and what its sink would have answered, are those of the
sampler alone, whatever is done between them. -/

namespace JobProgress

structure Check where
  /-- The time, and what the sink would answer if it were asked. -/
  reading : Reading
  /-- What was answered; nothing where the next poll would lie beyond the clock. -/
  answer : Option Bool
  polled : Bool
  deriving DecidableEq, Repr

def RateLimited.sampleAt (limiter : RateLimited Bool) (reading : Reading) :
    RateLimited Bool × Sample Bool :=
  limiter.sample reading.clock.limit reading.now reading.canceled

def RateLimited.checks (limiter : RateLimited Bool) : List Reading → List Check
  | [] => []
  | reading :: readings =>
      let (limiter, sample) := limiter.sampleAt reading
      ⟨reading, sample.value?, sample.didPoll⟩ :: limiter.checks readings

namespace Monitor

variable {α : Type} [Amount α] {monitor final : Monitor α} {sent : List Emission}

theorem Closing.cancelPoll_eq (closing : Closing monitor sent final) :
    final.cancelPoll = monitor.cancelPoll := by
  induction closing with
  | nil => rfl
  | logged _ _ induction => exact induction
  | closeJob now name succeeded stack _ induction =>
      rw [induction, closeJob_of_open stack]

theorem Performs.cancelPoll_eq {reading : Reading} {call : Call} {accepted : Bool}
    (performs : monitor.Performs reading call accepted sent final)
    (other : ∀ name, call ≠ .checkCanceled name) : final.cancelPoll = monitor.cancelPoll := by
  cases performs with
  | refused _ | openRoot _ _ _ _ | openNested _ _ _ _ _ _ _ _ => rfl
  | step name detail share stack => rw [step_of_open stack]
  | reestimate name work stack => rw [reestimate_of_open stack]
  | closeJob _ _ closing | closeAll closing => exact closing.cancelPoll_eq
  | checkCanceled name _ => exact absurd rfl (other name)

theorem perform_checkCanceled (monitor : Monitor α) (reading : Reading) (name : String) :
    let sampled := monitor.cancelPoll.sampleAt reading
    monitor.perform reading (.checkCanceled name) =
      ⟨(match sampled.2.value? with
          | some canceled => .ok (.answer canceled)
          | none => .error .clockOverflow),
        { monitor with cancelPoll := sampled.1 },
        if sampled.2.didPoll then Emission.ofJobEvent (.polled name reading.canceled) else []⟩ := by
  intro sampled
  rw [perform, checkCanceled]
  simp only [sampled, Outcome.map, RateLimited.sampleAt, Reading.now]
  cases (monitor.cancelPoll.sample reading.clock.limit reading.clock.now
    reading.canceled).2.value? <;> rfl

end Monitor

def LogEvent.isPoll : LogEvent → Bool
  | .job (.polled _ _) => true
  | _ => false

def Session.flag {σ ω α : Type} [ProgressSink σ] (session : Session σ ω α) : Bool :=
  (ProgressSink.ask session.sink).2

/-- What a check reads at the present moment, if it asks the sink. It closes no job, so for it
the clock stands still. -/
def Session.present {σ ω α : Type} [ProgressSink σ] (session : Session σ ω α) : Reading :=
  ⟨.frozen session.now session.clock.limit, session.flag⟩

namespace Occurrence

variable {σ ω α : Type} [ProgressSink σ]

def check? (occurrence : Occurrence σ ω α) : Option Check :=
  match occurrence.deed with
  | .call (.checkCanceled _) =>
      some {
        reading := occurrence.before.present
        answer :=
          match occurrence.result with
          | .ok (.answer canceled) => some canceled
          | _ => none
        polled := (Emission.logEvents occurrence.after.emitted).any LogEvent.isPoll }
  | _ => none

theorem check?_reading {occurrence : Occurrence σ ω α} {check : Check}
    (checked : occurrence.check? = some check) : check.reading = occurrence.before.present := by
  rw [check?] at checked
  split at checked <;> cases checked
  rfl

end Occurrence

namespace Session

variable {σ ω α : Type} [ProgressSink σ] [Amount α] {session final : Session σ ω α}
  {occurrence : Occurrence σ ω α} {occurrences : List (Occurrence σ ω α)}

omit [Amount α] in
/-- What a check reads is what the sink would answer, if the sink is asked; and then the
sink takes notice. -/
theorem read_check (session : Session σ ω α) (name : String) :
    let sample := session.monitor.cancelPoll.sampleAt
    let asked := session.read (.checkCanceled name)
    sample asked.2 = sample session.present ∧
      asked.1.sink =
        if (sample session.present).2.didPoll then (ProgressSink.ask session.sink).1
        else session.sink := by
  intro sample asked
  have polls : (sample session.present).2.didPoll =
      session.monitor.cancelPoll.isDue session.now := RateLimited.sample_didPoll ..
  rw [polls]
  cases due : session.monitor.cancelPoll.isDue session.now with
  | true =>
      simp only [asked, read, poll, due, if_true]
      exact ⟨rfl, trivial⟩
  | false =>
      rcases RateLimited.sample_of_not_due due with ⟨window, _, _, cached⟩
      simp only [asked, read, poll, due]
      exact ⟨(cached false).trans (cached session.flag).symm, rfl⟩

theorem perform_check (session : Session σ ω α) (name : String) :
    let sampled := session.monitor.cancelPoll.sampleAt session.present
    let checked := session.perform (.checkCanceled name)
    checked.result =
        (match sampled.2.value? with
          | some canceled => .ok (.answer canceled)
          | none => .error (.call .clockOverflow)) ∧
      checked.last.session.monitor.cancelPoll = sampled.1 ∧
      (Emission.logEvents checked.last.emitted).any LogEvent.isPoll = sampled.2.didPoll ∧
      checked.last.session.sink =
        if sampled.2.didPoll then (ProgressSink.ask session.sink).1 else session.sink := by
  intro sampled checked
  rcases session.read_check name with ⟨same, sink⟩
  have last : checked.last = (session.read (.checkCanceled name)).1.settle
      ((session.read (.checkCanceled name)).1.monitor.perform
        (session.read (.checkCanceled name)).2 (.checkCanceled name)) := rfl
  rw [read_monitor, Monitor.perform_checkCanceled, same] at last
  refine ⟨?_, ?_, ?_, ?_⟩
  · simp only [checked, perform_result, Monitor.perform_checkCanceled, same]
    cases sampled.2.value? <;> rfl
  · rw [last]
    rfl
  · rw [last, settle]
    cases sampled.2.didPoll <;> rfl
  · rw [last, ← sink, settle]
    cases (session.monitor.cancelPoll.sampleAt session.present).2.didPoll <;> rfl

theorem check?_of_perform (session : Session σ ω α) (name : String) :
    let sampled := session.monitor.cancelPoll.sampleAt session.present
    Occurrence.check?
        ⟨session, .call (.checkCanceled name), (session.perform (.checkCanceled name)).result,
          (session.perform (.checkCanceled name)).last⟩ =
      some ⟨session.present, sampled.2.value?, sampled.2.didPoll⟩ := by
  intro sampled
  rcases session.perform_check name with ⟨result, _, polled, _⟩
  simp only [Occurrence.check?, result, polled, sampled]
  cases (session.monitor.cancelPoll.sampleAt session.present).2.value? <;> rfl

theorem Occurs.cancelPoll_of_none (occurs : Occurs occurrence) (other : occurrence.check? = none) :
    occurrence.after.session.monitor.cancelPoll = occurrence.before.monitor.cancelPoll := by
  cases occurs with
  | call session call =>
      rw [perform_monitor]
      apply (session.monitor.perform_performs _ call).cancelPoll_eq
      rintro name rfl
      rw [check?_of_perform] at other
      cases other
  | conclude session job depth result =>
      rw [conclude_monitor]
      exact (session.monitor.conclude_closing session.clock job depth result.isOk).cancelPoll_eq
  | beside _ same _ => rw [same]

theorem Occurs.cancelPoll_of_some {check : Check} (occurs : Occurs occurrence)
    (checks : occurrence.check? = some check) :
    let sampled := occurrence.before.monitor.cancelPoll.sampleAt check.reading
    check = ⟨check.reading, sampled.2.value?, sampled.2.didPoll⟩ ∧
      occurrence.after.session.monitor.cancelPoll = sampled.1 ∧
      occurrence.after.session.sink =
        if check.polled then (ProgressSink.ask occurrence.before.sink).1
        else occurrence.before.sink := by
  cases occurs with
  | call session call =>
      cases call with
      | checkCanceled name =>
          rw [check?_of_perform] at checks
          cases checks
          rcases session.perform_check name with ⟨_, record, _, sink⟩
          exact ⟨rfl, record, sink⟩
      | _ => cases checks
  | conclude session job depth result => cases checks
  | beside _ _ _ => cases checks

theorem Unfolds.checks_eq (unfolds : Unfolds session occurrences final) :
    occurrences.filterMap (·.check?) =
      session.monitor.cancelPoll.checks
        ((occurrences.filterMap (·.check?)).map (·.reading)) := by
  induction unfolds with
  | nil session => rfl
  | @cons occurrence occurrences final occurs _ induction =>
      cases checked : occurrence.check? with
      | none =>
          rw [List.filterMap_cons_none checked, ← occurs.cancelPoll_of_none checked]
          exact induction
      | some check =>
          rcases occurs.cancelPoll_of_some checked with ⟨made, record, _⟩
          rw [List.filterMap_cons_some checked, List.map_cons, RateLimited.checks]
          dsimp only
          rw [← record, ← induction]
          exact congrArg (· :: _) made

end Session

end JobProgress
