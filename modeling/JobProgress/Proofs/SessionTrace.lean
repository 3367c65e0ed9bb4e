import JobProgress.Proofs.Trace
import JobProgress.Session

/-! A session does nothing to its monitor but by moves, also where bodies of
jobs are run inside one another and closed. What the sink is told by the monitor
in a session, from one moment to the next, is what a trace of the monitor sends
out. -/

namespace JobProgress

namespace Report

variable {σ ω α : Type}

mutual

def moments : Report σ ω α → List (Moment σ ω α)
  | .line _ after => [after]
  | .job _ opened body closed => opened :: (momentsOf body ++ [closed])

def momentsOf : List (Report σ ω α) → List (Moment σ ω α)
  | [] => []
  | report :: reports => report.moments ++ momentsOf reports

end

mutual

theorem flatMap_moments (report : Report σ ω α) :
    report.moments.flatMap (·.emitted) = report.emitted := by
  cases report with
  | line result after => simp [moments, emitted]
  | job result opened body closed =>
      simp [moments, emitted, flatMap_momentsOf body]

theorem flatMap_momentsOf (reports : List (Report σ ω α)) :
    (momentsOf reports).flatMap (·.emitted) = emittedBy reports := by
  cases reports with
  | nil => rfl
  | cons report reports =>
      simp [momentsOf, emittedBy, flatMap_moments report, flatMap_momentsOf reports]

end

end Report

namespace Session

variable {σ ω α : Type}

/-- Everything sent out over moments of a session, and the session at the last of
them. -/
def upTo (session : Session σ ω α) (moments : List (Moment σ ω α)) : Moment σ ω α where
  emitted := moments.flatMap (·.emitted)
  session := (moments.getLast?.map (·.session)).getD session

/-- The monitor of a session becomes that of `next` by calls, and what it tells
its sink meanwhile are the calls among `emitted`. -/
structure Sends [Amount α] (session : Session σ ω α) (emitted : List Emission)
    (next : Session σ ω α) : Prop where
  traced : ∃ sent, Monitor.Trace session.monitor sent next.monitor ∧
    Emission.sinkCalls sent = Emission.sinkCalls emitted
  reachable : session.monitor.Reachable → next.monitor.Reachable

namespace Sends

variable [Amount α] {session middle next : Session σ ω α} {first second : List Emission}

theorem still (silent : Emission.sinkCalls first = [])
    (same : next.monitor = session.monitor) : Sends session first next where
  traced := ⟨[], same ▸ .nil _, silent.symm⟩
  reachable := fun reachable => same ▸ reachable

theorem append (left : Sends session first middle) (right : Sends middle second next) :
    Sends session (first ++ second) next where
  traced := by
    rcases left.traced with ⟨leftSent, leftTrace, leftCalls⟩
    rcases right.traced with ⟨rightSent, rightTrace, rightCalls⟩
    exact ⟨leftSent ++ rightSent, leftTrace.append rightTrace, by simp [leftCalls, rightCalls]⟩
  reachable := fun start => right.reachable (left.reachable start)

end Sends

inductive Passes [Amount α] : Session σ ω α → List (Moment σ ω α) → Session σ ω α → Prop
  | nil (session) : Passes session [] session
  | cons {session moment moments final} :
      Sends session moment.emitted moment.session →
      Passes moment.session moments final →
      Passes session (moment :: moments) final

namespace Passes

variable [Amount α] {session final : Session σ ω α}
  {moments first second : List (Moment σ ω α)}

theorem split (passes : Passes session (first ++ second) final) :
    ∃ middle, Passes session first middle ∧ Passes middle second final := by
  induction first generalizing session with
  | nil => exact ⟨session, .nil session, passes⟩
  | cons moment first induction =>
      cases passes with
      | cons sends rest =>
          rcases induction rest with ⟨middle, left, right⟩
          exact ⟨middle, .cons sends left, right⟩

theorem sends (passes : Passes session moments final) :
    Sends session (moments.flatMap (·.emitted)) final := by
  induction passes with
  | nil session => exact .still rfl rfl
  | cons sends _ induction => exact sends.append induction

theorem upTo_session (passes : Passes session moments final) :
    (session.upTo moments).session = final := by
  induction passes with
  | nil session => rfl
  | @cons session moment moments final _ _ induction =>
      rw [← induction]
      cases moments <;> simp [upTo, List.getLast?_cons]

end Passes

section Deliver

variable [ProgressSink σ]

theorem sinkCalls_deliver (sink : σ) (emissions : List Emission) :
    Emission.sinkCalls (deliver sink emissions).2 = Emission.sinkCalls emissions := by
  induction emissions generalizing sink with
  | nil => rfl
  | cons emission emissions induction =>
      cases emission with
      | call call =>
          simp only [deliver, Emission.sinkCalls_append, Emission.sinkCalls_ofSinkEvents,
            List.cons_append, Emission.sinkCalls_cons_call, List.nil_append]
          rw [induction]
      | «foreign» call =>
          simp only [deliver, Emission.sinkCalls_append, Emission.sinkCalls_ofSinkEvents,
            List.cons_append, Emission.sinkCalls_cons_foreign, List.nil_append]
          rw [induction]
      | event event =>
          simp only [deliver, Emission.sinkCalls_cons_event]
          rw [induction]

def handed (sink : σ) (calls : List SinkCall) : σ :=
  calls.foldl (fun sink call => (ProgressSink.receive sink call).1) sink

theorem deliver_sink (sink : σ) (emissions : List Emission) :
    (deliver sink emissions).1 = handed sink (Emission.received emissions) := by
  induction emissions generalizing sink with
  | nil => rfl
  | cons emission emissions induction => cases emission <;> exact induction _

theorem received_deliver (sink : σ) (emissions : List Emission) :
    Emission.received (deliver sink emissions).2 = Emission.received emissions := by
  induction emissions generalizing sink with
  | nil => rfl
  | cons emission emissions induction =>
      have passed : Emission.received (deliver sink (emission :: emissions)).2 =
          Emission.received [emission] ++ Emission.received emissions := by
        cases emission with
        | event event => exact induction sink
        | call call | «foreign» call =>
            rw [← induction (ProgressSink.receive sink call).1]
            change _ :: Emission.received (Emission.ofSinkEvents _ ++ _) = _
            rw [Emission.received_append, Emission.received_ofSinkEvents]
            rfl
      rw [passed, ← Emission.received_append]
      rfl

@[simp] theorem read_monitor (session : Session σ ω α) (call : Call) :
    (session.read call).1.monitor = session.monitor := by
  cases call with
  | checkCanceled name =>
      simp only [read, poll]
      split <;> rfl
  | _ => rfl

theorem settle_calls (session : Session σ ω α) {ρ : Type} (outcome : Outcome α ρ) :
    Emission.sinkCalls (session.settle outcome).emitted = Emission.sinkCalls outcome.emitted :=
  sinkCalls_deliver session.sink outcome.emitted

theorem settle_sink (session : Session σ ω α) {ρ : Type} (outcome : Outcome α ρ) :
    (session.settle outcome).session.sink =
      handed session.sink (Emission.received (session.settle outcome).emitted) := by
  have sent : (session.settle outcome).emitted = (deliver session.sink outcome.emitted).2 := rfl
  rw [sent, received_deliver, ← deliver_sink]
  rfl

variable [Amount α]

theorem perform_last (session : Session σ ω α) (call : Call) :
    (session.perform call).last =
      (session.read call).1.settle (session.monitor.perform (session.read call).2 call) := by
  rw [← session.read_monitor call]
  rfl

theorem perform_monitor (session : Session σ ω α) (call : Call) :
    (session.perform call).last.session.monitor =
      (session.monitor.perform (session.read call).2 call).monitor := by
  rw [perform_last]
  rfl

theorem perform_result (session : Session σ ω α) (call : Call) :
    (session.perform call).result =
      (session.monitor.perform (session.read call).2 call).result.mapError .call := by
  rw [← session.read_monitor call]
  rfl

theorem perform_calls (session : Session σ ω α) (call : Call) :
    Emission.sinkCalls (session.perform call).last.emitted =
      Emission.sinkCalls (session.monitor.perform (session.read call).2 call).emitted := by
  rw [perform_last]
  exact settle_calls _ _

theorem perform_sends (session : Session σ ω α) (call : Call) :
    Sends session (session.perform call).emitted (session.perform call).last.session := by
  have trace := session.monitor.perform_trace (session.read call).2 call
  have monitor := session.perform_monitor call
  refine ⟨⟨_, monitor ▸ trace, (session.perform_calls call).symm⟩, fun reachable => ?_⟩
  rw [monitor]
  exact .perform (session.read call).2 call reachable

theorem conclude_last (session : Session σ ω α) (job : String) (depth : Nat)
    (result : Except Failure Reply) :
    (session.conclude job depth result).2 =
      session.settle (session.monitor.conclude session.clock job depth result.isOk) := by
  rw [conclude]
  split <;> rfl

theorem conclude_monitor (session : Session σ ω α) (job : String) (depth : Nat)
    (result : Except Failure Reply) :
    (session.conclude job depth result).2.session.monitor =
      (session.monitor.conclude session.clock job depth result.isOk).monitor := by
  rw [conclude_last]
  rfl

theorem conclude_calls (session : Session σ ω α) (job : String) (depth : Nat)
    (result : Except Failure Reply) :
    Emission.sinkCalls (session.conclude job depth result).2.emitted =
      Emission.sinkCalls
        (session.monitor.conclude session.clock job depth result.isOk).emitted := by
  rw [conclude_last]
  exact settle_calls session _

theorem conclude_sends (session : Session σ ω α) (job : String) (depth : Nat)
    (result : Except Failure Reply) :
    Sends session (session.conclude job depth result).2.emitted
      (session.conclude job depth result).2.session := by
  have trace := session.monitor.conclude_trace session.clock job depth result.isOk
  have monitor := session.conclude_monitor job depth result
  refine ⟨⟨_, monitor ▸ trace, (session.conclude_calls job depth result).symm⟩,
    fun reachable => ?_⟩
  rw [monitor]
  exact .conclude session.clock job depth result.isOk reachable

/-- What leads a session to its next moment: a call, the end of the body of a job, or
something that its monitor has no part in. -/
inductive Leads : Session σ ω α → Moment σ ω α → Prop
  | perform (session : Session σ ω α) (call) : Leads session (session.perform call).last
  | conclude (session : Session σ ω α) (job depth result) :
      Leads session (session.conclude job depth result).2
  | beside {session : Session σ ω α} {moment : Moment σ ω α} :
      Emission.sinkCalls moment.emitted = [] →
      moment.session.monitor = session.monitor →
      Leads session moment

theorem Leads.sends {session : Session σ ω α} {moment : Moment σ ω α}
    (leads : Leads session moment) : Sends session moment.emitted moment.session := by
  cases leads with
  | perform call => exact session.perform_sends call
  | conclude job depth result => exact session.conclude_sends job depth result
  | beside silent same => exact .still silent same

inductive Follows : Session σ ω α → List (Moment σ ω α) → Session σ ω α → Prop
  | nil (session) : Follows session [] session
  | cons {session : Session σ ω α} {moment : Moment σ ω α} {moments final} :
      Leads session moment →
      Follows moment.session moments final →
      Follows session (moment :: moments) final

namespace Follows

variable {session middle final : Session σ ω α} {moments first second : List (Moment σ ω α)}
  {moment : Moment σ ω α}

theorem one (leads : Leads session moment) : Follows session [moment] moment.session :=
  .cons leads (.nil _)

theorem append (left : Follows session first middle) (right : Follows middle second final) :
    Follows session (first ++ second) final := by
  induction left with
  | nil => exact right
  | cons leads _ induction => exact .cons leads (induction right)

theorem passes (follows : Follows session moments final) : Passes session moments final := by
  induction follows with
  | nil session => exact .nil session
  | cons leads _ induction => exact .cons leads.sends induction

end Follows

end Deliver

section Run

variable [ProgressSink σ] [WarningSink ω] [Amount α]

mutual

theorem run_follows (session : Session σ ω α) (line : Script σ) :
    Follows session (session.run line).moments (session.run line).last.session := by
  cases line with
  | call call =>
      rw [run]
      exact .one (.perform session call)
  | warn message location =>
      refine .one (.beside ?_ rfl)
      simp
  | wait duration => exact .one (.beside rfl rfl)
  | direct call =>
      refine .one (.beside ?_ rfl)
      exact sinkCalls_deliver session.sink [.foreign call]
  | touch change => exact .one (.beside rfl rfl)
  | job name share totalWork body ending =>
      have opening : Leads session (session.perform (.openJob name share totalWork)).last :=
        .perform session _
      rw [run]
      dsimp only
      split
      · exact .one opening
      · exact .cons opening
          ((runBody_follows _ ending.strict body).append (.one (.conclude _ name _ _)))

theorem runBody_follows (session : Session σ ω α) (strict : Bool) (lines : List (Script σ)) :
    Follows session (Report.momentsOf (session.runBody strict lines).1)
      (session.runBody strict lines).2.2 := by
  cases lines with
  | nil => exact .nil session
  | cons line lines =>
      have running := session.run_follows line
      rw [runBody.eq_def]
      dsimp only
      split
      · simpa [Report.momentsOf] using running
      · exact running.append ((session.run line).last.session.runBody_follows strict lines)

end

theorem runBody_passes (session : Session σ ω α) (strict : Bool) (lines : List (Script σ)) :
    Passes session (Report.momentsOf (session.runBody strict lines).1)
      (session.runBody strict lines).2.2 :=
  (session.runBody_follows strict lines).passes

theorem runBody_sends (session : Session σ ω α) (strict : Bool) (lines : List (Script σ)) :
    Sends session (Report.emittedBy (session.runBody strict lines).1)
      (session.runBody strict lines).2.2 := by
  rw [← Report.flatMap_momentsOf]
  exact (session.runBody_passes strict lines).sends

theorem upTo_sends {session : Session σ ω α} {script : List (Script σ)}
    {earlier later : List (Moment σ ω α)}
    (moments : Report.momentsOf (session.runAll script).1 = earlier ++ later) :
    Sends session (session.upTo earlier).emitted (session.upTo earlier).session := by
  have passes := session.runBody_passes false script
  change Passes session (Report.momentsOf (session.runAll script).1) _ at passes
  rw [moments] at passes
  rcases passes.split with ⟨middle, before, _⟩
  rw [before.upTo_session]
  exact before.sends

end Run

end Session

end JobProgress
