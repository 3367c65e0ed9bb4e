import JobProgress.Proofs.WorkLeft

/-! A call is refused where no job is open for it, or where a nested job asks for
more than the job around it has left by its own counter. A refused call leaves
everything as it was: the monitor, its sink, and what the sink has heard. -/

namespace JobProgress

/-- The work that a job can grant, by its own counter. -/
def Scope.grantable {α : Type} (scope : Scope α) (overrunWork : Nat) : Nat :=
  if scope.workRemaining = 0 then overrunWork else scope.workRemaining

namespace Monitor

variable {α : Type} {monitor : Monitor α} {call : Call} {error : CallError}

/-- A call that has to fail, with the error it has to fail with. -/
inductive Refuses (monitor : Monitor α) : Call → CallError → Prop
  | step (name detail share) :
      monitor.scopes = [] →
      Refuses monitor (.step name detail share) (.noOpenJob "job_step")
  | reestimate (name work) :
      monitor.scopes = [] →
      Refuses monitor (.reestimate name work) (.noOpenJob "job_todo")
  | closeJob (name succeeded) :
      monitor.scopes = [] →
      Refuses monitor (.closeJob name succeeded) .unbalancedEnd
  | openJob {parent outer} (name) (share totalWork : UInt32) :
      monitor.scopes = parent :: outer →
      monitor.config.sharePolicy = .reject →
      parent.grantable monitor.overrunWork < share.toNat →
      Refuses monitor (.openJob name share totalWork)
        (.shareExceedsRemaining name share.toNat (parent.grantable monitor.overrunWork))

theorem Reachable.shareLimit_eq_grantable {parent : Scope α} {outer : List (Scope α)}
    [Amount α] (reachable : monitor.Reachable) (stack : monitor.scopes = parent :: outer) :
    parent.shareLimit monitor.overrunWork = parent.grantable monitor.overrunWork :=
  (reachable.allTally.of_cons stack).1.shareLimit_eq_workRemaining monitor.overrunWork

variable [Amount α]

theorem refuses_of_error (reachable : monitor.Reachable) (reading : Reading)
    (asks : ∀ name, call ≠ .checkCanceled name)
    (failed : (monitor.perform reading call).result = .error error) :
    monitor.Refuses call error := by
  cases call with
  | openJob name share totalWork =>
      rcases monitor.openJob_cases reading.now name share totalWork with
        ⟨_, equal⟩ | ⟨_, _, _, _, equal⟩ | ⟨_, _, _, _, _, equal⟩ |
        ⟨parent, outer, stack, excess, policy, equal⟩
      · rw [perform, equal] at failed
        cases failed
      · rw [perform, equal] at failed
        cases failed
      · rw [perform, equal] at failed
        cases failed
      · rw [perform, equal] at failed
        cases failed
        rw [reachable.shareLimit_eq_grantable stack] at excess ⊢
        exact .openJob name share totalWork stack policy excess
  | step name detail share =>
      cases stack : monitor.scopes with
      | nil =>
          rw [perform, step_of_idle stack] at failed
          cases failed
          exact .step name detail share stack
      | cons scope outer =>
          rw [perform, step_of_open stack] at failed
          cases failed
  | reestimate name work =>
      cases stack : monitor.scopes with
      | nil =>
          rw [perform, reestimate_of_idle stack] at failed
          cases failed
          exact .reestimate name work stack
      | cons scope outer =>
          rw [perform, reestimate_of_open stack] at failed
          cases failed
  | closeJob name succeeded =>
      cases stack : monitor.scopes with
      | nil =>
          rw [perform, closeJob_of_idle stack] at failed
          cases failed
          exact .closeJob name succeeded stack
      | cons scope outer =>
          rw [perform, closeJob_of_open stack] at failed
          cases failed
  | closeAll =>
      rcases monitor.closeAll_idle reading.clock with ⟨_, units, accepted⟩
      rw [perform, Outcome.map_result, accepted] at failed
      cases failed
  | checkCanceled name => exact absurd rfl (asks name)

def refusalLog : Call → List LogEvent
  | .closeJob name _ => [.job (.unbalancedEnd name)]
  | _ => []

theorem Refuses.perform_eq (refuses : monitor.Refuses call error) (reachable : monitor.Reachable)
    (reading : Reading) :
    monitor.perform reading call = ⟨.error error, monitor, (refusalLog call).map .event⟩ := by
  cases refuses with
  | step name detail share idle =>
      rw [perform, step_of_idle idle]
      rfl
  | reestimate name work idle =>
      rw [perform, reestimate_of_idle idle]
      rfl
  | closeJob name succeeded idle =>
      rw [perform, closeJob_of_idle idle]
      rfl
  | openJob name share totalWork stack policy excess =>
      rw [← reachable.shareLimit_eq_grantable stack] at excess ⊢
      have unfit := Nat.not_le_of_lt excess
      simp only [perform, Monitor.openJob, stack, unfit, policy, if_false]
      rfl

omit [Amount α] in
theorem Refuses.not_checkCanceled (refuses : monitor.Refuses call error) (name : String) :
    call ≠ .checkCanceled name := by
  intro asks
  subst asks
  cases refuses

end Monitor

namespace Session

variable {σ ω α : Type} [ProgressSink σ]

@[simp] theorem deliver_events (sink : σ) (events : List LogEvent) :
    deliver sink (events.map .event) = (sink, events.map .event) := by
  induction events with
  | nil => rfl
  | cons event events induction => rw [List.map_cons, deliver, induction]

theorem read_of_job (session : Session σ ω α) {call : Call}
    (asks : ∀ name, call ≠ .checkCanceled name) :
    session.read call = (session, ⟨session.clock, false⟩) := by
  cases call with
  | checkCanceled name => exact absurd rfl (asks name)
  | _ => rfl

variable [Amount α] {session : Session σ ω α} {call : Call} {error : CallError}

theorem perform_of_refuses (refuses : session.monitor.Refuses call error)
    (reachable : session.monitor.Reachable) :
    session.perform call =
      .line (.error (.call error)) ⟨(Monitor.refusalLog call).map .event, session⟩ := by
  rw [perform, read_of_job session refuses.not_checkCanceled]
  dsimp only
  rw [refuses.perform_eq reachable]
  simp only [settle, deliver_events, Nat.sub_self, Clock.afterClosing_zero]
  rfl

theorem refuses_of_perform (reachable : session.monitor.Reachable)
    (asks : ∀ name, call ≠ .checkCanceled name)
    (failed : (session.perform call).result = .error (.call error)) :
    session.monitor.Refuses call error := by
  rw [perform, read_of_job session asks] at failed
  change (session.monitor.perform ⟨session.clock, false⟩ call).result.mapError Failure.call =
    .error (.call error) at failed
  apply Monitor.refuses_of_error reachable ⟨session.clock, false⟩ asks
  cases result : (session.monitor.perform ⟨session.clock, false⟩ call).result with
  | error other =>
      rw [result] at failed
      cases failed
      rfl
  | ok reply =>
      rw [result] at failed
      cases failed

variable [WarningSink ω]

/-- Calls fail exactly where they are refused, with the error they are refused
with. Neither the monitor nor its sink takes part in a refused call, and a job
that is refused does not run its body, whatever it is. -/
theorem fails_iff_refused (reachable : session.monitor.Reachable) :
    (∀ call error, (∀ name, call ≠ .checkCanceled name) →
      ((session.perform call).result = .error (.call error) ↔
        session.monitor.Refuses call error)) ∧
    (∀ call error, session.monitor.Refuses call error →
      (session.perform call).last.session = session ∧
        Emission.received (session.perform call).emitted = []) ∧
    ∀ name share totalWork error,
      session.monitor.Refuses (.openJob name share totalWork) error →
      ∀ body ending, session.run (.job name share totalWork body ending) =
        .line (.error (.call error)) ⟨[], session⟩ := by
  refine ⟨?_, ?_, ?_⟩
  · intro call error asks
    constructor
    · exact refuses_of_perform reachable asks
    · intro refuses
      rw [perform_of_refuses refuses reachable]
      rfl
  · intro call error refuses
    rw [perform_of_refuses refuses reachable]
    refine ⟨rfl, ?_⟩
    exact Emission.received_ofLogEvents _
  · intro name share totalWork error refuses body ending
    rw [run, perform_of_refuses refuses reachable]
    rfl

/-- Four of ten units are done, so a nested job cannot have seven. -/
theorem fails_iff_refused_of_oversized_share :
    let config : Config := { Config.default with sharePolicy := .reject }
    let reading : Reading := ⟨.frozen .zero .zero, false⟩
    let opened := ((Monitor.ofConfig config : Monitor Rat).perform reading
      (.openJob "build" 1 10)).monitor
    let parsed := (opened.perform reading (.step "parse" "" 4)).monitor
    let checked := (parsed.perform reading (.step "check" "" 9)).monitor
    let session : Session NullSink IgnoredWarnings Rat := ⟨checked, ⟨⟩, ⟨⟩, reading.clock⟩
    let error : CallError := .shareExceedsRemaining "compile" 7 6
    session.monitor.Reachable ∧
      (session.perform (.openJob "compile" 7 5)).result = .error (.call error) ∧
      (session.perform (.openJob "compile" 7 5)).last.session = session ∧
      session.run (.job "compile" 7 5 [.call (.step "link" "" 1)] ⟨true, none⟩) =
        .line (.error (.call error)) ⟨[], session⟩ := by
  intro config reading opened parsed checked session error
  have reachable : session.monitor.Reachable :=
    .perform _ _ (.perform _ _ (.perform _ _ (.ofConfig config)))
  have failed : (session.perform (.openJob "compile" 7 5)).result = .error (.call error) := rfl
  rcases fails_iff_refused reachable with ⟨exactly, unchanged, unopened⟩
  have refuses := (exactly _ error fun name => Call.noConfusion).mp failed
  exact ⟨reachable, failed, (unchanged _ error refuses).1, unopened _ _ _ error refuses _ _⟩

end Session

end JobProgress
