import JobProgress.Proofs.Locality
import JobProgress.Proofs.Refusal

/-! A monitor that rejects shares that are too large and one that clamps them part
ways only at such a share. A job that is rejected leaves no trace, so a run of the
rejecting monitor is one of the clamping monitor with the rejected jobs left out,
and nothing is left to clamp. -/

namespace JobProgress

def Emission.Clamps : Emission → Prop
  | .event (.job (.shareClamped _ _ _ _)) => True
  | .event (.job (.started _ _ (some granted) _)) => granted.share ≠ granted.requested
  | _ => False

theorem Emission.forall_not_clamps {calls : List SinkCall} {event : JobEvent}
    (unclamped : ¬Emission.Clamps (.event (.job event))) :
    ∀ emission ∈ ofCalls calls ++ ofJobEvent event, ¬emission.Clamps := by
  refine List.forall_mem_append.mpr ⟨?_, List.forall_mem_singleton.mpr unclamped⟩
  intro emission member
  rcases List.mem_map.mp member with ⟨call, _, rfl⟩
  exact not_false

namespace Outcome

variable {α ρ τ : Type}

def isRejected (outcome : Outcome α ρ) : Bool :=
  match outcome.result with
  | .error (.shareExceedsRemaining _ _ _) => true
  | _ => false

end Outcome

namespace Monitor

variable {α : Type}

def underPolicy (policy : SharePolicy) (monitor : Monitor α) : Monitor α :=
  { monitor with config := { monitor.config with sharePolicy := policy } }

end Monitor

namespace Outcome

variable {α ρ τ : Type}

def underPolicy (policy : SharePolicy) (outcome : Outcome α ρ) : Outcome α ρ :=
  { outcome with monitor := outcome.monitor.underPolicy policy }

end Outcome

namespace Monitor

variable {α : Type} [Amount α] {monitor : Monitor α}

theorem closeJob_underPolicy (policy : SharePolicy) (monitor : Monitor α) (now : Instant)
    (name : String) (succeeded : Bool) :
    (monitor.underPolicy policy).closeJob now name succeeded =
      (monitor.closeJob now name succeeded).underPolicy policy := by
  cases stack : monitor.scopes with
  | nil =>
      have sameStack : (monitor.underPolicy policy).scopes = [] := stack
      rw [closeJob_of_idle stack, closeJob_of_idle sameStack]
      rfl
  | cons scope outer =>
      have sameStack : (monitor.underPolicy policy).scopes = scope :: outer := stack
      rw [closeJob_of_open stack, closeJob_of_open sameStack]
      rfl

theorem closeInnermost_underPolicy (policy : SharePolicy) (monitor : Monitor α) (clock : Clock)
    (worked count : Nat) :
    (monitor.underPolicy policy).closeInnermost clock worked count =
      (monitor.closeInnermost clock worked count).underPolicy policy := by
  induction count generalizing monitor clock worked with
  | zero => rfl
  | succ count induction =>
      have sameJob : (monitor.underPolicy policy).currentJob = monitor.currentJob := rfl
      rw [closeInnermost, closeInnermost, sameJob]
      cases monitor.currentJob with
      | none => rfl
      | some name =>
          dsimp only
          rw [closeJob_underPolicy]
          cases result : (monitor.closeJob clock.now name false).result with
          | error error => simp only [Outcome.underPolicy, result]
          | ok units =>
              simp only [Outcome.underPolicy, result, induction]
              rfl

theorem perform_underPolicy (policy : SharePolicy)
    (rejecting : monitor.config.sharePolicy = .reject) (reading : Reading) (call : Call)
    (accepted : (monitor.perform reading call).isRejected = false) :
    (monitor.underPolicy policy).perform reading call =
      (monitor.perform reading call).underPolicy policy := by
  cases call with
  | openJob name share totalWork =>
      rcases monitor.openJob_cases reading.now name share totalWork with
        ⟨idle, equal⟩ | ⟨parent, outer, stack, fits, equal⟩ | ⟨_, _, _, _, clamping, _⟩ |
        ⟨_, _, _, _, _, equal⟩
      · have stillIdle : (monitor.underPolicy policy).scopes = [] := idle
        rw [perform, perform, equal, openJob_of_idle stillIdle]
        rfl
      · have sameStack : (monitor.underPolicy policy).scopes = parent :: outer := stack
        have sameLimit : share.toNat ≤
            parent.shareLimit (monitor.underPolicy policy).overrunWork := fits
        rw [perform, perform, equal, openJob_of_fits sameStack sameLimit]
        rfl
      · cases rejecting.symm.trans clamping
      · rw [perform, equal] at accepted
        cases accepted
  | step name detail share =>
      cases stack : monitor.scopes with
      | nil =>
          have stillIdle : (monitor.underPolicy policy).scopes = [] := stack
          rw [perform, perform, step_of_idle stack, step_of_idle stillIdle]
          rfl
      | cons scope outer =>
          have sameStack : (monitor.underPolicy policy).scopes = scope :: outer := stack
          rw [perform, perform, step_of_open stack, step_of_open sameStack]
          rfl
  | reestimate name work =>
      cases stack : monitor.scopes with
      | nil =>
          have stillIdle : (monitor.underPolicy policy).scopes = [] := stack
          rw [perform, perform, reestimate_of_idle stack, reestimate_of_idle stillIdle]
          rfl
      | cons scope outer =>
          have sameStack : (monitor.underPolicy policy).scopes = scope :: outer := stack
          rw [perform, perform, reestimate_of_open stack, reestimate_of_open sameStack]
          rfl
  | closeJob name succeeded =>
      rw [perform, closeJob_underPolicy]
      rfl
  | closeAll =>
      rw [perform, closeAll, closeInnermost_underPolicy]
      rfl
  | checkCanceled name => rfl

/-! ## Under the rejecting policy -/

theorem checkCanceled_not_rejected (monitor : Monitor α) (reading : Reading) (name : String) :
    (monitor.perform reading (.checkCanceled name)).isRejected = false := by
  rw [Outcome.isRejected, perform, Outcome.map_result, checkCanceled]
  dsimp only
  cases (monitor.cancelPoll.sample reading.clock.limit reading.clock.now
    reading.canceled).2.value? <;> rfl

theorem Reachable.perform_of_rejected (reachable : monitor.Reachable) {reading : Reading}
    {call : Call} (rejected : (monitor.perform reading call).isRejected = true) :
    (monitor.perform reading call).monitor = monitor ∧
      (monitor.perform reading call).emitted = [] := by
  have asks : ∀ name, call ≠ .checkCanceled name := by
    rintro name rfl
    cases rejected.symm.trans (monitor.checkCanceled_not_rejected reading name)
  cases failed : (monitor.perform reading call).result with
  | ok reply =>
      rw [Outcome.isRejected, failed] at rejected
      cases rejected
  | error error =>
      have refuses := refuses_of_error reachable reading asks failed
      rw [refuses.perform_eq reachable reading] at rejected ⊢
      cases refuses with
      | openJob name share totalWork _ _ _ => exact ⟨rfl, rfl⟩
      | step name detail share _ => cases rejected
      | reestimate name work _ => cases rejected
      | closeJob name succeeded _ => cases rejected

theorem closeJob_not_clamps (monitor : Monitor α) (now : Instant) (name : String)
    (succeeded : Bool) :
    ∀ emission ∈ (monitor.closeJob now name succeeded).emitted, ¬emission.Clamps := by
  cases stack : monitor.scopes with
  | nil =>
      rw [closeJob_of_idle stack]
      exact @Emission.forall_not_clamps [] _ not_false
  | cons scope outer =>
      rw [closeJob_of_open stack]
      exact Emission.forall_not_clamps not_false

theorem closeInnermost_not_clamps (monitor : Monitor α) (clock : Clock) (worked count : Nat) :
    ∀ emission ∈ (monitor.closeInnermost clock worked count).emitted, ¬emission.Clamps := by
  induction count generalizing monitor clock worked with
  | zero => exact List.forall_mem_nil _
  | succ count induction =>
      rw [closeInnermost]
      split
      · exact List.forall_mem_nil _
      · next name _ =>
          have closing := monitor.closeJob_not_clamps clock.now name false
          dsimp only
          split
          · exact closing
          · next units _ => exact List.forall_mem_append.mpr ⟨closing, induction _ _ units⟩

theorem perform_not_clamps (rejecting : monitor.config.sharePolicy = .reject) (reading : Reading)
    (call : Call) :
    ∀ emission ∈ (monitor.perform reading call).emitted, ¬emission.Clamps := by
  cases call with
  | openJob name share totalWork =>
      rcases monitor.openJob_cases reading.now name share totalWork with
        ⟨_, equal⟩ | ⟨parent, outer, _, _, equal⟩ | ⟨_, _, _, _, clamping, _⟩ |
        ⟨_, _, _, _, _, equal⟩
      · rw [perform, equal]
        exact Emission.forall_not_clamps not_false
      · rw [perform, equal]
        exact Emission.forall_not_clamps fun different => different rfl
      · cases rejecting.symm.trans clamping
      · rw [perform, equal]
        exact List.forall_mem_nil _
  | step name detail share =>
      cases stack : monitor.scopes with
      | nil =>
          rw [perform, step_of_idle stack]
          exact List.forall_mem_nil _
      | cons scope outer =>
          rw [perform, step_of_open stack]
          exact Emission.forall_not_clamps not_false
  | reestimate name work =>
      cases stack : monitor.scopes with
      | nil =>
          rw [perform, reestimate_of_idle stack]
          exact List.forall_mem_nil _
      | cons scope outer =>
          rw [perform, reestimate_of_open stack]
          exact Emission.forall_not_clamps not_false
  | closeJob name succeeded => exact monitor.closeJob_not_clamps reading.now name succeeded
  | closeAll => exact monitor.closeInnermost_not_clamps reading.clock 0 monitor.depth
  | checkCanceled name =>
      rw [perform, checkCanceled]
      dsimp only [Outcome.map_emitted]
      split
      · exact @Emission.forall_not_clamps [] _ not_false
      · exact List.forall_mem_nil _

/-! ## Runs under both policies -/

def transcript (monitor : Monitor α) : List Request → List (Request × Outcome α Reply)
  | [] => []
  | request :: requests =>
      let outcome := monitor.perform request.reading request.call
      (request, outcome) :: outcome.monitor.transcript requests

/-- Requests without those for jobs that are rejected, each with what came of it. -/
def accepted (monitor : Monitor α) (requests : List Request) : List (Request × Outcome α Reply) :=
  (monitor.transcript requests).filter fun entry => !entry.2.isRejected

example :
    let config : Config := { Config.default with sharePolicy := .reject }
    let requests : List Request := [.openJob "build" 1 10, .openJob "compile" 11 5,
      .openJob "link" 3 1].map fun call => ⟨⟨.frozen .zero .zero, false⟩, call⟩
    ((ofConfig config : Monitor Rat).accepted requests).map (·.1.call) =
      [.openJob "build" 1 10, .openJob "link" 3 1] := by
  decide +kernel

def told (entries : List (Request × Outcome α Reply)) : List SinkCall :=
  entries.flatMap fun entry => Emission.sinkCalls entry.2.emitted

variable {request : Request} {requests : List Request}

theorem accepted_of_rejected (reachable : monitor.Reachable)
    (rejected : (monitor.perform request.reading request.call).isRejected = true) :
    monitor.accepted (request :: requests) = monitor.accepted requests := by
  rw [accepted, transcript, List.filter_cons_of_neg (by simpa using rejected),
    (reachable.perform_of_rejected rejected).1]
  rfl

theorem accepted_of_not_rejected
    (fine : (monitor.perform request.reading request.call).isRejected = false) :
    monitor.accepted (request :: requests) =
      (request, monitor.perform request.reading request.call) ::
        (monitor.perform request.reading request.call).monitor.accepted requests := by
  rw [accepted, transcript, List.filter_cons_of_pos (by simpa using fine)]
  rfl

/-- A clamping monitor does with the accepted requests what a rejecting one does with
all of them. -/
structure Clampable (monitor : Monitor α) (requests : List Request) : Prop where
  transcript_eq :
    (monitor.underPolicy .clamp).transcript ((monitor.accepted requests).map (·.1)) =
      (monitor.accepted requests).map fun entry => (entry.1, entry.2.underPolicy .clamp)
  told_eq : told (monitor.accepted requests) = told (monitor.transcript requests)
  performAll_eq :
    (monitor.underPolicy .clamp).performAll ((monitor.accepted requests).map (·.1)) =
      (monitor.performAll requests).underPolicy .clamp
  not_clamps : ∀ entry ∈ monitor.accepted requests, ∀ emission ∈ entry.2.emitted, ¬emission.Clamps

namespace Clampable

theorem rejected (reachable : monitor.Reachable)
    (rejected : (monitor.perform request.reading request.call).isRejected = true)
    (later : monitor.Clampable requests) : monitor.Clampable (request :: requests) := by
  rcases reachable.perform_of_rejected rejected with ⟨same, silent⟩
  constructor
  · rw [accepted_of_rejected reachable rejected]
    exact later.transcript_eq
  · rw [accepted_of_rejected reachable rejected, later.told_eq, transcript, same, told, told,
      List.flatMap_cons, silent]
    rfl
  · rw [accepted_of_rejected reachable rejected, performAll_cons, same]
    exact later.performAll_eq
  · rw [accepted_of_rejected reachable rejected]
    exact later.not_clamps

theorem accepted (rejecting : monitor.config.sharePolicy = .reject)
    (fine : (monitor.perform request.reading request.call).isRejected = false)
    (later : (monitor.perform request.reading request.call).monitor.Clampable requests) :
    monitor.Clampable (request :: requests) := by
  have same := perform_underPolicy .clamp rejecting request.reading request.call fine
  constructor
  · rw [accepted_of_not_rejected fine, List.map_cons, List.map_cons, transcript, same]
    exact congrArg _ later.transcript_eq
  · rw [accepted_of_not_rejected fine, transcript, told, told, List.flatMap_cons,
      List.flatMap_cons]
    exact congrArg _ later.told_eq
  · rw [accepted_of_not_rejected fine, List.map_cons, performAll_cons, performAll_cons, same]
    exact later.performAll_eq
  · rw [accepted_of_not_rejected fine]
    exact List.forall_mem_cons.mpr
      ⟨perform_not_clamps rejecting request.reading request.call, later.not_clamps⟩

end Clampable

theorem Reachable.clampable (reachable : monitor.Reachable)
    (rejecting : monitor.config.sharePolicy = .reject) (requests : List Request) :
    monitor.Clampable requests := by
  induction requests generalizing monitor with
  | nil => exact ⟨rfl, rfl, rfl, List.forall_mem_nil _⟩
  | cons request requests induction =>
      cases rejected : (monitor.perform request.reading request.call).isRejected with
      | true => exact .rejected reachable rejected (induction reachable rejecting)
      | false =>
          have sameConfig := monitor.perform_config request.reading request.call
          exact .accepted rejecting rejected
            (induction (.perform _ _ reachable) (sameConfig ▸ rejecting))

/-- Leave out of some requests those that a rejecting monitor rejects for the share they
ask. What comes of the others is the same under either policy: their results, what they
send out, and the monitor after each. The sink is told the same in all, the run ends with
the same monitor, and no share is clamped. -/
theorem reject_eq_clamp_of_accepted (config : Config) (requests : List Request) :
    let rejecting : Monitor α := .ofConfig { config with sharePolicy := .reject }
    let clamping : Monitor α := .ofConfig { config with sharePolicy := .clamp }
    let reduced := (rejecting.accepted requests).map (·.1)
    clamping.transcript reduced =
        (rejecting.accepted requests).map (fun entry => (entry.1, entry.2.underPolicy .clamp)) ∧
      told (clamping.transcript reduced) = told (rejecting.transcript requests) ∧
      clamping.performAll reduced = (rejecting.performAll requests).underPolicy .clamp ∧
      ∀ entry ∈ clamping.transcript reduced, ∀ emission ∈ entry.2.emitted, ¬emission.Clamps := by
  intro rejecting clamping reduced
  have reachable : rejecting.Reachable := .ofConfig { config with sharePolicy := .reject }
  have clampable := reachable.clampable rfl requests
  have same : clamping.transcript reduced =
      (rejecting.accepted requests).map fun entry => (entry.1, entry.2.underPolicy .clamp) :=
    clampable.transcript_eq
  refine ⟨same, ?_, clampable.performAll_eq, ?_⟩
  · rw [same, ← clampable.told_eq, told, told, List.flatMap_map]
    rfl
  · rw [same]
    intro entry member
    rcases List.mem_map.mp member with ⟨original, accepted, rfl⟩
    exact clampable.not_clamps original accepted

end Monitor

end JobProgress
