import JobProgress.Proofs.History

/-! What closing a job returns hangs only on what was asked of the job directly:
the shares of the jobs opened inside it and of its steps, where the share of a
step is lost if a job is opened next. A monitor gets there by counting lazily,
with one share pending at a time. -/

namespace JobProgress

namespace DirectCall

def opensJob : List DirectCall → Bool
  | .nested _ :: _ => true
  | _ => false

/-- Units that direct calls make up. A job opened right after a step takes the
place of the step's share. -/
def doneUnits : List DirectCall → Nat
  | [] => 0
  | .step share :: later => (if opensJob later then 0 else share) + doneUnits later
  | .nested share :: later => share + doneUnits later

def announced : List DirectCall → Nat
  | [] => 0
  | [.step share] => share
  | _ :: later => announced later

example : doneUnits [.step 2, .step 3, .nested 5, .step 4] = 2 + 5 + 4 := by decide

@[simp] theorem announced_step (calls : List DirectCall) (share : Nat) :
    announced (calls ++ [.step share]) = share := by
  induction calls with
  | nil => rfl
  | cons call later induction =>
      rw [List.cons_append, announced, induction]
      simp

@[simp] theorem announced_nested (calls : List DirectCall) (share : Nat) :
    announced (calls ++ [.nested share]) = 0 := by
  induction calls with
  | nil => rfl
  | cons call later induction =>
      rw [List.cons_append, announced, induction]
      simp

@[simp] theorem doneUnits_step (calls : List DirectCall) (share : Nat) :
    doneUnits (calls ++ [.step share]) = doneUnits calls + share := by
  induction calls with
  | nil => simp [doneUnits, opensJob]
  | cons call later induction =>
      have sameNext : opensJob (later ++ [.step share]) = opensJob later := by
        rcases later with _ | ⟨_ | _, later⟩ <;> rfl
      cases call with
      | step first => simp only [List.cons_append, doneUnits, sameNext, induction, Nat.add_assoc]
      | nested first => simp only [List.cons_append, doneUnits, induction, Nat.add_assoc]

/-- Opening a job trades the share announced before it for its own. -/
theorem doneUnits_nested (calls : List DirectCall) (share : Nat) :
    doneUnits (calls ++ [.nested share]) + announced calls = doneUnits calls + share := by
  induction calls with
  | nil => simp [doneUnits, announced]
  | cons call later induction =>
      -- What is announced hangs on the last call alone, so one more call has to be seen.
      cases later with
      | nil => cases call <;> simp [doneUnits, opensJob, announced]; omega
      | cons next later =>
          have sameNext : opensJob (next :: (later ++ [.nested share])) =
              opensJob (next :: later) := by
            cases next <;> rfl
          cases call with
          | step first =>
              simp only [List.cons_append, doneUnits.eq_2, announced, sameNext] at induction ⊢
              omega
          | nested first =>
              simp only [List.cons_append, doneUnits.eq_3, announced] at induction ⊢
              omega

theorem announced_le_doneUnits (calls : List DirectCall) :
    announced calls ≤ doneUnits calls := by
  have trade := doneUnits_nested calls 0
  omega

end DirectCall

open DirectCall

/-- The units a scope counted and the share it has pending are those of its job's
direct calls. While a job is open inside, its share is what is pending. -/
structure Scope.Counts {α : Type} (scope : Scope α) (job : JobHistory)
    (inside : Option Nat) (_outer : List JobHistory) : Prop where
  pending_eq : scope.pending = inside.getD (announced job.direct)
  pending_le : scope.pending ≤ doneUnits job.direct
  workDone_eq : scope.workDone = min (doneUnits job.direct - scope.pending) maxUnits
  waiting : inside.isSome = true → announced job.direct = 0

namespace Scope.Counts

variable {α : Type} {scope : Scope α} {job : JobHistory} {jobs : List JobHistory}
  {inside : Option Nat}

theorem ofView [Amount α] (name : String) (view : View α) (share totalWork : Nat) (now : Instant) :
    (Scope.ofView name view totalWork now).Counts (.opened share totalWork) none jobs where
  pending_eq := rfl
  pending_le := Nat.le_refl 0
  workDone_eq := rfl
  waiting := by simp

theorem counted (counts : scope.Counts job inside jobs) :
    Units.saturatingAdd scope.workDone scope.pending = min (doneUnits job.direct) maxUnits := by
  have within := counts.pending_le
  have done := counts.workDone_eq
  rw [Units.saturatingAdd]
  omega

theorem step [Amount α] (counts : scope.Counts job none jobs) (overrunWork share : Nat) :
    (scope.stepped overrunWork share).Counts (job.add (.step share)) none jobs where
  pending_eq := by simp [Scope.stepped]
  pending_le := by simp [Scope.stepped]
  workDone_eq := by simpa [Scope.stepped] using counts.counted
  waiting := by simp

theorem nested [Amount α] (counts : scope.Counts job none jobs) (overrunWork : Nat)
    {share : Nat} {granted : GrantedShare} (requested : granted.requested = share) :
    (scope.carved overrunWork granted).Counts (job.add (.nested share)) (some share) jobs := by
  have pending : scope.pending = announced job.direct := counts.pending_eq
  have done := counts.workDone_eq
  have trade := doneUnits_nested job.direct share
  have within := announced_le_doneUnits job.direct
  constructor
  · simp [Scope.carved, requested]
  · simp only [Scope.carved, requested, JobHistory.add_direct]
    omega
  · simp only [Scope.carved, requested, JobHistory.add_direct]
    omega
  · simp

theorem settle {share : Nat} (counts : scope.Counts job (some share) jobs) :
    scope.settle.Counts job none jobs where
  pending_eq := (counts.waiting rfl).symm
  pending_le := Nat.zero_le _
  workDone_eq := counts.counted
  waiting := by simp

theorem reestimate (counts : scope.Counts job none jobs) (view : View α) (work : Nat) :
    Scope.Counts { scope with view, workRemaining := work } job none jobs :=
  ⟨counts.pending_eq, counts.pending_le, counts.workDone_eq, counts.waiting⟩

theorem kept [Amount α] (overrunWork : Nat) (call : Call) :
    Aligned.Kept (α := α) Scope.Counts overrunWork call where
  root _ := ofView ..
  nested := by
    intro now name share totalWork scope job jobs granted _ requested _ counts
    exact ⟨ofView .., counts.nested overrunWork requested⟩
  step _ counts := counts.step ..
  reestimate _ counts := counts.reestimate ..
  settle := settle

end Scope.Counts

namespace Run

variable {α : Type} [Amount α]

/-- Closing a job returns what its direct calls make up, whatever the total work
of jobs, what was made of their shares and what was done inside them. -/
theorem closeJob_result (config : Config) (requests : List Request) (reading : Reading)
    (name : String) (succeeded : Bool) :
    let run : Run α := .ofRequests config requests
    (run.monitor.perform reading (.closeJob name succeeded)).result =
      match run.history.jobs with
      | [] => .error .unbalancedEnd
      | job :: _ => .ok (.units (min (doneUnits job.direct) maxUnits)) := by
  intro run
  have aligned : Aligned Scope.Counts none run.monitor.scopes run.history.jobs :=
    .ofRequests fun overrunWork request _ => Scope.Counts.kept overrunWork.toNat request.call
  cases stack : run.monitor.scopes with
  | nil =>
      rw [stack] at aligned
      rw [aligned.eq_nil]
      simp only [Monitor.perform, Monitor.closeJob, stack]
      rfl
  | cons scope outer =>
      rw [stack] at aligned
      rcases aligned.of_cons with ⟨job, jobs, same, scopeCounts, _⟩
      simp only [same, Monitor.perform, Monitor.closeJob_of_open stack, Outcome.map_result]
      exact congrArg (Except.ok ∘ Reply.units) scopeCounts.counted

end Run

end JobProgress
