import JobProgress.Proofs.Trace
import Mathlib.Data.List.Induction

/-! What was asked of jobs is kept in a `History`, apart from what a monitor
makes of it: for each open job, the steps made on it and the jobs opened right
inside it. A `Run` is a monitor after requests, with their history and all that
was sent to the sink. -/

namespace JobProgress

structure Request where
  reading : Reading
  call : Call
  deriving DecidableEq, Repr

inductive DirectCall where
  | step (share : Nat)
  | nested (share : Nat)
  deriving DecidableEq, Repr

structure JobHistory where
  share : Nat
  totalWork : Nat
  direct : List DirectCall
  deriving DecidableEq, Repr

namespace JobHistory

def opened (share totalWork : Nat) : JobHistory := ⟨share, totalWork, []⟩

def add (job : JobHistory) (call : DirectCall) : JobHistory :=
  { job with direct := job.direct ++ [call] }

@[simp] theorem add_totalWork (job : JobHistory) (call : DirectCall) :
    (job.add call).totalWork = job.totalWork := rfl

@[simp] theorem add_direct (job : JobHistory) (call : DirectCall) :
    (job.add call).direct = job.direct ++ [call] := rfl

def OutermostWork (task : Nat) (jobs : List JobHistory) : Prop :=
  ∀ root, jobs.getLast? = some root → root.totalWork = task

namespace OutermostWork

variable {task : Nat} {job parent : JobHistory} {outer : List JobHistory}

theorem nil (task : Nat) : OutermostWork task [] := by
  simp [OutermostWork]

theorem opened (share totalWork : Nat) : OutermostWork totalWork [.opened share totalWork] := by
  simp [OutermostWork, JobHistory.opened]

theorem push (outermost : OutermostWork task (parent :: outer)) (job : JobHistory) :
    OutermostWork task (job :: parent :: outer) := by
  simpa only [OutermostWork, List.getLast?_cons_cons] using outermost

theorem tail (outermost : OutermostWork task (job :: outer)) : OutermostWork task outer := by
  cases outer with
  | nil => exact .nil task
  | cons parent outer => simpa only [OutermostWork, List.getLast?_cons_cons] using outermost

theorem replace {other : JobHistory} (outermost : OutermostWork task (job :: outer))
    (same : other.totalWork = job.totalWork) : OutermostWork task (other :: outer) := by
  cases outer with
  | nil => simpa [OutermostWork, same] using outermost
  | cons parent outer => exact push outermost.tail other

end OutermostWork

end JobHistory

structure History where
  task : Nat
  jobs : List JobHistory
  deriving DecidableEq, Repr

namespace History

def initial : History := ⟨0, []⟩

def record (history : History) : Call → History
  | .openJob _ share totalWork =>
      match history.jobs with
      | [] => ⟨totalWork.toNat, [.opened share.toNat totalWork.toNat]⟩
      | parent :: outer =>
          { history with
            jobs :=
              .opened share.toNat totalWork.toNat :: parent.add (.nested share.toNat) :: outer }
  | .step _ _ share =>
      match history.jobs with
      | [] => history
      | job :: outer => { history with jobs := job.add (.step share.toNat) :: outer }
  | .closeJob _ _ => { history with jobs := history.jobs.tail }
  | .closeAll => { history with jobs := [] }
  | .reestimate _ _ | .checkCanceled _ => history

end History

structure Run (α : Type) where
  monitor : Monitor α
  history : History
  sent : List SinkCall

namespace Run

variable {α : Type} [Amount α]

def start (config : Config) : Run α := ⟨.ofConfig config, .initial, []⟩

/-- Serve one more request. Only a call that does not fail goes down in the
history. -/
def serve (run : Run α) (request : Request) : Run α :=
  let outcome := run.monitor.perform request.reading request.call
  { monitor := outcome.monitor
    history := if outcome.result.isOk then run.history.record request.call else run.history
    sent := run.sent ++ Emission.sinkCalls outcome.emitted }

def ofRequests (config : Config) (requests : List Request) : Run α :=
  requests.foldl serve (start config)

theorem ofRequests_concat (config : Config) (requests : List Request) (request : Request) :
    (ofRequests config (requests ++ [request]) : Run α) =
      (ofRequests config requests).serve request := by
  simp [ofRequests]

theorem ofRequests_induct {motive : Run α → Prop} {config : Config} {requests : List Request}
    (initial : motive (start config))
    (kept : ∀ {run request}, request ∈ requests → motive run → motive (run.serve request)) :
    motive (ofRequests config requests) := by
  induction requests using List.reverseRecOn with
  | nil => exact initial
  | append_singleton requests request induction =>
      rw [ofRequests_concat]
      exact kept (by simp) (induction fun member => kept (List.mem_append_left _ member))

theorem reachable (config : Config) (requests : List Request) :
    (ofRequests config requests : Run α).monitor.Reachable :=
  ofRequests_induct (motive := fun run : Run α => run.monitor.Reachable)
    (.ofConfig config)
    (fun {_ request} _ reachable => .perform request.reading request.call reachable)

theorem serve_monitor (run : Run α) (request : Request) :
    (run.serve request).monitor =
      (run.monitor.perform request.reading request.call).monitor := rfl

theorem history_of_ok {run : Run α} {request : Request}
    (accepted : (run.monitor.perform request.reading request.call).result.isOk = true) :
    (run.serve request).history = run.history.record request.call :=
  if_pos accepted

theorem history_of_error {run : Run α} {request : Request}
    (failed : (run.monitor.perform request.reading request.call).result.isOk = false) :
    (run.serve request).history = run.history :=
  if_neg (Bool.not_eq_true _ ▸ failed)

/-! ## What a request does -/

/-- All that can come of serving a call: the open jobs after it, the total of the
task and the history. -/
inductive Served (run : Run α) : Call → List (Scope α) → Nat → History → Prop
  | kept (call) : Served run call run.monitor.scopes run.monitor.ticks.total run.history
  | root (now name) (share totalWork : UInt32) :
      run.monitor.scopes = [] →
      Served run (.openJob name share totalWork)
        [.ofView name (.root totalWork.toNat) totalWork.toNat now] totalWork.toNat
        (run.history.record (.openJob name share totalWork))
  | nested (now name) (share totalWork : UInt32) {scope outer} (granted : GrantedShare) :
      run.monitor.scopes = scope :: outer →
      granted.requested = share.toNat →
      granted.share = min share.toNat (scope.shareLimit run.monitor.overrunWork) →
      Served run (.openJob name share totalWork)
        (.ofView name ((scope.extendView run.monitor.overrunWork).view.carve granted.share).2
            totalWork.toNat now ::
          scope.carved run.monitor.overrunWork granted :: outer)
        run.monitor.ticks.total (run.history.record (.openJob name share totalWork))
  | step (name detail) (share : UInt32) {scope outer} :
      run.monitor.scopes = scope :: outer →
      Served run (.step name detail share)
        (scope.stepped run.monitor.overrunWork share.toNat :: outer)
        run.monitor.ticks.total (run.history.record (.step name detail share))
  | reestimate (name) (work : UInt32) {scope outer} :
      run.monitor.scopes = scope :: outer →
      Served run (.reestimate name work)
        ({ scope with view := scope.view.rescale work.toNat, workRemaining := work.toNat } :: outer)
        run.monitor.ticks.total run.history
  | closeJob (name succeeded) {scope outer} :
      run.monitor.scopes = scope :: outer →
      Served run (.closeJob name succeeded) (Monitor.settleParent outer)
        run.monitor.ticks.total (run.history.record (.closeJob name succeeded))
  | closeAll : Served run .closeAll [] run.monitor.ticks.total (run.history.record .closeAll)

theorem served_of_kept (run : Run α) (request : Request)
    (failed : (run.monitor.perform request.reading request.call).result.isOk = false)
    (unchanged : (run.monitor.perform request.reading request.call).monitor = run.monitor) :
    Served run request.call (run.serve request).monitor.scopes
      (run.serve request).monitor.ticks.total (run.serve request).history := by
  rw [history_of_error failed, serve_monitor, unchanged]
  exact .kept _

theorem served_of_ok (run : Run α) (request : Request) {next : Monitor α}
    (accepted : (run.monitor.perform request.reading request.call).result.isOk = true)
    (leads : (run.monitor.perform request.reading request.call).monitor = next)
    (served : run.Served request.call next.scopes next.ticks.total
      (run.history.record request.call)) :
    Served run request.call (run.serve request).monitor.scopes
      (run.serve request).monitor.ticks.total (run.serve request).history := by
  rw [history_of_ok accepted, serve_monitor, leads]
  exact served

theorem served_openJob (run : Run α) (reading : Reading) (name : String)
    (share totalWork : UInt32) :
    let next := run.serve ⟨reading, .openJob name share totalWork⟩
    Served run (.openJob name share totalWork) next.monitor.scopes next.monitor.ticks.total
      next.history := by
  intro next
  rcases run.monitor.openJob_cases reading.now name share totalWork with
    ⟨idle, equal⟩ | ⟨parent, outer, stack, fits, equal⟩ |
    ⟨parent, outer, stack, excess, _, equal⟩ | ⟨parent, outer, stack, _, _, equal⟩
  · apply run.served_of_ok ⟨reading, .openJob name share totalWork⟩
    · simp only [Monitor.perform, equal]
      rfl
    · simp only [Monitor.perform, equal, Outcome.map_monitor]
      rfl
    · exact .root reading.now name share totalWork idle
  · apply run.served_of_ok ⟨reading, .openJob name share totalWork⟩
    · simp only [Monitor.perform, equal]
      rfl
    · simp only [Monitor.perform, equal, Outcome.map_monitor]
      rfl
    · exact .nested reading.now name share totalWork _ stack rfl (Nat.min_eq_left fits).symm
  · apply run.served_of_ok ⟨reading, .openJob name share totalWork⟩
    · simp only [Monitor.perform, equal]
      rfl
    · simp only [Monitor.perform, equal, Outcome.map_monitor, Outcome.after_monitor]
      rfl
    · exact .nested reading.now name share totalWork _ stack rfl
        (Nat.min_eq_right (Nat.le_of_lt excess)).symm
  · apply run.served_of_kept ⟨reading, .openJob name share totalWork⟩ <;>
      simp only [Monitor.perform, equal] <;> rfl

theorem served_step (run : Run α) (reading : Reading) (name detail : String)
    (share : UInt32) :
    let next := run.serve ⟨reading, .step name detail share⟩
    Served run (.step name detail share) next.monitor.scopes next.monitor.ticks.total
      next.history := by
  intro next
  cases stack : run.monitor.scopes with
  | nil =>
      apply run.served_of_kept ⟨reading, .step name detail share⟩ <;>
        simp only [Monitor.perform, Monitor.step_of_idle stack] <;> rfl
  | cons scope outer =>
      have stepped := Monitor.step_of_open stack name detail share
      apply run.served_of_ok ⟨reading, .step name detail share⟩
      · simp only [Monitor.perform, stepped]
        rfl
      · simp only [Monitor.perform, stepped, Outcome.map_monitor]
        rfl
      · simp only [Ticks.report_total]
        exact .step name detail share stack

theorem served_reestimate (run : Run α) (reading : Reading) (name : String)
    (work : UInt32) :
    let next := run.serve ⟨reading, .reestimate name work⟩
    Served run (.reestimate name work) next.monitor.scopes next.monitor.ticks.total
      next.history := by
  intro next
  cases stack : run.monitor.scopes with
  | nil =>
      apply run.served_of_kept ⟨reading, .reestimate name work⟩ <;>
        simp only [Monitor.perform, Monitor.reestimate_of_idle stack] <;> rfl
  | cons scope outer =>
      have estimated := Monitor.reestimate_of_open stack name work
      have history : next.history = run.history :=
        history_of_ok (by simp only [Monitor.perform, estimated]; rfl)
      have monitor : next.monitor = (run.monitor.reestimate name work).monitor := rfl
      rw [history, monitor, estimated]
      exact .reestimate name work stack

theorem served_closeJob (run : Run α) (reading : Reading) (name : String)
    (succeeded : Bool) :
    let next := run.serve ⟨reading, .closeJob name succeeded⟩
    Served run (.closeJob name succeeded) next.monitor.scopes next.monitor.ticks.total
      next.history := by
  intro next
  cases stack : run.monitor.scopes with
  | nil =>
      apply run.served_of_kept ⟨reading, .closeJob name succeeded⟩ <;>
        simp only [Monitor.perform, Monitor.closeJob_of_idle stack] <;> rfl
  | cons scope outer =>
      have closed := Monitor.closeJob_of_open stack reading.now name succeeded
      apply run.served_of_ok ⟨reading, .closeJob name succeeded⟩
      · simp only [Monitor.perform, closed]
        rfl
      · simp only [Monitor.perform, closed, Outcome.map_monitor]
        rfl
      · simp only [Monitor.finishTask_total, Ticks.report_total]
        exact .closeJob name succeeded stack

theorem served (run : Run α) (request : Request) :
    Served run request.call (run.serve request).monitor.scopes
      (run.serve request).monitor.ticks.total (run.serve request).history := by
  rcases request with ⟨reading, call⟩
  cases call with
  | openJob name share totalWork => exact run.served_openJob reading name share totalWork
  | step name detail share => exact run.served_step reading name detail share
  | reestimate name work => exact run.served_reestimate reading name work
  | closeJob name succeeded => exact run.served_closeJob reading name succeeded
  | closeAll =>
      rcases run.monitor.closeAll_idle reading.clock with ⟨idle, units, accepted⟩
      apply run.served_of_ok ⟨reading, .closeAll⟩ _ rfl
      · simp only [Monitor.perform, Outcome.map_monitor, idle, run.monitor.closeAll_total]
        exact .closeAll
      · simp only [Monitor.perform, Outcome.map_result, accepted]
        rfl
  | checkCanceled name =>
      have history : (run.serve ⟨reading, .checkCanceled name⟩).history = run.history :=
        ite_self _
      rw [history]
      exact .kept _

/-- The history has as many jobs as are open, and the total of the task, which is
the total work of its outermost job. -/
structure Recorded (scopes : List (Scope α)) (total : Nat) (history : History) : Prop where
  depth : scopes.length = history.jobs.length
  total : total = history.task
  outermost : JobHistory.OutermostWork history.task history.jobs

theorem Recorded.of_served {run : Run α} {call : Call} {scopes : List (Scope α)} {total : Nat}
    {history : History}
    (recorded : Recorded run.monitor.scopes run.monitor.ticks.total run.history)
    (served : run.Served call scopes total history) : Recorded scopes total history := by
  rcases recorded with ⟨depth, same, outermost⟩
  cases served with
  | kept call => exact ⟨depth, same, outermost⟩
  | root now name share totalWork idle =>
      rw [idle, List.length_nil] at depth
      have none := List.length_eq_zero_iff.mp depth.symm
      simp only [History.record, none]
      exact ⟨rfl, rfl, .opened share.toNat totalWork.toNat⟩
  | nested now name share totalWork granted stack _ _ =>
      rw [stack, List.length_cons] at depth
      rcases List.exists_cons_of_length_eq_add_one depth.symm with ⟨job, jobs, equal⟩
      simp only [History.record, equal] at depth outermost ⊢
      have replaced : JobHistory.OutermostWork run.history.task (job.add _ :: jobs) :=
        outermost.replace (job.add_totalWork (.nested share.toNat))
      exact ⟨by simpa using depth, same, replaced.push _⟩
  | step name detail share stack =>
      rw [stack, List.length_cons] at depth
      rcases List.exists_cons_of_length_eq_add_one depth.symm with ⟨job, jobs, equal⟩
      simp only [History.record, equal] at depth outermost ⊢
      exact ⟨by simpa using depth, same, outermost.replace (job.add_totalWork _)⟩
  | reestimate name work stack =>
      rw [stack] at depth
      exact ⟨depth, same, outermost⟩
  | closeJob name succeeded stack =>
      rw [stack, List.length_cons] at depth
      rcases List.exists_cons_of_length_eq_add_one depth.symm with ⟨job, jobs, equal⟩
      simp only [History.record, equal] at depth outermost ⊢
      exact ⟨by simpa using depth, same, outermost.tail⟩
  | closeAll => exact ⟨rfl, same, .nil _⟩

theorem recorded (config : Config) (requests : List Request) :
    let run : Run α := .ofRequests config requests
    Recorded run.monitor.scopes run.monitor.ticks.total run.history :=
  ofRequests_induct (motive := fun run : Run α =>
      Recorded run.monitor.scopes run.monitor.ticks.total run.history)
    ⟨rfl, rfl, .nil _⟩
    (fun {run request} _ recorded => recorded.of_served (run.served request))

end Run

/-! ## Monitors in step with histories -/

/-- The open jobs of a monitor agree, one by one, with those of a history.
Whether a job agrees may hang on the share of the job that is open right inside
it, and on the jobs around it. -/
def Aligned {α : Type}
    (Agrees : Scope α → JobHistory → Option Nat → List JobHistory → Prop) :
    Option Nat → List (Scope α) → List JobHistory → Prop
  | _, [], [] => True
  | inside, scope :: scopes, job :: jobs =>
      Agrees scope job inside jobs ∧ Aligned Agrees (some job.share) scopes jobs
  | _, [], _ :: _ | _, _ :: _, [] => False

namespace Aligned

variable {α : Type} {Agrees : Scope α → JobHistory → Option Nat → List JobHistory → Prop}
  {inside : Option Nat} {scopes : List (Scope α)} {scope : Scope α} {jobs : List JobHistory}

theorem eq_nil (aligned : Aligned Agrees inside [] jobs) : jobs = [] := by
  cases jobs with
  | nil => rfl
  | cons job jobs => exact aligned.elim

theorem of_cons (aligned : Aligned Agrees inside (scope :: scopes) jobs) :
    ∃ job outer, jobs = job :: outer ∧ Agrees scope job inside outer ∧
      Aligned Agrees (some job.share) scopes outer := by
  cases jobs with
  | nil => exact aligned.elim
  | cons job outer => exact ⟨job, outer, rfl, aligned.1, aligned.2⟩

/-- What has to be known of a call so that jobs still agree after it: that a job
agrees when it is opened, and agrees again when something is done in it. -/
structure Kept [Amount α] (Agrees : Scope α → JobHistory → Option Nat → List JobHistory → Prop)
    (overrunWork : Nat) (call : Call) : Prop where
  root : ∀ {now name share totalWork}, call = .openJob name share totalWork →
    Agrees (.ofView name (.root totalWork.toNat) totalWork.toNat now)
      (.opened share.toNat totalWork.toNat) none []
  nested : ∀ now {name share totalWork scope job jobs} {granted : GrantedShare},
    call = .openJob name share totalWork →
    granted.requested = share.toNat →
    granted.share = min share.toNat (scope.shareLimit overrunWork) →
    Agrees scope job none jobs →
    Agrees
        (.ofView name ((scope.extendView overrunWork).view.carve granted.share).2
          totalWork.toNat now)
        (.opened share.toNat totalWork.toNat) none (job.add (.nested share.toNat) :: jobs) ∧
      Agrees (scope.carved overrunWork granted) (job.add (.nested share.toNat))
        (some share.toNat) jobs
  step : ∀ {name detail share scope job jobs}, call = .step name detail share →
    Agrees scope job none jobs →
    Agrees (scope.stepped overrunWork share.toNat) (job.add (.step share.toNat)) none jobs
  reestimate : ∀ {name work scope job jobs}, call = .reestimate name work →
    Agrees scope job none jobs →
    Agrees { scope with view := scope.view.rescale work.toNat, workRemaining := work.toNat }
      job none jobs
  settle : ∀ {share scope job jobs}, Agrees scope job (some share) jobs →
    Agrees scope.settle job none jobs

variable [Amount α] {run : Run α} {call : Call} {total : Nat} {history : History}

theorem of_served (aligned : Aligned Agrees none run.monitor.scopes run.history.jobs)
    (kept : Kept Agrees run.monitor.overrunWork call)
    (served : run.Served call scopes total history) :
    Aligned Agrees none scopes history.jobs := by
  cases served with
  | kept call => exact aligned
  | root now name share totalWork idle =>
      rw [idle] at aligned
      simp only [History.record, aligned.eq_nil]
      exact ⟨kept.root rfl, trivial⟩
  | nested now name share totalWork granted stack requested limited =>
      rw [stack] at aligned
      rcases aligned.of_cons with ⟨job, jobs, same, agrees, around⟩
      have agreeing := kept.nested now rfl requested limited agrees
      simp only [History.record, same]
      exact ⟨agreeing.1, agreeing.2, around⟩
  | step name detail share stack =>
      rw [stack] at aligned
      rcases aligned.of_cons with ⟨job, jobs, same, agrees, around⟩
      simp only [History.record, same]
      exact ⟨kept.step rfl agrees, around⟩
  | reestimate name work stack =>
      rw [stack] at aligned
      rcases aligned.of_cons with ⟨job, jobs, same, agrees, around⟩
      rw [same]
      exact ⟨kept.reestimate rfl agrees, around⟩
  | @closeJob name succeeded scope outer stack =>
      rw [stack] at aligned
      rcases aligned.of_cons with ⟨job, jobs, same, _, around⟩
      simp only [History.record, same, List.tail_cons]
      cases outer with
      | nil => exact around.eq_nil ▸ trivial
      | cons parent outer =>
          rcases around.of_cons with ⟨parentJob, parentJobs, same, agrees, around⟩
          rw [same]
          exact ⟨kept.settle agrees, around⟩
  | closeAll => trivial

theorem ofRequests {config : Config} {requests : List Request}
    (kept : ∀ overrunWork : UInt32, ∀ request ∈ requests,
      Kept Agrees overrunWork.toNat request.call) :
    let run : Run α := .ofRequests config requests
    Aligned Agrees none run.monitor.scopes run.history.jobs :=
  Run.ofRequests_induct (motive := fun run : Run α =>
      Aligned Agrees none run.monitor.scopes run.history.jobs)
    trivial
    (fun {run request} member aligned =>
      aligned.of_served (kept _ request member) (run.served request))

end Aligned

end JobProgress
