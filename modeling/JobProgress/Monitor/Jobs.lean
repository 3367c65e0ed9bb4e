import JobProgress.Monitor.Basic

namespace JobProgress.Monitor

/-! The calls that open, advance and close jobs. -/

variable {α : Type} [Amount α]

/-! ## Opening -/

/-- Open an outermost job. It begins a task of its own total, and its name is
the top name if it is the first. -/
def openRoot (monitor : Monitor α) (now : Instant) (name : String)
    (totalWork : Nat) : Outcome α Unit where
  result := .ok ()
  monitor := { monitor with
    scopes := [.ofView name (.root totalWork) totalWork now]
    ticks := .ofTotal totalWork
    topName := some (monitor.topName.getD name) }
  emitted :=
    Emission.ofCalls [.taskName name, .beginTask name totalWork] ++
    Emission.ofJobEvent (.started name 0 none totalWork)

def resync (monitor : Monitor α) (exhausted : Bool) : List SinkCall :=
  if exhausted then [.workRemaining monitor.ticks.remaining] else []

/-- Open a job inside `parent`, with the slice worth `granted` of the parent's
units. The parent counts the share the job asked for, also where less of it
was granted. -/
def openNested (monitor : Monitor α) (parent : Scope α) (outer : List (Scope α))
    (now : Instant) (name : String) (granted : GrantedShare) (totalWork : Nat) :
    Outcome α Unit :=
  let (parentView, slice) :=
    (parent.extendView monitor.overrunWork).view.carve granted.share
  { result := .ok ()
    monitor := { monitor with
      scopes :=
        .ofView name slice totalWork now ::
        { parent with view := parentView, pending := granted.requested } :: outer }
    emitted :=
      Emission.ofCalls (monitor.resync parent.isExhausted ++ [.taskName name]) ++
      Emission.ofJobEvent (.started name (outer.length + 1) (some granted) totalWork) }

/-- Open a job that takes `share` of the work of the job it is opened in and
reports in `totalWork` units of its own. An outermost job takes the whole
task. A share larger than what the parent can give is shrunk or refused. -/
def openJob (monitor : Monitor α) (now : Instant) (name : String)
    (share totalWork : UInt32) : Outcome α Unit :=
  match monitor.scopes with
  | [] => monitor.openRoot now name totalWork.toNat
  | parent :: outer =>
      let requested := share.toNat
      let limit := parent.shareLimit monitor.overrunWork
      if requested ≤ limit then
        monitor.openNested parent outer now name ⟨requested, requested⟩ totalWork.toNat
      else
        match monitor.config.sharePolicy with
        | .reject => monitor.refuse (.shareExceedsRemaining name requested limit)
        | .clamp =>
            (monitor.openNested parent outer now name ⟨limit, requested⟩
              totalWork.toNat).after
              (Emission.ofJobEvent (.shareClamped name parent.name requested limit))

/-! ## Advancing -/

/-- Advance the innermost job: report the work the step before announced, and
announce `share` for this one. A job that had used its work up is estimated
anew. -/
def step (monitor : Monitor α) (name detail : String) (share : UInt32) :
    Outcome α Unit :=
  match monitor.scopes with
  | [] => monitor.refuse (.noOpenJob "job_step")
  | scope :: outer =>
      let (announced, flushed) := scope.takePending share.toNat
      let (view, amount) := announced.view.advance flushed
      let (ticks, sent) := monitor.ticks.report amount
      let advanced := { announced with view }.extendView monitor.overrunWork
      let monitor := { monitor with scopes := advanced.account flushed :: outer, ticks }
      { result := .ok ()
        monitor
        emitted :=
          Emission.ofCalls
            (sent ++ monitor.resync scope.isExhausted ++ [.subTask name]) ++
          Emission.ofJobEvent (.stepped scope.name name detail flushed share.toNat) }

def reestimate (monitor : Monitor α) (name : String) (work : UInt32) :
    Outcome α Unit :=
  match monitor.scopes with
  | [] => monitor.refuse (.noOpenJob "job_todo")
  | scope :: outer =>
      let rescaled := { scope with
        view := scope.view.rescale work.toNat, workRemaining := work.toNat }
      { result := .ok ()
        monitor := { monitor with scopes := rescaled :: outer }
        emitted :=
          Emission.ofCalls (monitor.resync true) ++
          Emission.ofJobEvent (.rescaled scope.name name work.toNat) }

/-! ## Closing -/

def showTopName (monitor : Monitor α) : List SinkCall :=
  monitor.topName.toList.map .taskName

def settleParent : List (Scope α) → List (Scope α)
  | [] => []
  | parent :: outer => parent.settle :: outer

def finishTask (ticks : Ticks α) : List (Scope α) → Ticks α × List SinkCall
  | [] =>
      let (ticks, sent) := ticks.finish
      (ticks, sent ++ [.done])
  | _ :: _ => (ticks, [])

def closeJob (monitor : Monitor α) (now : Instant) (name : String)
    (succeeded : Bool) : Outcome α Nat :=
  match monitor.scopes with
  | [] => (monitor.refuse .unbalancedEnd).after (Emission.ofJobEvent (.unbalancedEnd name))
  | scope :: outer =>
      let settled := scope.settle
      let (_, rest) := settled.view.finish
      let (ticks, sent) := monitor.ticks.report rest
      let (ticks, finishing) := finishTask ticks outer
      { result := .ok settled.workDone
        monitor := { monitor with scopes := settleParent outer, ticks }
        emitted :=
          Emission.ofCalls (sent ++ finishing ++ monitor.showTopName) ++
          Emission.ofJobEvent (.ended scope.name outer.length succeeded
            settled.workDone scope.totalWork (now.since scope.startedAt)) }

/-- Close up to `count` jobs, innermost first and as unsuccessful. Returns the
units of the last one closed, or `worked` if there is none. -/
def closeInnermost (monitor : Monitor α) (clock : Clock) (worked : Nat) :
    Nat → Outcome α Nat
  | 0 => ⟨.ok worked, monitor, []⟩
  | count + 1 =>
      match monitor.currentJob with
      | none => ⟨.ok worked, monitor, []⟩
      | some name =>
          let closed := monitor.closeJob clock.now name false
          match closed.result with
          | .error _ => ⟨.ok worked, closed.monitor, closed.emitted⟩
          | .ok units =>
              (closed.monitor.closeInnermost clock.next units count).after closed.emitted

def closeAll (monitor : Monitor α) (clock : Clock) : Outcome α Nat :=
  monitor.closeInnermost clock 0 monitor.depth

def closeLeftOpen (monitor : Monitor α) (clock : Clock) (job : String) :
    Nat → Outcome α Unit
  | 0 => ⟨.ok (), monitor, []⟩
  | count + 1 =>
      let inner := monitor.currentJob.getD ""
      let closed := monitor.closeJob clock.now inner false
      let emitted := Emission.ofJobEvent (.leftOpen job inner) ++ closed.emitted
      match closed.result with
      | .error error => ⟨.error error, closed.monitor, emitted⟩
      | .ok _ => (closed.monitor.closeLeftOpen clock.next job count).after emitted

/-- Close the job at `depth`, the number of jobs open once it was opened, after
the jobs left open inside it. Nothing is closed if the job already is. -/
def conclude (monitor : Monitor α) (clock : Clock) (job : String) (depth : Nat)
    (succeeded : Bool) : Outcome α Unit :=
  let leftOpen := monitor.depth - depth
  let unwound := monitor.closeLeftOpen clock job leftOpen
  match unwound.result with
  | .error _ => unwound
  | .ok () =>
      if unwound.monitor.depth = depth then
        ((unwound.monitor.closeJob (clock.afterClosing leftOpen).now job succeeded).map
          fun _ => ()).after unwound.emitted
      else
        unwound

/-! ## Cancellation -/

def checkCanceled (monitor : Monitor α) (clock : Clock) (name : String)
    (answer : Bool) : Outcome α Bool :=
  let (cancelPoll, sample) := monitor.cancelPoll.sample clock.limit clock.now answer
  { result :=
      match sample.value? with
      | some canceled => .ok canceled
      | none => .error .clockOverflow
    monitor := { monitor with cancelPoll }
    emitted :=
      if sample.didPoll then Emission.ofJobEvent (.polled name answer) else [] }

end JobProgress.Monitor
