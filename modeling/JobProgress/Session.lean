import JobProgress.Monitor.Call
import JobProgress.Sink.Basic
import JobProgress.Warning.Basic

namespace JobProgress

/-! A session is a monitor among its surroundings: the sink that shows its
task, the receiver of its warnings, and the clock. What happens in a session
is a `Script`: calls to the monitor, some of them as the body of a job, mixed
with what happens around it. Running a script reports, for every line of it,
what was returned and what was sent out. -/

structure Session (σ ω α : Type) where
  monitor : Monitor α
  sink : σ
  warnings : ω
  clock : Clock

def Session.now {σ ω α : Type} (session : Session σ ω α) : Instant := session.clock.now

structure Ending where
  /-- Whether the body ends at the first line of it that fails, and with that
  failure. -/
  strict : Bool
  /-- The failure the body ends with otherwise, if it does not succeed. -/
  failure : Option String
  deriving DecidableEq, Repr

inductive Script (σ : Type) where
  | call (call : Call)
  | warn (message : String) (location : SourceLocation)
  | wait (duration : Duration)
  /-- Someone else calls the sink. -/
  | direct (call : SinkCall)
  /-- Something else happens to the sink. -/
  | touch (change : σ → σ)
  /-- A job that is closed when its body ends, however that is. -/
  | job (name : String) (share totalWork : UInt32) (body : List (Script σ))
      (ending : Ending)
  deriving Inhabited

inductive Failure where
  | call (error : CallError)
  | body (text : String)
  deriving DecidableEq, Repr

/-- What was sent out since the moment before, and the session as it stands. -/
structure Moment (σ ω α : Type) where
  emitted : List Emission
  session : Session σ ω α

inductive Report (σ ω α : Type) where
  | line (result : Except Failure Reply) (after : Moment σ ω α)
  /-- A job that was opened: the moment after, what came of its body, and the
  moment after it was closed. -/
  | job (result : Except Failure Reply) (opened : Moment σ ω α)
      (body : List (Report σ ω α)) (closed : Moment σ ω α)

namespace Report

variable {σ ω α : Type}

def result : Report σ ω α → Except Failure Reply
  | .line result _ | .job result _ _ _ => result

def last : Report σ ω α → Moment σ ω α
  | .line _ moment | .job _ _ _ moment => moment

mutual

def emitted : Report σ ω α → List Emission
  | .line _ after => after.emitted
  | .job _ opened body closed =>
      opened.emitted ++ emittedBy body ++ closed.emitted

def emittedBy : List (Report σ ω α) → List Emission
  | [] => []
  | report :: reports => report.emitted ++ emittedBy reports

end

def tooLate (result : Except Failure Reply) (moment : Moment σ ω α) : Bool :=
  decide (moment.session.clock.limit < moment.session.now) ||
    match result with
    | .error (.call .clockOverflow) => true
    | _ => false

mutual

def outlastsClock : Report σ ω α → Bool
  | .line result after => tooLate result after
  | .job result opened body closed =>
      tooLate result opened || anyOutlastsClock body || tooLate result closed

def anyOutlastsClock : List (Report σ ω α) → Bool
  | [] => false
  | report :: reports => report.outlastsClock || anyOutlastsClock reports

end

end Report

namespace Session

variable {σ ω α : Type} [ProgressSink σ] [WarningSink ω] [Amount α]

def ofConfig (config : Config) (sink : σ) (warnings : ω) (clock : Clock) : Session σ ω α :=
  ⟨.ofConfig config, sink, warnings, clock⟩

/-- Hand emissions on. Sink calls go to the sink, whose own events take their
place right behind the call they belong to. -/
def deliver (sink : σ) : List Emission → σ × List Emission
  | [] => (sink, [])
  | .call call :: emissions =>
      let (sink, events) := ProgressSink.receive sink call
      let (sink, delivered) := deliver sink emissions
      (sink, .call call :: Emission.ofSinkEvents events ++ delivered)
  | .foreign call :: emissions =>
      let (sink, events) := ProgressSink.receive sink call
      let (sink, delivered) := deliver sink emissions
      (sink, .foreign call :: Emission.ofSinkEvents events ++ delivered)
  | .event event :: emissions =>
      let (sink, delivered) := deliver sink emissions
      (sink, .event event :: delivered)

/-- Take over what came of a call. The clock goes on with every job that was
closed in it. -/
def settle (session : Session σ ω α) {ρ : Type} (outcome : Outcome α ρ) :
    Moment σ ω α :=
  let (sink, emitted) := deliver session.sink outcome.emitted
  let clock := session.clock.afterClosing (session.monitor.depth - outcome.monitor.depth)
  ⟨emitted, { session with monitor := outcome.monitor, sink, clock }⟩

def poll (session : Session σ ω α) : Session σ ω α × Reading :=
  if session.monitor.cancelPoll.isDue session.now then
    let (sink, canceled) := ProgressSink.ask session.sink
    ({ session with sink }, ⟨session.clock, canceled⟩)
  else
    (session, ⟨session.clock, false⟩)

/-- What the monitor reads for a call: only a check of cancellation asks the
sink. -/
def read (session : Session σ ω α) : Call → Session σ ω α × Reading
  | .checkCanceled _ => session.poll
  | _ => (session, ⟨session.clock, false⟩)

def perform (session : Session σ ω α) (call : Call) : Report σ ω α :=
  let (session, reading) := session.read call
  let outcome := session.monitor.perform reading call
  .line (outcome.result.mapError .call) (session.settle outcome)

def bodyResult (ending : Ending) (count : Nat) : Option Failure → Except Failure Reply
  | some failure => .error failure
  | none =>
      match ending.failure with
      | some text => .error (.body text)
      | none => .ok (.units count)

def conclude (session : Session σ ω α) (job : String) (depth : Nat)
    (result : Except Failure Reply) : Except Failure Reply × Moment σ ω α :=
  let concluded := session.monitor.conclude session.clock job depth result.isOk
  let moment := session.settle concluded
  match concluded.result with
  | .ok () => (result, moment)
  | .error error => (.error (.call error), moment)

mutual

def run (session : Session σ ω α) : Script σ → Report σ ω α
  | .call call => session.perform call
  | .warn message location =>
      let (warnings, events) := WarningSink.warn session.warnings message location
      .line (.ok .nothing) ⟨events.map .event, { session with warnings }⟩
  | .wait duration =>
      .line (.ok .nothing) ⟨[], { session with clock := session.clock.wait duration }⟩
  | .direct call =>
      let (sink, emitted) := deliver session.sink [.foreign call]
      .line (.ok .nothing) ⟨emitted, { session with sink }⟩
  | .touch change =>
      .line (.ok .nothing) ⟨[], { session with sink := change session.sink }⟩
  | .job name share totalWork body ending =>
      let started := session.perform (.openJob name share totalWork)
      match started.result with
      | .error _ => started
      | .ok _ =>
          let opened := started.last
          let depth := opened.session.monitor.depth
          let (reports, stopped, session) :=
            opened.session.runBody ending.strict body
          let (result, closed) :=
            session.conclude name depth (bodyResult ending body.length stopped)
          .job result opened reports closed

/-- Run the lines of a body, up to the first failure if it is strict. The
failure that stopped it is returned. -/
def runBody (session : Session σ ω α) (strict : Bool) :
    List (Script σ) → List (Report σ ω α) × Option Failure × Session σ ω α
  | [] => ([], none, session)
  | line :: lines =>
      let report := session.run line
      let stop :=
        match strict, report.result with
        | true, .error failure => some failure
        | _, _ => none
      match stop with
      | some failure => ([report], some failure, report.last.session)
      | none =>
          let (reports, stopped, session) :=
            report.last.session.runBody strict lines
          (report :: reports, stopped, session)

end

def runAll (session : Session σ ω α) (script : List (Script σ)) :
    List (Report σ ω α) × Session σ ω α :=
  let (reports, _, session) := session.runBody false script
  (reports, session)

/-- Run a script to its end. There is nothing to report where the clock does not
last that long. -/
def runInTime? (session : Session σ ω α) (script : List (Script σ)) :
    Option (List (Report σ ω α) × Session σ ω α) :=
  let (reports, final) := session.runAll script
  if Report.anyOutlastsClock reports then none else some (reports, final)

end Session

end JobProgress
