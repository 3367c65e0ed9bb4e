import JobProgress.Proofs.Checks
import JobProgress.Proofs.Masking

/-! A session can be looked at through a `Guise`, which puts other names in place of those
that are stored or shown, drops the labels that are only logged, and may hide what the
sink answers, or all of the sink. To run a script and then to look is the same as to look and
then to run what the script looks like. So two sessions that look the same at first are seen
to do the same. -/

namespace JobProgress

/-! ## Calls -/

/-- What is put in place of names, and whether the answers of the sink are shown. -/
structure Veil where
  name : String → String
  answers : Bool

namespace Veil

variable {α : Type}

def plain : Veil := ⟨id, true⟩

def deaf (name : String → String) : Veil := ⟨name, false⟩

def mask (veil : Veil) : Mask := .ofNames veil.name

def answer (veil : Veil) (canceled : Bool) : Bool := veil.answers && canceled

def monitor (veil : Veil) (monitor : Monitor α) : Monitor α :=
  veil.mask.monitor monitor (monitor.cancelPoll.map veil.answer)

def call (veil : Veil) : Call → Call
  | .openJob name share totalWork => .openJob (veil.name name) share totalWork
  | .step name _ share => .step (veil.name name) "" share
  | .reestimate _ work => .reestimate "" work
  | .closeJob _ _ => .closeJob "" false
  | .closeAll => .closeAll
  | .checkCanceled _ => .checkCanceled ""

def reading (veil : Veil) (reading : Reading) : Reading :=
  ⟨reading.clock, veil.answer reading.canceled⟩

def reply (veil : Veil) : Reply → Reply
  | .nothing => .nothing
  | .units count => .units count
  | .answer canceled => .answer (veil.answer canceled)

def failure (veil : Veil) : Failure → Failure
  | .call error => .call (veil.mask.error error)
  | .body text => .body text

def result (veil : Veil) : Except Failure Reply → Except Failure Reply
  | .ok reply => .ok (veil.reply reply)
  | .error failure => .error (veil.failure failure)

def told (veil : Veil) (calls : List SinkCall) : List SinkCall := calls.map veil.mask.sinkCall

mutual

/-- A line with other names and without labels, in a session where `change` tells what is
seen to happen to the sink. -/
def line {σ τ : Type} (veil : Veil) (change : (σ → σ) → τ → τ) : Script σ → Script τ
  | .call call => .call (veil.call call)
  | .warn message location => .warn message location
  | .wait duration => .wait duration
  | .direct call => .direct (veil.mask.sinkCall call)
  | .touch happens => .touch (change happens)
  | .job name share totalWork body ending =>
      .job (veil.name name) share totalWork (veil.lines change body) ending

def lines {σ τ : Type} (veil : Veil) (change : (σ → σ) → τ → τ) :
    List (Script σ) → List (Script τ)
  | [] => []
  | line :: rest => veil.line change line :: veil.lines change rest

end

theorem lines_length {σ τ : Type} (veil : Veil) (change : (σ → σ) → τ → τ)
    (script : List (Script σ)) : (veil.lines change script).length = script.length := by
  induction script with
  | nil => rfl
  | cons line rest induction => exact congrArg (· + 1) induction

theorem plain_sinkCall (call : SinkCall) : plain.mask.sinkCall call = call :=
  Mask.sinkCall_eq_self rfl call

theorem plain_told (calls : List SinkCall) : plain.told calls = calls := Mask.map_eq_self rfl calls

theorem plain_answer (canceled : Bool) : plain.answer canceled = canceled :=
  Bool.true_and canceled

theorem plain_result (result : Except Failure Reply) : plain.result result = result := by
  rcases result with failure | reply
  · rcases failure with error | text
    · exact congrArg (Except.error ∘ Failure.call) (Mask.error_eq_self rfl error)
    · rfl
  · cases reply with
    | answer canceled => exact congrArg (Except.ok ∘ Reply.answer) (plain_answer canceled)
    | _ => rfl

theorem plain_monitor (monitor : Monitor α) : plain.monitor monitor = monitor := by
  have scopes : monitor.scopes.map plain.mask.scope = monitor.scopes := List.map_id _
  have topName : monitor.topName.map plain.mask.name = monitor.topName := Option.map_id_apply
  have cancelPoll : monitor.cancelPoll.map plain.answer = monitor.cancelPoll := by
    rw [funext plain_answer]
    exact monitor.cancelPoll.map_id
  rw [Veil.monitor, Mask.monitor, scopes, topName, cancelPoll]

end Veil

structure Outcome.Veils {α : Type} (veil : Veil) (outcome veiled : Outcome α Reply) : Prop where
  result_eq : veiled.result = (outcome.result.map veil.reply).mapError veil.mask.error
  monitor_eq : veiled.monitor = veil.monitor outcome.monitor
  calls_eq : Emission.sinkCalls veiled.emitted = veil.told (Emission.sinkCalls outcome.emitted)

theorem Outcome.Masks.veils {α ρ : Type} {veil : Veil} {monitor : Monitor α}
    {outcome masked : Outcome α ρ}
    (masks : outcome.Masks veil.mask (monitor.cancelPoll.map veil.answer) masked)
    (same : outcome.monitor.cancelPoll = monitor.cancelPoll) {convert : ρ → Reply}
    (shown : ∀ value, veil.reply (convert value) = convert value) :
    (outcome.map convert).Veils veil (masked.map convert) where
  result_eq := by
    rw [map_result, map_result, masks.result_eq]
    cases outcome.result with
    | error error => rfl
    | ok value => exact congrArg Except.ok (shown value).symm
  monitor_eq := by
    rw [map_monitor, map_monitor, masks.monitor_eq, ← same]
    rfl
  calls_eq := masks.calls_eq

namespace Monitor

variable {α : Type} [Amount α]

theorem checkCanceled_veils (veil : Veil) (monitor : Monitor α) (reading : Reading)
    (name : String) :
    (monitor.perform reading (.checkCanceled name)).Veils veil
      ((veil.monitor monitor).perform (veil.reading reading) (.checkCanceled "")) := by
  have sampled : (veil.monitor monitor).cancelPoll.sampleAt (veil.reading reading) =
      ((monitor.cancelPoll.sampleAt reading).1.map veil.answer,
        (monitor.cancelPoll.sampleAt reading).2.map veil.answer) :=
    RateLimited.sample_map veil.answer reading.canceled
  have calls (monitor : Monitor α) (reading : Reading) (name : String) :
      Emission.sinkCalls (monitor.perform reading (.checkCanceled name)).emitted = [] :=
    monitor.checkCanceled_calls reading.clock name reading.canceled
  refine ⟨?_, ?_, ?_⟩
  · rw [perform_checkCanceled, perform_checkCanceled, sampled]
    cases (monitor.cancelPoll.sampleAt reading).2 <;> rfl
  · rw [perform_checkCanceled, perform_checkCanceled, sampled]
    rfl
  · rw [calls, calls]
    rfl

theorem perform_veils (veil : Veil) (monitor : Monitor α) (reading : Reading) (call : Call) :
    (monitor.perform reading call).Veils veil
      ((veil.monitor monitor).perform (veil.reading reading) (veil.call call)) := by
  have same := (monitor.perform_performs reading call).cancelPoll_eq
  cases call with
  | openJob name share totalWork =>
      exact (monitor.openJob_masks veil.mask _ reading.now name share totalWork).veils
        (same nofun) fun _ => rfl
  | step name detail share =>
      exact (monitor.step_masks veil.mask _ name detail "" share).veils (same nofun) fun _ => rfl
  | reestimate name work =>
      exact (monitor.reestimate_masks veil.mask _ name "" work).veils (same nofun) fun _ => rfl
  | closeJob name succeeded =>
      exact (monitor.closeJob_masks veil.mask _ reading.now reading.now name "" succeeded
        false).veils (same nofun) fun _ => rfl
  | closeAll =>
      exact (monitor.closeAll_masks veil.mask _ reading.clock reading.clock).veils
        (same nofun) fun _ => rfl
  | checkCanceled name => exact monitor.checkCanceled_veils veil reading name

end Monitor

/-! ## Sessions -/

/-- A way to look at a session, its sink and its warnings included. The sink that is seen
takes the calls and answers as the sink does. -/
structure Guise (veil : Veil) (σ ω τ υ : Type) [ProgressSink σ] [WarningSink ω] [ProgressSink τ]
    [WarningSink υ] where
  sink : σ → τ
  warnings : ω → υ
  change : (σ → σ) → τ → τ
  receive_eq : ∀ state call,
    (ProgressSink.receive (sink state) (veil.mask.sinkCall call)).1 =
      sink (ProgressSink.receive state call).1
  ask_eq : ∀ state,
    ProgressSink.ask (sink state) =
      (sink (ProgressSink.ask state).1, veil.answer (ProgressSink.ask state).2)
  warn_eq : ∀ state message location,
    (WarningSink.warn (warnings state) message location).1 =
      warnings (WarningSink.warn state message location).1
  change_eq : ∀ happens state, change happens (sink state) = sink (happens state)

/-- What an occurrence did, apart from what is logged. -/
structure Sight (σ ω α : Type) where
  result : Except Failure Reply
  told : List SinkCall
  session : Session σ ω α

def Occurrence.sight {σ ω α : Type} (occurrence : Occurrence σ ω α) : Sight σ ω α :=
  ⟨occurrence.result, Emission.sinkCalls occurrence.after.emitted, occurrence.after.session⟩

namespace Guise

variable {veil : Veil} {σ ω τ υ α : Type} [ProgressSink σ] [WarningSink ω] [ProgressSink τ]
  [WarningSink υ]

def plain : Guise .plain σ ω σ ω where
  sink := id
  warnings := id
  change := id
  receive_eq state call := by
    rw [Veil.plain_sinkCall]
    rfl
  ask_eq state := by
    rw [Veil.plain_answer]
    rfl
  warn_eq _ _ _ := rfl
  change_eq _ _ := rfl

/-- Only the monitor is seen. -/
def alone (name : String → String) : Guise (.deaf name) σ ω NullSink IgnoredWarnings where
  sink _ := ⟨⟩
  warnings _ := ⟨⟩
  change _ := id
  receive_eq _ _ := rfl
  ask_eq _ := rfl
  warn_eq _ _ _ := rfl
  change_eq _ _ := rfl

def session (guise : Guise veil σ ω τ υ) (session : Session σ ω α) : Session τ υ α where
  monitor := veil.monitor session.monitor
  sink := guise.sink session.sink
  warnings := guise.warnings session.warnings
  clock := session.clock

def sight (guise : Guise veil σ ω τ υ) (occurrence : Occurrence σ ω α) : Sight τ υ α where
  result := veil.result occurrence.result
  told := veil.told (Emission.sinkCalls occurrence.after.emitted)
  session := guise.session occurrence.after.session

theorem plain_session (session : Session σ ω α) : plain.session session = session := by
  rw [Guise.session, Veil.plain_monitor]
  rfl

theorem plain_sight (occurrence : Occurrence σ ω α) :
    plain.sight occurrence = occurrence.sight := by
  rw [sight, Veil.plain_result, Veil.plain_told, plain_session]
  rfl

/-! ## One call -/

theorem handed_eq (guise : Guise veil σ ω τ υ) (state : σ) (calls : List SinkCall) :
    Session.handed (guise.sink state) (veil.told calls) =
      guise.sink (Session.handed state calls) := by
  induction calls generalizing state with
  | nil => rfl
  | cons call calls induction =>
      change Session.handed (ProgressSink.receive (guise.sink state)
        (veil.mask.sinkCall call)).1 (veil.told calls) = _
      rw [guise.receive_eq]
      exact induction _

theorem settle_session (guise : Guise veil σ ω τ υ) (session : Session σ ω α) {ρ κ : Type}
    {outcome : Outcome α ρ} {veiled : Outcome α κ}
    (monitor : veiled.monitor = veil.monitor outcome.monitor)
    (calls : Emission.received veiled.emitted = veil.told (Emission.received outcome.emitted)) :
    ((guise.session session).settle veiled).session =
      guise.session (session.settle outcome).session := by
  have sink := guise.handed_eq session.sink (Emission.received outcome.emitted)
  rw [← calls, ← Session.deliver_sink, ← Session.deliver_sink] at sink
  have closed : (guise.session session).monitor.depth - veiled.monitor.depth =
      session.monitor.depth - outcome.monitor.depth := by
    rw [monitor]
    exact congrArg₂ (· - ·) Mask.depth_eq Mask.depth_eq
  change Session.mk veiled.monitor (Session.deliver (guise.sink session.sink) veiled.emitted).1
    (guise.warnings session.warnings) (session.clock.afterClosing
      ((guise.session session).monitor.depth - veiled.monitor.depth)) = _
  rw [closed, monitor, sink]
  rfl

theorem read_eq (guise : Guise veil σ ω τ υ) (session : Session σ ω α) (call : Call) :
    (guise.session session).read (veil.call call) =
      (guise.session (session.read call).1, veil.reading (session.read call).2) := by
  have unasked : (⟨session.clock, false⟩ : Reading) = veil.reading ⟨session.clock, false⟩ :=
    congrArg (Reading.mk session.clock) (Bool.and_false _).symm
  cases call with
  | checkCanceled name =>
      have due : (guise.session session).monitor.cancelPoll.isDue (guise.session session).now =
          session.monitor.cancelPoll.isDue session.now := RateLimited.isDue_map veil.answer
      have asked := guise.ask_eq session.sink
      change (guise.session session).poll =
        (guise.session session.poll.1, veil.reading session.poll.2)
      rw [Session.poll, Session.poll]
      cases timely : session.monitor.cancelPoll.isDue session.now with
      | true =>
          rw [if_pos (due.trans timely), if_pos rfl]
          change (({ guise.session session with
              sink := (ProgressSink.ask (guise.sink session.sink)).1 } : Session τ υ α),
            Reading.mk session.clock (ProgressSink.ask (guise.sink session.sink)).2) = _
          rw [asked]
          rfl
      | false =>
          have early := due.trans timely
          rw [if_neg (Bool.eq_false_iff.mp early), if_neg Bool.false_ne_true]
          exact congrArg (guise.session session, ·) unasked
  | _ => exact congrArg (guise.session session, ·) unasked

variable [Amount α]

theorem perform_sight (guise : Guise veil σ ω τ υ) (session : Session σ ω α) (call : Call) :
    let report := session.perform call
    let seen := (guise.session session).perform (veil.call call)
    seen.result = veil.result report.result ∧
      seen.last.session = guise.session report.last.session ∧
      Emission.sinkCalls seen.last.emitted =
        veil.told (Emission.sinkCalls report.last.emitted) := by
  intro report seen
  have veils := session.monitor.perform_veils veil (session.read call).2 call
  have read := guise.read_eq session call
  refine ⟨?_, ?_, ?_⟩
  · rw [Session.perform_result, Session.perform_result, read]
    refine (congrArg (Except.mapError Failure.call) veils.result_eq).trans ?_
    cases (session.monitor.perform (session.read call).2 call).result <;> rfl
  · rw [Session.perform_last, Session.perform_last, read]
    apply guise.settle_session _ veils.monitor_eq
    rw [(Monitor.perform_trace _ _ _).received_eq, (Monitor.perform_trace _ _ _).received_eq]
    exact veils.calls_eq
  · rw [Session.perform_calls, Session.perform_calls, read]
    exact veils.calls_eq

theorem conclude_sight (guise : Guise veil σ ω τ υ) (session : Session σ ω α) (job : String)
    (depth : Nat) (result : Except Failure Reply) :
    let concluded := session.conclude job depth result
    let seen := (guise.session session).conclude (veil.name job) depth (veil.result result)
    seen.1 = veil.result concluded.1 ∧
      seen.2.session = guise.session concluded.2.session ∧
      Emission.sinkCalls seen.2.emitted =
        veil.told (Emission.sinkCalls concluded.2.emitted) := by
  intro concluded seen
  have masks := session.monitor.conclude_masks veil.mask
    (session.monitor.cancelPoll.map veil.answer) session.clock session.clock job (veil.name job)
    depth result.isOk (veil.result result).isOk
  have polls :=
    (session.monitor.conclude_closing session.clock job depth result.isOk).cancelPoll_eq
  have returned : ((guise.session session).monitor.conclude (guise.session session).clock
      (veil.name job) depth (veil.result result).isOk).result =
        (session.monitor.conclude session.clock job depth result.isOk).result.mapError
          veil.mask.error := masks.result_eq
  refine ⟨?_, ?_, ?_⟩
  · simp only [seen, concluded, Session.conclude, returned]
    cases (session.monitor.conclude session.clock job depth result.isOk).result <;> rfl
  · rw [Session.conclude_last, Session.conclude_last]
    apply guise.settle_session
    · exact masks.monitor_eq.trans (by rw [Veil.monitor, polls])
    · rw [(Monitor.conclude_trace _ _ _ _ _).received_eq,
        (Monitor.conclude_trace _ _ _ _ _).received_eq]
      exact masks.calls_eq
  · rw [Session.conclude_calls, Session.conclude_calls]
    exact masks.calls_eq

/-! ## Scripts

The induction is on the lines of the script, and on the lines of the bodies of its jobs. -/

theorem bodyResult_eq (veil : Veil) (ending : Ending) (count : Nat) (stopped : Option Failure) :
    Session.bodyResult ending count (stopped.map veil.failure) =
      veil.result (Session.bodyResult ending count stopped) := by
  cases stopped with
  | some failure => rfl
  | none =>
      rw [Option.map_none, Session.bodyResult]
      cases ending.failure <;> rfl

omit [Amount α] in
theorem sight_eq (guise : Guise veil σ ω τ υ) {occurrence : Occurrence σ ω α}
    {seen : Occurrence τ υ α} (result : seen.result = veil.result occurrence.result)
    (last : seen.after.session = guise.session occurrence.after.session)
    (told : Emission.sinkCalls seen.after.emitted =
      veil.told (Emission.sinkCalls occurrence.after.emitted)) :
    seen.sight = guise.sight occurrence := by
  rw [Occurrence.sight, result, told, last]
  rfl

mutual

theorem run_sight (guise : Guise veil σ ω τ υ) (session : Session σ ω α) (line : Script σ) :
    let report := session.run line
    let seen := (guise.session session).run (veil.line guise.change line)
    seen.result = veil.result report.result ∧
      seen.last.session = guise.session report.last.session ∧
      (Report.course (guise.session session) (veil.line guise.change line) seen).map (·.sight) =
        (Report.course session line report).map guise.sight := by
  cases line with
  | call call =>
      rcases guise.perform_sight session call with ⟨result, last, told⟩
      rw [Veil.line, Session.run, Session.run]
      exact ⟨result, last, congrArg ([·]) (guise.sight_eq result last told)⟩
  | warn message location =>
      have last : ((guise.session session).run (.warn message location)).last.session =
          guise.session (session.run (.warn message location)).last.session :=
        congrArg (fun warnings => { guise.session session with warnings })
          (guise.warn_eq session.warnings message location)
      refine ⟨rfl, last, congrArg ([·]) (guise.sight_eq rfl last ?_)⟩
      exact (Emission.sinkCalls_ofLogEvents _).trans
        (congrArg veil.told (Emission.sinkCalls_ofLogEvents _)).symm
  | wait duration => exact ⟨rfl, rfl, rfl⟩
  | direct call =>
      have last : ((guise.session session).run (.direct (veil.mask.sinkCall call))).last.session =
          guise.session (session.run (.direct call)).last.session :=
        congrArg (fun sink => { guise.session session with sink })
          (guise.receive_eq session.sink call)
      refine ⟨rfl, last, congrArg ([·]) (guise.sight_eq rfl last ?_)⟩
      exact (Session.sinkCalls_deliver _ [.foreign _]).trans
        (congrArg veil.told (Session.sinkCalls_deliver _ [.foreign _])).symm
  | touch change =>
      have last : ((guise.session session).run (.touch (guise.change change))).last.session =
          guise.session (session.run (.touch change)).last.session :=
        congrArg (fun sink => { guise.session session with sink })
          (guise.change_eq change session.sink)
      exact ⟨rfl, last, congrArg ([·]) (guise.sight_eq rfl last rfl)⟩
  | job name share totalWork body ending =>
      rcases guise.perform_sight session (.openJob name share totalWork) with
        ⟨result, last, told⟩
      rw [Veil.line]
      cases opens : (session.perform (.openJob name share totalWork)).result with
      | error failure =>
          have seenOpens := result.trans (congrArg veil.result opens)
          rw [Session.run_job_of_refused opens, Session.run_job_of_refused seenOpens]
          exact ⟨result, last, congrArg ([·]) (guise.sight_eq result last told)⟩
      | ok reply =>
          have seenOpens := result.trans (congrArg veil.result opens)
          let opened := (session.perform (.openJob name share totalWork)).last
          let seenOpened :=
            ((guise.session session).perform (.openJob (veil.name name) share totalWork)).last
          let ran := opened.session.runBody ending.strict body
          let seenRan := seenOpened.session.runBody ending.strict (veil.lines guise.change body)
          rcases guise.runBody_sight opened.session ending.strict body with
            ⟨stopped, ended, inside⟩
          rw [← last] at stopped ended inside
          have depth : seenOpened.session.monitor.depth = opened.session.monitor.depth :=
            (congrArg (·.monitor.depth) last).trans Mask.depth_eq
          have closes : seenRan.2.2.conclude (veil.name name) seenOpened.session.monitor.depth
              (Session.bodyResult ending (veil.lines guise.change body).length seenRan.2.1) =
                (guise.session ran.2.2).conclude (veil.name name) opened.session.monitor.depth
                  (veil.result (Session.bodyResult ending body.length ran.2.1)) := by
            rw [← bodyResult_eq, ← stopped, ← ended, depth, veil.lines_length]
            rfl
          rcases guise.conclude_sight ran.2.2 name opened.session.monitor.depth
            (Session.bodyResult ending body.length ran.2.1) with ⟨returned, closed, toldLast⟩
          rw [← closes] at returned closed toldLast
          rw [Session.run_job_of_opened opens, Session.run_job_of_opened seenOpens]
          refine ⟨returned, closed, ?_⟩
          rw [Report.course, Report.course, List.map_cons, List.map_cons, List.map_append,
            List.map_append]
          refine congrArg₂ List.cons (guise.sight_eq rfl last told) ?_
          exact congrArg₂ List.append inside
            (congrArg ([·]) (guise.sight_eq returned closed toldLast))

theorem runBody_sight (guise : Guise veil σ ω τ υ) (session : Session σ ω α) (strict : Bool)
    (script : List (Script σ)) :
    let ran := session.runBody strict script
    let seen := (guise.session session).runBody strict (veil.lines guise.change script)
    seen.2.1 = ran.2.1.map veil.failure ∧
      seen.2.2 = guise.session ran.2.2 ∧
      (Report.courseOf (guise.session session) (veil.lines guise.change script)
          seen.1).map (·.sight) =
        (Report.courseOf session script ran.1).map guise.sight := by
  cases script with
  | nil => exact ⟨rfl, rfl, rfl⟩
  | cons line rest =>
      rcases guise.run_sight session line with ⟨result, last, first⟩
      rcases guise.runBody_sight (session.run line).last.session strict rest with
        ⟨stopped, ended, later⟩
      rw [Veil.lines, Session.runBody.eq_def, Session.runBody.eq_def]
      dsimp only
      rw [result, last]
      have both : (Report.courseOf (guise.session session)
          (veil.line guise.change line :: veil.lines guise.change rest)
          ((guise.session session).run (veil.line guise.change line) ::
            ((guise.session (session.run line).last.session).runBody strict
              (veil.lines guise.change rest)).1)).map (·.sight) =
          (Report.courseOf session (line :: rest) (session.run line ::
            ((session.run line).last.session.runBody strict rest).1)).map guise.sight := by
        rw [Report.courseOf, Report.courseOf, List.map_append, List.map_append, first, last, later]
      cases (session.run line).result with
      | ok reply => cases strict <;> exact ⟨stopped, ended, both⟩
      | error failure =>
          cases strict with
          | false => exact ⟨stopped, ended, both⟩
          | true =>
              have alone : (Report.courseOf (guise.session session)
                  (veil.line guise.change line :: veil.lines guise.change rest)
                  [(guise.session session).run (veil.line guise.change line)]).map (·.sight) =
                  (Report.courseOf session (line :: rest) [session.run line]).map guise.sight := by
                simpa [Report.courseOf] using first
              exact ⟨rfl, rfl, alone⟩

end

theorem course_sight (guise : Guise veil σ ω τ υ) (session : Session σ ω α)
    (script : List (Script σ)) :
    ((guise.session session).course (veil.lines guise.change script)).map (·.sight) =
      (session.course script).map guise.sight :=
  (guise.runBody_sight session false script).2.2

theorem runAll_session (guise : Guise veil σ ω τ υ) (session : Session σ ω α)
    (script : List (Script σ)) :
    ((guise.session session).runAll (veil.lines guise.change script)).2 =
      guise.session (session.runAll script).2 :=
  (guise.runBody_sight session false script).2.1

end Guise

/-! ## The monitor alone

What a monitor returns and sends out hangs on the calls only, whatever sink it has. -/

def Script.alone {σ : Type} (name : String → String) (script : List (Script σ)) :
    List (Script NullSink) :=
  (Veil.deaf name).lines (fun _ => id) script

structure Figures where
  returned : Except Failure Reply
  told : List SinkCall
  depth : Nat

def Occurrence.figures {σ ω α : Type} (name : String → String)
    (occurrence : Occurrence σ ω α) : Figures where
  returned := (Veil.deaf name).result occurrence.result
  told := (Veil.deaf name).told (Emission.sinkCalls occurrence.after.emitted)
  depth := occurrence.after.session.monitor.depth

def Sight.figures {σ ω α : Type} (sight : Sight σ ω α) : Figures :=
  ⟨sight.result, sight.told, sight.session.monitor.depth⟩

namespace Session

variable {σ ω τ υ α : Type} [ProgressSink σ] [WarningSink ω] [ProgressSink τ] [WarningSink υ]
  [Amount α]

theorem course_figures (name : String → String) (session : Session σ ω α)
    (script : List (Script σ)) :
    (session.course script).map (·.figures name) =
      (((Guise.alone name).session session).course (Script.alone name script)).map
        fun occurrence => occurrence.sight.figures := by
  have seen := (Guise.alone name).course_sight session script
  have depth (occurrence : Occurrence σ ω α) :
      occurrence.figures name = ((Guise.alone name).sight occurrence).figures :=
    congrArg (Figures.mk _ _) Mask.depth_eq.symm
  have shown := congrArg (List.map Sight.figures) seen
  rw [List.map_map, List.map_map] at shown
  rw [List.map_congr_left fun occurrence _ => depth occurrence]
  exact shown.symm

/-- Two monitors that are set up alike and called alike do alike, with whatever sinks. -/
theorem figures_of_alone (name : String → String) (config : Config) (sink : σ) (warnings : ω)
    (clock : Clock) (otherSink : τ) (otherWarnings : υ) {first : List (Script σ)}
    {second : List (Script τ)}
    (same : Script.alone name first = Script.alone name second) :
    ((ofConfig config sink warnings clock : Session σ ω α).course first).map (·.figures name) =
      ((ofConfig config otherSink otherWarnings clock : Session τ υ α).course second).map
        (·.figures name) := by
  rw [course_figures, course_figures, same]
  rfl

end Session

end JobProgress
