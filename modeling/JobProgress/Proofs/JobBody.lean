import JobProgress.Proofs.Locality
import JobProgress.Proofs.SinkProtocol

/-! A job is closed when its body ends, whatever the body did and however it ended.
Jobs left open inside are closed first, in a loop that closes one more job at every
turn; a job that the body closed itself is left alone. What the body returned is
returned. -/

namespace JobProgress

open SinkCall

theorem SinkCall.count_done_of_within {calls : List SinkCall}
    (within : ∀ call ∈ calls, call.IsWithinTask) : calls.count .done = 0 :=
  List.count_eq_zero.mpr fun member => within .done member

namespace Monitor

variable {α : Type} [Amount α] {monitor final : Monitor α} {scope : Scope α}
  {outer base : List (Scope α)} {sent : List Emission} {now : Instant} {clock later : Clock}
  {job name : String} {depth : Nat} {succeeded : Bool}

/-! ## Closing one job -/

theorem closeJob_depth (monitor : Monitor α) (now : Instant) (name : String)
    (succeeded : Bool) :
    (monitor.closeJob now name succeeded).monitor.depth = monitor.depth - 1 := by
  cases stack : monitor.scopes with
  | nil =>
      rw [closeJob_of_idle stack]
      simp [refuse, Monitor.depth, stack]
  | cons scope outer =>
      rw [closeJob_of_open stack]
      simp [Monitor.depth, stack]

theorem closeJob_accepts (opened : 0 < monitor.depth) (now : Instant) (name : String)
    (succeeded : Bool) : ∃ units, (monitor.closeJob now name succeeded).result = .ok units := by
  rcases List.exists_cons_of_length_pos opened with ⟨scope, outer, stack⟩
  rw [closeJob_of_open stack]
  exact ⟨_, rfl⟩

theorem closeJob_suffix (stands : base <:+ monitor.scopes)
    (afterwards : base.length < (monitor.closeJob now name succeeded).monitor.depth) :
    base <:+ (monitor.closeJob now name succeeded).monitor.scopes := by
  have fewer := monitor.closeJob_depth now name succeeded
  exact suffix_perform stands (by omega) ⟨⟨.frozen now now, false⟩, .closeJob name succeeded⟩
    afterwards

theorem closeJob_count_done (stack : monitor.scopes = scope :: outer) (now : Instant)
    (name : String) (succeeded : Bool) :
    (Emission.sinkCalls (monitor.closeJob now name succeeded).emitted).count .done =
      if outer.length = 0 then 1 else 0 := by
  have shown := count_done_of_within (showTopName_within monitor)
  cases outer with
  | nil =>
      rcases closeJob_calls_root stack now name succeeded with ⟨reports, few, calls⟩
      rw [calls, List.count_append, List.count_cons_self, count_done_of_within few.within, shown]
      rfl
  | cons parent outer =>
      rcases closeJob_calls_nested stack now name succeeded with ⟨reports, few, calls⟩
      rw [calls, List.count_append, count_done_of_within few.within, shown]
      rfl

theorem closeJob_not_done
    (ongoing : 0 < (monitor.closeJob now name succeeded).monitor.depth) :
    (Emission.sinkCalls (monitor.closeJob now name succeeded).emitted).count .done = 0 := by
  rw [closeJob_depth] at ongoing
  rcases List.exists_cons_of_length_pos (Nat.lt_of_lt_of_le ongoing (Nat.sub_le _ _)) with
    ⟨scope, outer, stack⟩
  rw [closeJob_count_done stack]
  cases outer with
  | nil => simp [Monitor.depth, stack] at ongoing
  | cons parent outer => rfl

/-! ## Closing what was left open -/

/-- The loop that closes jobs left open inside `job`: as long as more than `depth` jobs
are open, the innermost is closed. The clock goes on with every turn. -/
inductive Unwinds (job : String) (depth : Nat) :
    Clock → Monitor α → List Emission → Clock → Monitor α → Prop
  | finished {clock : Clock} {monitor : Monitor α} :
      ¬depth < monitor.depth → Unwinds job depth clock monitor [] clock monitor
  | turn {clock later : Clock} {monitor final : Monitor α} {sent units} :
      depth < monitor.depth →
      (monitor.closeJob clock.now (monitor.currentJob.getD "") false).result = .ok units →
      Unwinds job depth clock.next
        (monitor.closeJob clock.now (monitor.currentJob.getD "") false).monitor sent later final →
      Unwinds job depth clock monitor
        (Emission.ofJobEvent (.leftOpen job (monitor.currentJob.getD "")) ++
          (monitor.closeJob clock.now (monitor.currentJob.getD "") false).emitted ++ sent)
        later final

theorem closeLeftOpen_unwinds (monitor : Monitor α) (clock : Clock) (job : String)
    (depth : Nat) :
    let unwound := monitor.closeLeftOpen clock job (monitor.depth - depth)
    unwound.result = .ok () ∧
      Unwinds job depth clock monitor unwound.emitted
        (clock.afterClosing (monitor.depth - depth)) unwound.monitor := by
  generalize turns : monitor.depth - depth = count
  induction count generalizing monitor clock with
  | zero => exact ⟨rfl, .finished (by omega)⟩
  | succ count induction =>
      have deeper : depth < monitor.depth := by omega
      rcases closeJob_accepts (Nat.zero_lt_of_lt deeper) clock.now (monitor.currentJob.getD "")
        false with ⟨units, accepted⟩
      have fewer : (monitor.closeJob clock.now (monitor.currentJob.getD "") false).monitor.depth -
          depth = count := by
        rw [closeJob_depth]
        omega
      rcases induction _ clock.next fewer with ⟨accepts, unwinds⟩
      rw [closeLeftOpen]
      simp only [accepted]
      exact ⟨accepts, .turn deeper accepted unwinds⟩

namespace Unwinds

theorem depth_eq (unwinds : Unwinds job depth clock monitor sent later final) :
    final.depth = min depth monitor.depth := by
  induction unwinds with
  | finished done => omega
  | turn deeper _ _ induction =>
      rw [closeJob_depth] at induction
      omega

theorem suffix (unwinds : Unwinds job depth clock monitor sent later final)
    (stands : base <:+ monitor.scopes) (inside : base.length < final.depth) :
    base <:+ final.scopes := by
  induction unwinds with
  | finished _ => exact stands
  | turn _ _ rest induction =>
      have fewest := rest.depth_eq
      exact induction (closeJob_suffix stands (by omega)) inside

theorem not_done (unwinds : Unwinds job depth clock monitor sent later final)
    (ongoing : 0 < final.depth) : (Emission.sinkCalls sent).count .done = 0 := by
  induction unwinds with
  | finished _ => rfl
  | turn _ _ rest induction =>
      have fewest := rest.depth_eq
      rw [Emission.sinkCalls_append, Emission.sinkCalls_append, Emission.sinkCalls_ofJobEvent,
        List.nil_append, List.count_append, closeJob_not_done (by omega), induction ongoing]

end Unwinds

/-! ## The end of a body -/

/-- The loop ends, and then the job is closed if it is the innermost. -/
theorem conclude_unwinds (monitor : Monitor α) (clock : Clock) (job : String) (depth : Nat)
    (succeeded : Bool) :
    ∃ sent later unwound, Unwinds job depth clock monitor sent later unwound ∧
      monitor.conclude clock job depth succeeded =
        if unwound.depth = depth then
          ((unwound.closeJob later.now job succeeded).map fun _ => ()).after sent
        else
          ⟨.ok (), unwound, sent⟩ := by
  rcases monitor.closeLeftOpen_unwinds clock job depth with ⟨accepts, unwinds⟩
  refine ⟨_, _, _, unwinds, ?_⟩
  -- The error branch of the definition is never taken.
  rw [conclude]
  simp only [accepts]
  split
  · rfl
  · rw [← accepts]

theorem conclude_suffix (stands : base <:+ monitor.scopes)
    (inside : base.length < (monitor.conclude clock job depth succeeded).monitor.depth) :
    base <:+ (monitor.conclude clock job depth succeeded).monitor.scopes := by
  rcases monitor.conclude_unwinds clock job depth succeeded with
    ⟨sent, later, unwound, unwinds, equal⟩
  rw [equal] at inside ⊢
  split at inside
  · next innermost =>
      rw [if_pos innermost]
      have fewer := unwound.closeJob_depth later.now job succeeded
      have deeper : base.length < (unwound.closeJob later.now job succeeded).monitor.depth := inside
      exact closeJob_suffix (unwinds.suffix stands (by omega)) deeper
  · next other =>
      rw [if_neg other]
      exact unwinds.suffix stands inside

theorem conclude_not_done
    (ongoing : 0 < (monitor.conclude clock job depth succeeded).monitor.depth) :
    (Emission.sinkCalls (monitor.conclude clock job depth succeeded).emitted).count .done = 0 := by
  rcases monitor.conclude_unwinds clock job depth succeeded with
    ⟨sent, later, unwound, unwinds, equal⟩
  rw [equal] at ongoing ⊢
  split at ongoing
  · next innermost =>
      rw [if_pos innermost]
      have fewer := unwound.closeJob_depth later.now job succeeded
      have stillOpen : 0 < (unwound.closeJob later.now job succeeded).monitor.depth := ongoing
      rw [Outcome.after_emitted, Emission.sinkCalls_append, List.count_append,
        unwinds.not_done (by omega), Outcome.map_emitted, closeJob_not_done stillOpen]
  · next other =>
      rw [if_neg other]
      exact unwinds.not_done ongoing

/-- Of a job that was opened, its body may have closed it; otherwise it is closed now. -/
theorem conclude_closes (monitor : Monitor α) (clock : Clock) (job : String) (depth : Nat)
    (succeeded : Bool) :
    (monitor.conclude clock job (depth + 1) succeeded).result = .ok () ∧
      (monitor.conclude clock job (depth + 1) succeeded).monitor.depth =
        min depth monitor.depth := by
  rcases monitor.conclude_unwinds clock job (depth + 1) succeeded with
    ⟨sent, later, unwound, unwinds, equal⟩
  have reached := unwinds.depth_eq
  rw [equal]
  split
  · next innermost =>
      have opened : 0 < unwound.depth := by omega
      rcases closeJob_accepts opened later.now job succeeded with
        ⟨units, accepted⟩
      refine ⟨?_, ?_⟩
      · rw [Outcome.after_result, Outcome.map_result, accepted]
        rfl
      · rw [Outcome.after_monitor, Outcome.map_monitor, closeJob_depth]
        omega
  · next closed =>
      refine ⟨rfl, ?_⟩
      change unwound.depth = min depth monitor.depth
      omega

theorem conclude_stack (stands : base <:+ monitor.scopes) (inside : base.length < monitor.depth)
    (clock : Clock) (job : String) (succeeded : Bool) :
    let concluded := monitor.conclude clock job (base.length + 1) succeeded
    concluded.monitor.scopes = settleParent base ∧
      (Emission.sinkCalls concluded.emitted).count .done = if base.length = 0 then 1 else 0 := by
  intro concluded
  rcases monitor.conclude_unwinds clock job (base.length + 1) succeeded with
    ⟨sent, later, unwound, unwinds, equal⟩
  have reached : unwound.depth = base.length + 1 := by
    rw [unwinds.depth_eq]
    omega
  rcases exists_cons_of_suffix (unwinds.suffix stands (by omega)) reached with ⟨current, stack⟩
  have closes : concluded =
      ((unwound.closeJob later.now job succeeded).map fun _ => ()).after sent :=
    equal.trans (if_pos reached)
  rw [closes]
  constructor
  · exact closeJob_scopes stack ⟨later, false⟩ job succeeded
  · rw [Outcome.after_emitted, Emission.sinkCalls_append, List.count_append,
      unwinds.not_done (by omega), Outcome.map_emitted, closeJob_count_done stack, Nat.zero_add]

/-! ## Calls of a body -/

theorem openJob_not_done (monitor : Monitor α) (now : Instant) (name : String)
    (share totalWork : UInt32) :
    (Emission.sinkCalls (monitor.openJob now name share totalWork).emitted).count .done = 0 := by
  have nested (parent outer granted) : (Emission.sinkCalls
      (monitor.openNested parent outer now name granted totalWork.toNat).emitted).count .done =
        0 := by
    rw [openNested_calls, List.count_append, count_done_of_within (resync_within _ _)]
    rfl
  rcases monitor.openJob_cases now name share totalWork with
    ⟨_, equal⟩ | ⟨parent, outer, _, _, equal⟩ | ⟨parent, outer, _, _, _, equal⟩ |
    ⟨_, _, _, _, _, equal⟩
  · rw [equal, openRoot_calls]
    rfl
  · rw [equal, nested]
  · rw [equal, Outcome.after_emitted, Emission.sinkCalls_append, Emission.sinkCalls_ofJobEvent,
      List.nil_append, nested]
  · rw [equal]
    rfl

theorem perform_not_done {reading : Reading} {call : Call}
    (ongoing : 0 < (monitor.perform reading call).monitor.depth) :
    (Emission.sinkCalls (monitor.perform reading call).emitted).count .done = 0 := by
  cases call with
  | openJob name share totalWork => exact monitor.openJob_not_done reading.now name share totalWork
  | step name detail share =>
      cases stack : monitor.scopes with
      | nil =>
          rw [perform, step_of_idle stack]
          rfl
      | cons scope outer =>
          rcases step_calls stack name detail share with ⟨reports, few, calls⟩
          rw [perform, Outcome.map_emitted, calls, List.count_append, List.count_append,
            count_done_of_within few.within, count_done_of_within (resync_within _ _)]
          rfl
  | reestimate name work =>
      cases stack : monitor.scopes with
      | nil =>
          rw [perform, reestimate_of_idle stack]
          rfl
      | cons scope outer =>
          rw [perform, Outcome.map_emitted, reestimate_calls stack]
          rfl
  | closeJob name succeeded => exact closeJob_not_done ongoing
  | closeAll =>
      have idle := (monitor.closeAll_idle reading.clock).1
      rw [perform, Outcome.map_monitor, Monitor.depth, idle] at ongoing
      exact absurd ongoing (Nat.lt_irrefl 0)
  | checkCanceled name => rw [perform, Outcome.map_emitted, checkCanceled_calls, List.count_nil]

theorem openJob_opens {reading : Reading} {share totalWork : UInt32} {reply : Reply}
    (accepted : (monitor.perform reading (.openJob name share totalWork)).result = .ok reply) :
    ∃ job base,
      (monitor.perform reading (.openJob name share totalWork)).monitor.scopes = job :: base ∧
        base.length = monitor.depth := by
  rw [perform] at accepted ⊢
  rcases monitor.openJob_cases reading.now name share totalWork with
    ⟨idle, equal⟩ | ⟨parent, outer, stack, _, equal⟩ | ⟨parent, outer, stack, _, _, equal⟩ |
    ⟨_, _, _, _, _, equal⟩
  · rw [equal, Monitor.depth, idle]
    exact ⟨_, _, rfl, rfl⟩
  · rw [equal, Monitor.depth, stack]
    exact ⟨_, _, rfl, rfl⟩
  · rw [equal, Monitor.depth, stack]
    exact ⟨_, _, rfl, rfl⟩
  · rw [equal] at accepted
    cases accepted

end Monitor

namespace Session

variable {σ ω α : Type} [ProgressSink σ] [Amount α] {session final : Session σ ω α}
  {moment : Moment σ ω α} {moments : List (Moment σ ω α)} {base : List (Scope α)}

theorem Leads.suffix (leads : Leads session moment) (stands : base <:+ session.monitor.scopes)
    (before : base.length < session.monitor.depth)
    (afterwards : base.length < moment.session.monitor.depth) :
    base <:+ moment.session.monitor.scopes := by
  cases leads with
  | perform call =>
      rw [perform_monitor] at afterwards ⊢
      exact Monitor.suffix_perform stands before ⟨(session.read call).2, call⟩ afterwards
  | conclude job depth result =>
      rw [conclude_monitor] at afterwards ⊢
      exact Monitor.conclude_suffix stands afterwards
  | beside _ same => exact same ▸ stands

theorem Leads.not_done (leads : Leads session moment)
    (ongoing : 0 < moment.session.monitor.depth) :
    (Emission.sinkCalls moment.emitted).count .done = 0 := by
  cases leads with
  | perform call =>
      rw [perform_monitor] at ongoing
      rw [perform_calls]
      exact Monitor.perform_not_done ongoing
  | conclude job depth result =>
      rw [conclude_monitor] at ongoing
      rw [conclude_calls]
      exact Monitor.conclude_not_done ongoing
  | beside silent _ => rw [silent, List.count_nil]

/-- What lies below a job stays from moment to moment, until the job is closed. -/
theorem Follows.suffix (follows : Follows session moments final)
    (stands : base <:+ session.monitor.scopes) (before : base.length < session.monitor.depth)
    (inside : ∀ moment ∈ moments, base.length < moment.session.monitor.depth) :
    base <:+ final.monitor.scopes ∧ base.length < final.monitor.depth := by
  induction follows with
  | nil session => exact ⟨stands, before⟩
  | cons leads _ induction =>
      rcases List.forall_mem_cons.mp inside with ⟨first, later⟩
      exact induction (leads.suffix stands before first) first later

theorem Follows.not_done (follows : Follows session moments final)
    (ongoing : ∀ moment ∈ moments, 0 < moment.session.monitor.depth) :
    (Emission.sinkCalls (moments.flatMap (·.emitted))).count .done = 0 := by
  induction follows with
  | nil session => rfl
  | cons leads _ induction =>
      rcases List.forall_mem_cons.mp ongoing with ⟨first, later⟩
      rw [List.flatMap_cons, Emission.sinkCalls_append, List.count_append,
        leads.not_done first, induction later]

theorem accepted_of_perform {call : Call} {reply : Reply}
    (accepted : (session.perform call).result = .ok reply) :
    (session.monitor.perform (session.read call).2 call).result = .ok reply := by
  rw [perform_result] at accepted
  cases result : (session.monitor.perform (session.read call).2 call).result with
  | error error =>
      rw [result] at accepted
      cases accepted
  | ok other =>
      rw [result] at accepted
      cases accepted
      rfl

theorem Follows.conclude_stack {job : Scope α} (follows : Follows session moments final)
    (stack : session.monitor.scopes = job :: base)
    (keeps : ∀ moment ∈ moments, base.length < moment.session.monitor.depth) (name : String)
    (result : Except Failure Reply) :
    let closed := (final.conclude name (base.length + 1) result).2
    closed.session.monitor.scopes = Monitor.settleParent base ∧
      (Emission.sinkCalls (moments.flatMap (·.emitted) ++ closed.emitted)).count .done =
        if base.length = 0 then 1 else 0 := by
  intro closed
  have stands : base <:+ session.monitor.scopes := stack ▸ List.suffix_cons job base
  have deeper : base.length < session.monitor.depth := by
    rw [Monitor.depth, stack]
    exact Nat.lt_succ_self _
  rcases follows.suffix stands deeper keeps with ⟨stays, stillDeeper⟩
  rcases Monitor.conclude_stack stays stillDeeper final.clock name result.isOk with ⟨scopes, done⟩
  have ongoing : ∀ moment ∈ moments, 0 < moment.session.monitor.depth :=
    fun moment member => Nat.zero_lt_of_lt (keeps moment member)
  constructor
  · rw [conclude_monitor, scopes]
  · rw [Emission.sinkCalls_append, List.count_append, follows.not_done ongoing, conclude_calls,
      done, Nat.zero_add]

theorem Follows.conclude_opened {name : String} {share totalWork : UInt32} {reply : Reply}
    (opens : (session.perform (.openJob name share totalWork)).result = .ok reply)
    (follows : Follows (session.perform (.openJob name share totalWork)).last.session moments
      final)
    (keeps : ∀ moment ∈ moments,
      (session.perform (.openJob name share totalWork)).last.session.monitor.depth ≤
        moment.session.monitor.depth)
    (result : Except Failure Reply) :
    let opened := (session.perform (.openJob name share totalWork)).last
    let closed := (final.conclude name opened.session.monitor.depth result).2
    (∀ label succeeded, closed.session.monitor.scopes =
      (opened.session.perform (.closeJob label succeeded)).last.session.monitor.scopes) ∧
      (Emission.sinkCalls (opened.emitted ++ moments.flatMap (·.emitted) ++ closed.emitted)).count
        .done = if session.monitor.depth = 0 then 1 else 0 := by
  intro opened closed
  rcases Monitor.openJob_opens (accepted_of_perform opens) with ⟨job, base, stack, around⟩
  change opened.session.monitor.scopes = job :: base at stack
  have deeper : opened.session.monitor.depth = base.length + 1 := congrArg List.length stack
  have inside : ∀ moment ∈ moments, base.length < moment.session.monitor.depth :=
    fun moment member => Nat.lt_of_lt_of_le (Nat.lt_of_lt_of_eq (Nat.lt_succ_self _) deeper.symm)
      (keeps moment member)
  rcases follows.conclude_stack stack inside name result with ⟨scopes, done⟩
  rw [← deeper] at scopes done
  constructor
  · intro label succeeded
    rw [perform_monitor, Monitor.closeJob_scopes stack]
    exact scopes
  · have ongoing : 0 < opened.session.monitor.depth := by omega
    have opening : (Emission.sinkCalls opened.emitted).count .done = 0 :=
      (Leads.perform session (.openJob name share totalWork)).not_done ongoing
    rw [List.append_assoc, Emission.sinkCalls_append, List.count_append, opening, Nat.zero_add,
      done, ← around]

theorem conclude_returns (session : Session σ ω α) (job : String) (depth : Nat)
    (result : Except Failure Reply) : (session.conclude job (depth + 1) result).1 = result := by
  have closes := session.monitor.conclude_closes session.clock job depth result.isOk
  rw [conclude]
  simp only [closes.1]

theorem conclude_loop (session : Session σ ω α) (job : String) (depth : Nat)
    (result : Except Failure Reply) :
    ∃ emitted later unwound,
      Monitor.Unwinds job depth session.clock session.monitor emitted later unwound ∧
      (session.conclude job depth result).2.session.monitor =
        if unwound.depth = depth then (unwound.closeJob later.now job result.isOk).monitor
        else unwound := by
  rcases session.monitor.conclude_unwinds session.clock job depth result.isOk with
    ⟨emitted, later, unwound, unwinds, equal⟩
  refine ⟨emitted, later, unwound, unwinds, ?_⟩
  rw [conclude_monitor, equal]
  split <;> rfl

theorem conclude_depth (session : Session σ ω α) (job : String) (depth : Nat)
    (result : Except Failure Reply) :
    (session.conclude job (depth + 1) result).2.session.monitor.depth =
      min depth session.monitor.depth := by
  rw [conclude_monitor]
  exact (session.monitor.conclude_closes session.clock job depth result.isOk).2

variable [WarningSink ω]

theorem run_job_of_refused {name : String} {share totalWork : UInt32} {failure : Failure}
    (refused : (session.perform (.openJob name share totalWork)).result = .error failure)
    (body : List (Script σ)) (ending : Ending) :
    session.run (.job name share totalWork body ending) =
      session.perform (.openJob name share totalWork) := by
  rw [run]
  simp only [refused]

theorem run_job_of_opened {name : String} {share totalWork : UInt32} {reply : Reply}
    (opens : (session.perform (.openJob name share totalWork)).result = .ok reply)
    (body : List (Script σ)) (ending : Ending) :
    let opened := (session.perform (.openJob name share totalWork)).last
    let ran := opened.session.runBody ending.strict body
    let concluded := ran.2.2.conclude name opened.session.monitor.depth
      (bodyResult ending body.length ran.2.1)
    session.run (.job name share totalWork body ending) =
      .job concluded.1 opened ran.1 concluded.2 := by
  rw [run]
  simp only [opens]

/-- A job that was opened is closed when its body ends, whatever the body ran and
whatever it returns. The loop over the jobs left open ends, no call in it fails, and what
the body returned is returned. No more jobs are open than before the job, nor more than
the body left. If the body did not close the job itself, the stack is that of a job closed
right after it was opened, and the task is done, once, if it is the job's own. -/
theorem job_closed_after_body (session : Session σ ω α) (name : String)
    (share totalWork : UInt32) (body : List (Script σ)) (ending : Ending)
    (opens : (session.perform (.openJob name share totalWork)).result = .ok .nothing) :
    let opened := (session.perform (.openJob name share totalWork)).last
    let depth := opened.session.monitor.depth
    let ran := opened.session.runBody ending.strict body
    let left := ran.2.2
    (∀ result,
      let closed := (left.conclude name depth result).2
      let sent := Emission.sinkCalls (opened.emitted ++ Report.emittedBy ran.1 ++ closed.emitted)
      (left.conclude name depth result).1 = result ∧
      (∃ emitted later unwound,
        Monitor.Unwinds name depth left.clock left.monitor emitted later unwound ∧
        closed.session.monitor =
          if unwound.depth = depth then (unwound.closeJob later.now name result.isOk).monitor
          else unwound) ∧
      closed.session.monitor.depth = min session.monitor.depth left.monitor.depth ∧
      ((∀ moment ∈ Report.momentsOf ran.1, depth ≤ moment.session.monitor.depth) →
        (∀ label succeeded, closed.session.monitor.scopes =
          (opened.session.perform (.closeJob label succeeded)).last.session.monitor.scopes) ∧
        sent.count .done = if session.monitor.depth = 0 then 1 else 0)) ∧
    session.run (.job name share totalWork body ending) =
      let result := bodyResult ending body.length ran.2.1
      .job result opened ran.1 (left.conclude name depth result).2 := by
  intro opened depth ran left
  rcases Monitor.openJob_opens (accepted_of_perform opens) with ⟨job, base, stack, around⟩
  have deeper : depth = base.length + 1 := congrArg List.length stack
  have returned : ∀ result, (left.conclude name depth result).1 = result := by
    rw [deeper]
    exact left.conclude_returns name base.length
  have follows : Follows opened.session (Report.momentsOf ran.1) left :=
    opened.session.runBody_follows ending.strict body
  constructor
  · intro result closed sent
    refine ⟨returned result, left.conclude_loop name depth result, ?_, ?_⟩
    · rw [← around, ← left.conclude_depth name base.length result, ← deeper]
    · intro keeps
      have closing := follows.conclude_opened opens keeps result
      rwa [Report.flatMap_momentsOf] at closing
  · rw [run_job_of_opened opens body ending]
    exact congrArg (Report.job · opened ran.1 _) (returned _)

/-- The body leaves two jobs open inside its own and fails at a share that is too large.
The job around is then what it would be without the body. -/
theorem job_closed_after_body_of_leftovers :
    let config := { Config.default with sharePolicy := .reject }
    let clock : Clock := .frozen .zero .zero
    let session := ((ofConfig config ⟨⟩ ⟨⟩ clock : Session NullSink IgnoredWarnings Rat).perform
      (.openJob "build" 1 10)).last.session
    let body : List (Script NullSink) :=
      [.call (.openJob "fetch" 2 6), .call (.step "read" "" 3), .call (.openJob "unpack" 1 2),
        .call (.openJob "check" 9 1)]
    let ending : Ending := ⟨true, none⟩
    let opened := (session.perform (.openJob "copy" 4 4)).last
    let depth := opened.session.monitor.depth
    let ran := opened.session.runBody ending.strict body
    let left := ran.2.2
    let failure := .error (.call (.shareExceedsRemaining "check" 9 2))
    let closed := (left.conclude "copy" depth failure).2
    left.monitor.depth = 4 ∧
      session.run (.job "copy" 4 4 body ending) = .job failure opened ran.1 closed ∧
      closed.session.monitor.depth = 1 ∧
      closed.session.monitor.scopes =
        (opened.session.perform (.closeJob "copy" true)).last.session.monitor.scopes ∧
      (Emission.sinkCalls (opened.emitted ++ Report.emittedBy ran.1 ++ closed.emitted)).count
        .done = 0 := by
  intro config clock session body ending opened depth ran left failure closed
  have opens : (session.perform (.openJob "copy" 4 4)).result = .ok .nothing := by
    decide +kernel +zetaReduce
  have stopped : ran.2.1 = some (.call (.shareExceedsRemaining "check" 9 2)) := by
    decide +kernel +zetaReduce
  have deeper : left.monitor.depth = 4 := by decide +kernel +zetaReduce
  have around : session.monitor.depth = 1 := by decide +kernel +zetaReduce
  have keeps : ∀ moment ∈ Report.momentsOf ran.1, depth ≤ moment.session.monitor.depth := by
    decide +kernel +zetaReduce
  have spec := job_closed_after_body session "copy" 4 4 body ending opens
  extract_lets result at spec
  rcases spec with ⟨closes, run⟩
  have fails : result = failure := congrArg (bodyResult ending body.length) stopped
  have afterwards := closes failure
  extract_lets sent at afterwards
  rcases afterwards with ⟨_, _, fewer, restores⟩
  rcases restores keeps with ⟨scopes, done⟩
  rw [fails] at run
  rw [around, deeper] at fewer
  rw [around] at done
  exact ⟨deeper, run, fewer, scopes "copy" true, done⟩

end Session

end JobProgress
