import JobProgress.Proofs.JobLog
import JobProgress.Proofs.Refusal

/-! The log tells of the start of a nested job which share of its parent it was given, and
warns right before where that is less than the job asked for. -/

namespace JobProgress

def LogRecord.isOpening (record : LogRecord) : Bool := record.isStart || record.isClamp

theorem LogRecord.isClamp_eq_false {record : LogRecord} (other : record.isOpening = false) :
    record.isClamp = false :=
  (Bool.or_eq_false_iff.mp other).2

theorem JobEvent.isOpening_eq_false {event : JobEvent} (aside : event.isAside) :
    event.record.isOpening = false := by
  cases event with
  | stepped _ _ _ _ _ | rescaled _ _ _ | polled _ _ => rfl
  | _ => cases aside

namespace Monitor

variable {α : Type} [Amount α] {monitor final : Monitor α} {clock later : Clock}
  {sent : List Emission}

/-! ## Events of opening a job -/

inductive Announces (monitor : Monitor α) (name : String) (share totalWork : UInt32) :
    List JobEvent → Prop
  | outermost :
      monitor.scopes = [] →
      Announces monitor name share totalWork [.started name monitor.depth none totalWork.toNat]
  | fitting {parent outer} :
      monitor.scopes = parent :: outer →
      share.toNat ≤ parent.grantable monitor.overrunWork →
      Announces monitor name share totalWork
        [.started name monitor.depth (some ⟨share.toNat, share.toNat⟩) totalWork.toNat]
  | clamped {parent outer} :
      monitor.scopes = parent :: outer →
      parent.grantable monitor.overrunWork < share.toNat →
      monitor.config.sharePolicy = .clamp →
      Announces monitor name share totalWork
        [.shareClamped name parent.name share.toNat (parent.grantable monitor.overrunWork),
          .started name monitor.depth (some ⟨parent.grantable monitor.overrunWork, share.toNat⟩)
            totalWork.toNat]
  | refused : Announces monitor name share totalWork []

theorem Reachable.announces (reachable : monitor.Reachable) {act : Act} {name : String}
    {share totalWork : UInt32} (opens : act.deed = .call (.openJob name share totalWork)) :
    monitor.Announces name share totalWork
      (Emission.jobEvents (monitor.carryOut act).emitted) := by
  rcases act with ⟨reading, _⟩
  cases opens
  simp only [Monitor.carryOut, Monitor.perform, Outcome.map_emitted]
  rcases monitor.openJob_cases reading.now name share totalWork with
    ⟨idle, equal⟩ | ⟨parent, outer, stack, fits, equal⟩ |
    ⟨parent, outer, stack, excess, policy, equal⟩ | ⟨_, _, _, _, _, equal⟩
  · rw [equal]
    simpa [openRoot, depth, idle] using Announces.outermost idle
  · rw [equal]
    rw [reachable.shareLimit_eq_grantable stack] at fits
    simpa [openNested, depth, stack] using Announces.fitting stack fits
  · rw [equal, Outcome.after_emitted]
    rw [reachable.shareLimit_eq_grantable stack] at excess ⊢
    simpa [openNested, depth, stack] using Announces.clamped stack excess policy
  · rw [equal]
    exact .refused

theorem openJob_silent {now : Instant} {share totalWork : UInt32} {name : String}
    {error : CallError}
    (failed : (monitor.openJob now name share totalWork).result = .error error) :
    (monitor.openJob now name share totalWork).emitted = [] := by
  rcases monitor.openJob_cases now name share totalWork with
    ⟨_, equal⟩ | ⟨_, _, _, _, equal⟩ | ⟨_, _, _, _, _, equal⟩ | ⟨_, _, _, _, _, equal⟩
  · rw [equal] at failed
    cases failed
  · rw [equal] at failed
    cases failed
  · rw [equal] at failed
    cases failed
  · rw [equal]
    rfl

/-! ## Events of other acts -/

def NoneOpened (sent : List Emission) : Prop :=
  ∀ event ∈ Emission.jobEvents sent, event.record.isOpening = false

@[simp] theorem noneOpened_nil : NoneOpened [] := by simp [NoneOpened]

theorem noneOpened_ofCalls (calls : List SinkCall) : NoneOpened (Emission.ofCalls calls) := by
  simp [NoneOpened]

theorem noneOpened_ofJobEvent {event : JobEvent} (other : event.record.isOpening = false) :
    NoneOpened (Emission.ofJobEvent event) := by
  simpa [NoneOpened] using other

theorem NoneOpened.of_asides (asides : ∀ event ∈ Emission.jobEvents sent, event.isAside) :
    NoneOpened sent :=
  fun event told => JobEvent.isOpening_eq_false (asides event told)

theorem NoneOpened.append {later : List Emission} (first : NoneOpened sent)
    (second : NoneOpened later) : NoneOpened (sent ++ later) := by
  rw [NoneOpened, Emission.jobEvents_append]
  exact List.forall_mem_append.mpr ⟨first, second⟩

theorem closeJob_noneOpened (monitor : Monitor α) (now : Instant) (name : String)
    (succeeded : Bool) : NoneOpened (monitor.closeJob now name succeeded).emitted := by
  cases stack : monitor.scopes with
  | nil =>
      rw [closeJob_of_idle stack]
      exact noneOpened_ofJobEvent rfl
  | cons scope outer =>
      rw [closeJob_of_open stack]
      exact (noneOpened_ofCalls _).append (noneOpened_ofJobEvent rfl)

theorem ClosesAll.noneOpened {worked returned : Nat}
    (closes : ClosesAll clock worked monitor sent returned final) : NoneOpened sent := by
  induction closes with
  | finished _ _ _ => exact noneOpened_nil
  | turn _ _ _ _ induction => exact (closeJob_noneOpened _ _ _ false).append induction

theorem Unwinds.noneOpened {job : String} {depth : Nat}
    (unwinds : Unwinds job depth clock monitor sent later final) : NoneOpened sent := by
  induction unwinds with
  | finished _ => exact noneOpened_nil
  | turn _ _ _ induction =>
      exact ((noneOpened_ofJobEvent rfl).append (closeJob_noneOpened _ _ _ false)).append induction

theorem conclude_noneOpened (monitor : Monitor α) (clock : Clock) (job : String) (depth : Nat)
    (succeeded : Bool) : NoneOpened (monitor.conclude clock job depth succeeded).emitted := by
  rcases monitor.conclude_unwinds clock job depth succeeded with
    ⟨sent, later, unwound, unwinds, equal⟩
  rw [equal]
  split
  · exact unwinds.noneOpened.append (unwound.closeJob_noneOpened later.now job succeeded)
  · exact unwinds.noneOpened

theorem carryOut_noneOpened (monitor : Monitor α) {act : Act}
    (other : ∀ name share totalWork, act.deed ≠ .call (.openJob name share totalWork)) :
    NoneOpened (monitor.carryOut act).emitted := by
  rcases act with ⟨reading, deed⟩
  cases deed with
  | call call =>
      cases call with
      | openJob name share totalWork => exact absurd rfl (other name share totalWork)
      | step name detail share => exact .of_asides (monitor.step_asides name detail share)
      | reestimate name work => exact .of_asides (monitor.reestimate_asides name work)
      | closeJob name succeeded => exact monitor.closeJob_noneOpened reading.now name succeeded
      | closeAll =>
          rcases monitor.closeInnermost_closesAll reading.clock 0 with ⟨_, _, closes⟩
          exact closes.noneOpened
      | checkCanceled name =>
          exact .of_asides (monitor.checkCanceled_asides reading.clock name reading.canceled)
  | conclude job depth succeeded =>
      exact monitor.conclude_noneOpened reading.clock job depth succeeded
  | beside => exact noneOpened_nil

end Monitor

namespace LogEntry

variable {α : Type}

def endsClamped (log : List (LogEntry α)) : Bool := log.getLast?.any (·.record.isClamp)

theorem endsClamped_append {log later : List (LogEntry α)}
    (unclamped : endsClamped log = false)
    (last : ∀ entry ∈ later.getLast?, entry.record.isClamp = false) :
    endsClamped (log ++ later) = false := by
  rw [endsClamped, List.getLast?_append]
  cases ended : later.getLast? with
  | none => exact unclamped
  | some entry => exact last entry ended

/-- What the start of a job tells of its share, after the entries `before`: a warning precedes it
exactly where the job asked for more than the job around it can grant, by its own counter, and
shares are clamped. Only then is the share not the one asked for. -/
structure TellsShare (config : Config) (before : List (LogEntry α)) (monitor : Monitor α)
    (act : Act) (name : String) (share : Nat) (granted : Option GrantedShare) : Prop where
  outermost : monitor.scopes = [] → granted = none ∧ endsClamped before = false
  nested : ∀ parent outer, monitor.scopes = parent :: outer →
    let bound := parent.grantable config.overrunWork.toNat
    let clamped := bound < share ∧ config.sharePolicy = .clamp
    (endsClamped before ↔ clamped) ∧
    (clamped →
      granted = some ⟨bound, share⟩ ∧
      ∃ warning, before.getLast? = some ⟨monitor, act, warning⟩ ∧
        warning.TellsClamp name parent.name share bound) ∧
    (¬clamped → granted = some ⟨share, share⟩)

namespace TellsShare

variable {config : Config} {log : List (LogEntry α)} {monitor : Monitor α} {act : Act}
  {name : String} {share : Nat} {parent : Scope α} {outer : List (Scope α)}

theorem of_idle (idle : monitor.scopes = []) (unclamped : endsClamped log = false) :
    TellsShare config log monitor act name share none where
  outermost _ := ⟨rfl, unclamped⟩
  nested parent outer stack := by
    rw [idle] at stack
    cases stack

theorem of_fits (stack : monitor.scopes = parent :: outer)
    (fits : share ≤ parent.grantable config.overrunWork.toNat)
    (unclamped : endsClamped log = false) :
    TellsShare config log monitor act name share (some ⟨share, share⟩) where
  outermost idle := by
    rw [stack] at idle
    cases idle
  nested inside around opened := by
    intro bound clamped
    rw [stack] at opened
    cases opened
    have whole : ¬clamped := fun clipped => Nat.not_le_of_lt clipped.1 fits
    refine ⟨?_, fun clipped => absurd clipped whole, fun _ => rfl⟩
    rw [unclamped]
    exact iff_of_false Bool.false_ne_true whole

theorem of_excess (stack : monitor.scopes = parent :: outer)
    (excess : parent.grantable config.overrunWork.toNat < share)
    (policy : config.sharePolicy = .clamp) :
    let bound := parent.grantable config.overrunWork.toNat
    let warning := (JobEvent.shareClamped name parent.name share bound).record
    TellsShare config (log ++ [⟨monitor, act, warning⟩]) monitor act name share
      (some ⟨bound, share⟩) where
  outermost idle := by
    rw [stack] at idle
    cases idle
  nested inside around opened := by
    intro bound clamped
    rw [stack] at opened
    cases opened
    have cut : clamped := ⟨excess, policy⟩
    have tells := JobEvent.shareClamped_tellsClamp name parent.name share
      (parent.grantable config.overrunWork.toNat)
    refine ⟨?_, fun _ => ⟨rfl, _, List.getLast?_concat, tells⟩, fun whole => absurd cut whole⟩
    rw [endsClamped, List.getLast?_concat]
    exact iff_of_true rfl cut

end TellsShare

end LogEntry

namespace Monitor

open LogEntry

variable {α : Type} [Amount α] {monitor : Monitor α}

theorem Reachable.last_of_entries (reachable : monitor.Reachable) (act : Act) :
    ∀ entry ∈ (act.entries monitor (monitor.carryOut act).emitted).getLast?,
      entry.record.isClamp = false := by
  intro entry last
  by_cases opens : ∃ name share totalWork, act.deed = .call (.openJob name share totalWork)
  · rcases opens with ⟨name, share, totalWork, opens⟩
    have announces := reachable.announces opens
    rw [Act.entries] at last
    generalize Emission.jobEvents (monitor.carryOut act).emitted = events at announces last
    cases announces <;> cases last <;> rfl
  · have other := fun name share totalWork made => opens ⟨name, share, totalWork, made⟩
    rcases List.mem_map.mp (List.mem_of_getLast? last) with ⟨event, told, rfl⟩
    exact LogRecord.isClamp_eq_false (monitor.carryOut_noneOpened other event told)

theorem jobLog_unclamped (config : Config) (acts : List Act) :
    endsClamped ((ofConfig config : Monitor α).jobLog acts) = false := by
  induction acts using List.reverseRecOn with
  | nil => rfl
  | append_singleton acts act induction =>
      rw [jobLog_concat]
      exact endsClamped_append induction
        (((Reachable.ofConfig config).afterActs acts).last_of_entries act)

theorem eq_of_singleton_eq {β : Type} {only entry : β} {front back : List β}
    (made : [only] = front ++ entry :: back) : front = [] ∧ entry = only := by
  rcases List.singleton_eq_append_iff.mp made with ⟨rfl, own⟩ | ⟨_, empty⟩
  · cases own
    exact ⟨rfl, rfl⟩
  · cases empty

omit [Amount α] in
theorem Announces.tellsShare {name : String} {share totalWork : UInt32}
    {events : List JobEvent} (announces : monitor.Announces name share totalWork events)
    {config : Config} (same : monitor.config = config) {log front back : List (LogEntry α)}
    (unclamped : endsClamped log = false) {act : Act} {entry : LogEntry α}
    (made : events.map (fun event => ⟨monitor, act, event.record⟩) = front ++ entry :: back)
    (start : entry.record.isStart) :
    ∃ granted, entry.record.TellsStart name monitor.depth granted totalWork.toNat ∧
      TellsShare config (log ++ front) monitor act name share.toNat granted := by
  subst same
  cases announces with
  | outermost idle =>
      rcases eq_of_singleton_eq made with ⟨rfl, rfl⟩
      rw [List.append_nil]
      refine ⟨none, ?_, .of_idle idle unclamped⟩
      exact JobEvent.started_tellsStart name monitor.depth none totalWork.toNat
  | fitting stack fits =>
      rcases eq_of_singleton_eq made with ⟨rfl, rfl⟩
      rw [List.append_nil]
      refine ⟨_, ?_, .of_fits stack fits unclamped⟩
      exact JobEvent.started_tellsStart name monitor.depth (some _) totalWork.toNat
  | clamped stack excess policy =>
      -- The warning comes first, so the start is the second of two entries.
      rcases front with _ | ⟨warning, front⟩
      · cases made
        cases start
      rcases List.cons.inj made with ⟨rfl, rest⟩
      rcases eq_of_singleton_eq rest with ⟨rfl, rfl⟩
      refine ⟨_, ?_, .of_excess stack excess policy⟩
      exact JobEvent.started_tellsStart name monitor.depth (some _) totalWork.toNat
  | refused => simp at made

/-- Each start that is logged stems from a call to open a job, and tells of what was asked for and
granted. -/
theorem started_of_jobLog_eq {config : Config} {acts : List Act}
    {before after : List (LogEntry α)} {entry : LogEntry α}
    (log : (ofConfig config : Monitor α).jobLog acts = before ++ entry :: after)
    (start : entry.record.isStart) :
    ∃ (name : String) (share totalWork : UInt32) (granted : Option GrantedShare),
      entry.act.deed = .call (.openJob name share totalWork) ∧
      entry.record.TellsStart name entry.monitor.depth granted totalWork.toNat ∧
      TellsShare config before entry.monitor entry.act name share.toNat granted := by
  rcases exists_of_jobLog_eq log with ⟨earlier, act, later, front, back, _, made, rfl⟩
  have own : entry ∈ act.entries _ _ := made ▸ List.mem_append_cons_self
  rcases List.mem_map.mp own with ⟨event, told, rfl⟩
  have opens : ∃ name share totalWork, act.deed = .call (.openJob name share totalWork) := by
    by_contra closed
    have other := fun name share totalWork made => closed ⟨name, share, totalWork, made⟩
    have unopened := Monitor.carryOut_noneOpened _ other event told
    exact absurd start (Bool.not_eq_true _ ▸ (Bool.or_eq_false_iff.mp unopened).1)
  rcases opens with ⟨name, share, totalWork, opens⟩
  have announces := ((Reachable.ofConfig (α := α) config).afterActs earlier).announces opens
  have same := (ofConfig config : Monitor α).afterActs_config earlier
  rcases announces.tellsShare same (jobLog_unclamped config earlier) made start with
    ⟨granted, tells, shared⟩
  exact ⟨name, share, totalWork, granted, opens, tells, shared⟩

end Monitor

end JobProgress
