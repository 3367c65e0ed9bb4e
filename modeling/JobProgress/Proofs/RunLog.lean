import JobProgress.Proofs.JobTree
import JobProgress.Proofs.LoggedShares

/-! What happens in a run of a script are acts of its monitor, so the log of the run tells of
its jobs what the log of the acts does. -/

namespace JobProgress

namespace Occurrence

variable {σ ω α : Type} [ProgressSink σ]

def act (occurrence : Occurrence σ ω α) : Act where
  reading :=
    match occurrence.deed with
    | .call call => (occurrence.before.read call).2
    | .conclude .. | .beside => ⟨occurrence.before.clock, false⟩
  deed := occurrence.deed

omit [ProgressSink σ] in
def jobRecords (occurrence : Occurrence σ ω α) : List LogRecord :=
  match occurrence.deed with
  | .call _ | .conclude .. => (Emission.jobEvents occurrence.after.emitted).map (·.record)
  | .beside => []

end Occurrence

namespace Session

open LogEntry

variable {σ ω α : Type} [ProgressSink σ]

theorem jobEvents_deliver (sink : σ) (emissions : List Emission) :
    Emission.jobEvents (deliver sink emissions).2 = Emission.jobEvents emissions := by
  induction emissions generalizing sink with
  | nil => rfl
  | cons emission emissions induction =>
      cases emission with
      | call call =>
          rw [deliver, Emission.jobEvents_append, induction]
          exact congrArg (· ++ _) (Emission.jobEvents_ofSinkEvents _)
      | «foreign» call =>
          rw [deliver, Emission.jobEvents_append, induction]
          exact congrArg (· ++ _) (Emission.jobEvents_ofSinkEvents _)
      | event event =>
          rw [deliver]
          simp only [Emission.jobEvents, List.filterMap_cons]
          rw [← Emission.jobEvents, induction]
          rfl

variable [Amount α]

theorem Occurs.carryOut {occurrence : Occurrence σ ω α} (occurs : Occurs occurrence) :
    (occurrence.before.monitor.carryOut occurrence.act).monitor =
        occurrence.after.session.monitor ∧
      (Emission.jobEvents (occurrence.before.monitor.carryOut occurrence.act).emitted).map
        (·.record) = occurrence.jobRecords := by
  cases occurs with
  | call session call =>
      refine ⟨(session.perform_monitor call).symm, ?_⟩
      rw [Occurrence.jobRecords, perform_last]
      exact congrArg _ (jobEvents_deliver _ _).symm
  | conclude session job depth result =>
      refine ⟨(session.conclude_monitor job depth result).symm, ?_⟩
      rw [Occurrence.jobRecords, conclude_last]
      exact congrArg _ (jobEvents_deliver _ _).symm
  | beside _ same _ => exact ⟨same.symm, rfl⟩

omit [Amount α] in
theorem act_now (occurrence : Occurrence σ ω α) :
    occurrence.act.reading.now = occurrence.before.now := by
  rcases occurrence with ⟨before, deed, result, after⟩
  cases deed with
  | call call =>
      cases call with
      | checkCanceled name =>
          simp only [Occurrence.act, read, poll]
          split <;> rfl
      | _ => rfl
  | conclude job depth succeeded => rfl
  | beside => rfl

namespace Unfolds

variable {session final : Session σ ω α} {occurrences : List (Occurrence σ ω α)}

theorem afterActs (unfolds : Unfolds session occurrences final) :
    session.monitor.afterActs (occurrences.map (·.act)) = final.monitor := by
  induction unfolds with
  | nil => rfl
  | cons occurs _ induction =>
      rw [← induction, ← occurs.carryOut.1]
      rfl

theorem jobLog (unfolds : Unfolds session occurrences final) :
    (session.monitor.jobLog (occurrences.map (·.act))).map (·.record) =
      occurrences.flatMap (·.jobRecords) := by
  induction unfolds with
  | nil => rfl
  | @cons occurrence _ _ occurs _ induction =>
      rw [List.map_cons, Monitor.jobLog, List.map_append, occurs.carryOut.1, induction,
        List.flatMap_cons, ← occurs.carryOut.2, Act.entries, List.map_map]
      rfl

theorem now_le (unfolds : Unfolds session occurrences final) :
    ∀ occurrence ∈ occurrences, session.now ≤ occurrence.act.reading.now := by
  induction unfolds with
  | nil => simp
  | @cons first _ _ occurs _ induction =>
      intro occurrence member
      rcases List.mem_cons.mp member with rfl | member
      · rw [act_now]
        exact Nat.le_refl _
      · exact Nat.le_trans occurs.now_le (induction occurrence member)

theorem timely (unfolds : Unfolds session occurrences final) :
    Act.Timely (occurrences.map (·.act)) := by
  induction unfolds with
  | nil => exact List.Pairwise.nil
  | @cons first _ _ occurs rest induction =>
      refine List.pairwise_cons.mpr ⟨fun act member => ?_, induction⟩
      rcases List.mem_map.mp member with ⟨occurrence, later, rfl⟩
      rw [act_now]
      exact Nat.le_trans occurs.now_le (rest.now_le occurrence later)

end Unfolds

variable [WarningSink ω]

/-- Whatever is done with a monitor, its log shows the jobs as they lay in one another. The starts
and ends begin a sequence in which each end answers the latest start that none answered before,
with the name, depth and total that the start told, the units that closing the job returned, and,
unless the clock is set back, the whole milliseconds from the start to the reading of the clock for
this closing. The starts that are left are those of the open jobs. Each start stems from a call to
open a job, and tells whether the share asked for was clamped. A job that cannot be opened leaves
nothing in the log. What happens in a session up to a time are such acts, by a clock that is never
set back, and the lines of its monitor are those of their log. -/
theorem job_log_shows_tree (config : Config) :
    (∀ acts : List Act,
      let first : Monitor α := .ofConfig config
      let log := first.jobLog acts
      (∃ rest, Leaves (Act.Timely acts) (marks log ++ rest) []) ∧
      Lists (Act.Timely acts) log (first.afterActs acts).titles ∧
      (∀ before entry after,
        log = before ++ entry :: after → entry.record.message = "Job started" →
        ∃ (name : String) (share totalWork : UInt32) (granted : Option GrantedShare),
          entry.act.deed = .call (.openJob name share totalWork) ∧
          entry.record.TellsStart name entry.monitor.depth granted totalWork.toNat ∧
          TellsShare config before entry.monitor entry.act name share.toNat granted) ∧
      ∀ now name share totalWork error,
        ((first.afterActs acts).openJob now name share totalWork).result = .error error →
        ((first.afterActs acts).openJob now name share totalWork).emitted = []) ∧
    ∀ (sink : σ) (warnings : ω) (clock : Clock) (script : List (Script σ)) (count : Nat),
      let session : Session σ ω α := ofConfig config sink warnings clock
      let earlier := (session.course script).take count
      let acts := earlier.map (·.act)
      Act.Timely acts ∧
      session.monitor.afterActs acts = (session.upTo (earlier.map (·.after))).session.monitor ∧
      (session.monitor.jobLog acts).map (·.record) = earlier.flatMap (·.jobRecords) := by
  constructor
  · intro acts first log
    refine ⟨Monitor.jobLog_balances config acts, Monitor.jobLog_lists config id, ?_, ?_⟩
    · intro before entry after split message
      exact Monitor.started_of_jobLog_eq split (beq_iff_eq.mpr message)
    · intro now name share totalWork error failed
      exact Monitor.openJob_silent failed
  · intro sink warnings clock script count session earlier acts
    have course := session.course_unfolds script
    rw [← List.take_append_drop count (session.course script)] at course
    rcases course.split with ⟨middle, unfolds, _⟩
    refine ⟨unfolds.timely, ?_, unfolds.jobLog⟩
    rw [unfolds.upTo_session]
    exact unfolds.afterActs

example :
    let first : Monitor Rat := .ofConfig .default
    let reading (time : Nat) (lapses : List Duration) : Reading := ⟨⟨⟨time⟩, ⟨time⟩, lapses⟩, false⟩
    let acts : List Act :=
      [⟨reading 0 [], .call (.openJob "build" 1 4)⟩,
        ⟨reading 1000000 [], .call (.openJob "compile" 7 5)⟩,
        ⟨reading 4000000 [⟨2999999⟩], .call .closeAll⟩]
    (first.jobLog acts).map (fun entry => (entry.record.message, entry.record.field? "share",
        entry.record.field? "requested", entry.record.field? "elapsed_ms")) =
      [("Job started", none, none, none),
        ("Job share clamped", some (.number 7), none, none),
        ("Job started", some (.number 4), some (.number 7), none),
        ("Job ended", none, none, some (.number 3)),
        ("Job ended", none, none, some (.number 6))] := by
  decide +kernel

end Session

end JobProgress
