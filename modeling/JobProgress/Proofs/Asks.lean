import JobProgress.Proofs.Checks
import Mathlib.Algebra.Ring.Nat

/-! Only a check asks the sink whether to cancel. Whatever else is done in a session, its sink
takes calls and nothing more, unless the script itself has something happen to it. So the
questions that a sink counts are those of the checks that poll. -/

namespace JobProgress

namespace Script

variable {σ : Type}

mutual

def changes : Script σ → List (σ → σ)
  | .touch change => [change]
  | .job _ _ _ body _ => changesOf body
  | .call _ | .warn _ _ | .wait _ | .direct _ => []

def changesOf : List (Script σ) → List (σ → σ)
  | [] => []
  | line :: lines => line.changes ++ changesOf lines

end

end Script

namespace Occurrence

variable {σ ω α : Type} [ProgressSink σ]

/-- The sink takes the calls that are made, and is asked nothing. -/
def HandsOn (occurrence : Occurrence σ ω α) : Prop :=
  occurrence.after.session.sink =
    Session.handed occurrence.before.sink (Emission.received occurrence.after.emitted)

def counted (count : σ → Nat) (occurrence : Occurrence σ ω α) : Nat :=
  count occurrence.after.session.sink - count occurrence.before.sink

def polls (occurrence : Occurrence σ ω α) : Bool := occurrence.check?.any (·.polled)

def within (start : Instant) (length : Duration) (occurrence : Occurrence σ ω α) : Bool :=
  start ≤ occurrence.before.now && occurrence.before.now ≤ start.after length

end Occurrence

def Check.polledWithin (start : Instant) (length : Duration) (check : Check) : Bool :=
  check.polled && start ≤ check.reading.now && check.reading.now ≤ start.after length

namespace Session

variable {σ ω α : Type} [ProgressSink σ] [Amount α] {occurrence : Occurrence σ ω α}

theorem Occurs.handsOn (occurs : Occurs occurrence) (other : occurrence.check? = none)
    (own : occurrence.deed ≠ .beside) : occurrence.HandsOn := by
  cases occurs with
  | call session call =>
      have unasked : (session.read call).1 = session := by
        cases call with
        | checkCanceled name =>
            rw [check?_of_perform] at other
            cases other
        | _ => rfl
      have settled := session.settle_sink (session.monitor.perform (session.read call).2 call)
      rw [Occurrence.HandsOn, perform_last, unasked]
      exact settled
  | conclude session job depth result =>
      rw [Occurrence.HandsOn, conclude_last]
      exact session.settle_sink _
  | beside _ _ _ => exact absurd rfl own

variable [WarningSink ω]

mutual

theorem run_beside (session : Session σ ω α) (line : Script σ)
    (member : occurrence ∈ Report.course session line (session.run line))
    (beside : occurrence.deed = .beside) :
    occurrence.HandsOn ∨ ∃ change ∈ line.changes,
      occurrence.after.session.sink = change occurrence.before.sink := by
  cases line with
  | call call =>
      cases List.mem_singleton.mp member
      cases beside
  | warn message location =>
      cases List.mem_singleton.mp member
      left
      exact congrArg (handed session.sink) (Emission.received_ofLogEvents _).symm
  | wait duration =>
      cases List.mem_singleton.mp member
      exact .inl rfl
  | direct call =>
      cases List.mem_singleton.mp member
      left
      exact (deliver_sink session.sink [.foreign call]).trans
        (congrArg (handed session.sink) (received_deliver session.sink _).symm)
  | touch change =>
      cases List.mem_singleton.mp member
      exact .inr ⟨change, List.mem_singleton_self change, rfl⟩
  | job name share totalWork body ending =>
      rw [run] at member
      dsimp only at member
      split at member
      · cases List.mem_singleton.mp member
        cases beside
      · rcases List.mem_cons.mp member with rfl | later
        · cases beside
        · rcases List.mem_append.mp later with inside | last
          · exact runBody_beside _ ending.strict body inside beside
          · cases List.mem_singleton.mp last
            cases beside

theorem runBody_beside (session : Session σ ω α) (strict : Bool) (lines : List (Script σ))
    (member : occurrence ∈ Report.courseOf session lines (session.runBody strict lines).1)
    (beside : occurrence.deed = .beside) :
    occurrence.HandsOn ∨ ∃ change ∈ Script.changesOf lines,
      occurrence.after.session.sink = change occurrence.before.sink := by
  cases lines with
  | nil => cases member
  | cons line lines =>
      have first (inside : occurrence ∈ Report.course session line (session.run line)) :
          occurrence.HandsOn ∨ ∃ change ∈ Script.changesOf (line :: lines),
            occurrence.after.session.sink = change occurrence.before.sink :=
        (session.run_beside line inside beside).imp_right fun ⟨change, listed, changed⟩ =>
          ⟨change, List.mem_append_left _ listed, changed⟩
      rw [runBody.eq_def] at member
      dsimp only at member
      split at member
      · exact first (by simpa [Report.courseOf] using member)
      · rcases List.mem_append.mp member with inside | later
        · exact first inside
        · exact (runBody_beside _ strict lines later beside).imp_right
            fun ⟨change, listed, changed⟩ => ⟨change, List.mem_append_right _ listed, changed⟩

end

theorem course_handsOn (session : Session σ ω α) (script : List (Script σ))
    (member : occurrence ∈ session.course script) (other : occurrence.check? = none) :
    occurrence.HandsOn ∨ ∃ change ∈ Script.changesOf script,
      occurrence.after.session.sink = change occurrence.before.sink := by
  by_cases beside : occurrence.deed = .beside
  · exact session.runBody_beside false script member beside
  · exact .inl (((session.course_unfolds script).occurs_of_mem member).handsOn other beside)

end Session

/-! ## Counting questions -/

/-- A counter of the questions that a sink is asked. -/
structure CountsAsks {σ : Type} [ProgressSink σ] (count : σ → Nat) : Prop where
  receive : ∀ sink call, count (ProgressSink.receive sink call).1 = count sink
  ask : ∀ sink, count (ProgressSink.ask sink).1 = count sink + 1

namespace CountsAsks

variable {σ ω α : Type} [ProgressSink σ] {count : σ → Nat}

theorem handed (counts : CountsAsks count) (sink : σ) (calls : List SinkCall) :
    count (Session.handed sink calls) = count sink := by
  induction calls generalizing sink with
  | nil => rfl
  | cons call calls induction =>
      exact (induction (ProgressSink.receive sink call).1).trans (counts.receive sink call)

variable [Amount α] [WarningSink ω]

theorem goes_up (counts : CountsAsks count) (session : Session σ ω α)
    {script : List (Script σ)}
    (alone : ∀ change ∈ Script.changesOf script, ∀ sink, count (change sink) = count sink)
    {occurrence : Occurrence σ ω α} (member : occurrence ∈ session.course script) :
    count occurrence.after.session.sink =
      count occurrence.before.sink + if occurrence.polls then 1 else 0 := by
  have occurs := (session.course_unfolds script).occurs_of_mem member
  rw [Occurrence.polls]
  cases checked : occurrence.check? with
  | none =>
      rcases session.course_handsOn script member checked with hands | ⟨change, listed, changed⟩
      · rw [hands, counts.handed]
        rfl
      · rw [changed, alone change listed]
        rfl
  | some check =>
      rw [(occurs.cancelPoll_of_some checked).2.2, Option.any_some]
      cases check.polled with
      | false => rfl
      | true => exact counts.ask occurrence.before.sink

end CountsAsks

/-- Counted question by question, the checks that poll in a stretch of time. -/
theorem Occurrence.sum_counted {σ ω α : Type} [ProgressSink σ] {count : σ → Nat}
    {occurrences : List (Occurrence σ ω α)}
    (goesUp : ∀ occurrence ∈ occurrences, count occurrence.after.session.sink =
      count occurrence.before.sink + if occurrence.polls then 1 else 0)
    (start : Instant) (length : Duration) :
    ((occurrences.filter (·.within start length)).map (·.counted count)).sum =
      ((occurrences.filterMap (·.check?)).filter (·.polledWithin start length)).length := by
  induction occurrences with
  | nil => rfl
  | cons occurrence occurrences induction =>
      rcases List.forall_mem_cons.mp goesUp with ⟨first, rest⟩
      have first : occurrence.counted count = if occurrence.polls then 1 else 0 := by
        rw [counted, first, Nat.add_sub_cancel_left]
      have sum := induction rest
      have split : ((occurrence :: occurrences).filter (·.within start length)).map
            (·.counted count) =
          (if occurrence.within start length then [occurrence.counted count] else []) ++
            (occurrences.filter (·.within start length)).map (·.counted count) := by
        rw [List.filter_cons]
        split <;> rfl
      rw [split, List.sum_append, sum, first, Occurrence.polls]
      cases checked : occurrence.check? with
      | none =>
          rw [List.filterMap_cons_none checked]
          split <;> simp
      | some check =>
          have now : check.reading.now = occurrence.before.now :=
            congrArg Reading.now (check?_reading checked)
          have together : check.polledWithin start length =
              (check.polled && occurrence.within start length) := by
            rw [Check.polledWithin, now, Bool.and_assoc]
            rfl
          rw [List.filterMap_cons_some checked, List.filter_cons, together, Option.any_some]
          cases check.polled <;> cases occurrence.within start length <;> simp [Nat.add_comm]

end JobProgress
