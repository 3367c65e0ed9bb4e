import JobProgress.Proofs.Snapshot
import JobProgress.Sink.Log

/-! Two sinks add up the units that are reported of a task. A status sink holds its sum at the
largest count. A logging sink logs a sum that is held as well, but the one it keeps starts again
from zero, and the next report is added to that. So the two sums part when the units of a task
go beyond the largest count. -/

namespace JobProgress

namespace Units

theorem wrapped_add_eq_held_iff (sum units : Nat) :
    min (sum % (maxUnits + 1) + units) maxUnits = min (sum + units) maxUnits ↔
      sum ≤ maxUnits ∨ maxUnits ≤ sum % (maxUnits + 1) + units := by
  by_cases fits : sum ≤ maxUnits
  · have same : sum % (maxUnits + 1) = sum := Nat.mod_eq_of_lt (Nat.lt_succ_of_le fits)
    omega
  · omega

/-- A sum that started again from zero stands for the sum that is held when it did not. -/
theorem wrapped_eq_held_iff (sum : Nat) :
    sum % (maxUnits + 1) = min sum maxUnits ↔
      sum ≤ maxUnits ∨ sum % (maxUnits + 1) = maxUnits := by
  have within : sum % (maxUnits + 1) < maxUnits + 1 := Nat.mod_lt sum (Nat.succ_pos maxUnits)
  have heldAlike := wrapped_add_eq_held_iff sum 0
  omega

end Units

variable {task : ShownTask} {calls : List SinkCall}

def SinkCall.counts : SinkCall → Bool
  | .beginTask _ _ | .worked _ | .done => true
  | .taskName _ | .workRemaining _ | .subTask _ => false

theorem ShownTask.afterAll_of_uncounted (task : ShownTask)
    (uncounted : ∀ call ∈ calls, call.counts = false) : task.afterAll calls = task := by
  induction calls with
  | nil => rfl
  | cons call calls induction =>
      rcases List.forall_mem_cons.mp uncounted with ⟨first, rest⟩
      cases call with
      | beginTask _ _ | worked _ | done => cases first
      | taskName _ | workRemaining _ | subTask _ => exact induction rest

namespace ProgressSnapshot

variable {snapshot : ProgressSnapshot}

structure Holds (snapshot : ProgressSnapshot) (task : ShownTask) : Prop where
  total_eq : snapshot.total = task.total
  worked_eq : snapshot.worked = min task.worked maxUnits

theorem initial_holds : initial.Holds .blank := ⟨rfl, rfl⟩

theorem Holds.after (holds : snapshot.Holds task) {call : SinkCall} (undone : call ≠ .done) :
    (snapshot.apply call).Holds (task.after call) := by
  cases call with
  | done => exact absurd rfl undone
  | beginTask _ _ => exact ⟨rfl, rfl⟩
  | worked units =>
      refine ⟨holds.total_eq, ?_⟩
      have before := holds.worked_eq
      simp only [apply, ShownTask.after, Units.saturatingAdd]
      omega
  | taskName _ | workRemaining _ | subTask _ => exact ⟨holds.total_eq, holds.worked_eq⟩

theorem Holds.afterAll (holds : snapshot.Holds task) (undone : .done ∉ calls) :
    (snapshot.afterAll calls).Holds (task.afterAll calls) := by
  induction calls generalizing snapshot task with
  | nil => exact holds
  | cons call calls induction =>
      rcases not_or.mp (mt List.mem_cons.mpr undone) with ⟨first, rest⟩
      exact induction (holds.after (Ne.symm first)) rest

end ProgressSnapshot

namespace LogSink

variable {sink : LogSink}

def afterAll (sink : LogSink) (calls : List SinkCall) : LogSink :=
  calls.foldl (fun sink call => (sink.apply call).1) sink

/-- The sink keeps what is left of the sum when it starts again from zero past the largest
count. -/
structure Keeps (sink : LogSink) (task : ShownTask) : Prop where
  total_eq : sink.total = task.total
  worked_eq : sink.worked = task.worked % (maxUnits + 1)

theorem initial_keeps : initial.Keeps .blank := ⟨rfl, rfl⟩

theorem Keeps.after (keeps : sink.Keeps task) (call : SinkCall) :
    (sink.apply call).1.Keeps (task.after call) := by
  cases call with
  | beginTask _ _ => exact ⟨rfl, rfl⟩
  | worked units =>
      refine ⟨keeps.total_eq, ?_⟩
      simp only [apply, ShownTask.after, Units.wrappingAdd, keeps.worked_eq]
      exact Nat.mod_add_mod task.worked (maxUnits + 1) units
  | taskName _ | workRemaining _ | subTask _ | done => exact ⟨keeps.total_eq, keeps.worked_eq⟩

theorem Keeps.afterAll (keeps : sink.Keeps task) (calls : List SinkCall) :
    (sink.afterAll calls).Keeps (task.afterAll calls) := by
  induction calls generalizing sink task with
  | nil => exact keeps
  | cons call calls induction => exact induction (keeps.after call)

/-! ## Beside a status sink -/

/-- Each report is logged with the total and the sum that a status sink has after it, as long
as the units of the task before it are not beyond the largest count. Past that the logged sum
falls behind, but where the report itself brings it up to the limit once more. The end of the
task, when nothing is reported in between, is logged with the sum of the last report only if
that sum did not start again. -/
theorem sums_agree_until_wrapped (calls : List SinkCall) (undone : .done ∉ calls) (units : Nat)
    (later : List SinkCall) (uncounted : ∀ call ∈ later, call.counts = false) :
    let task := ShownTask.blank.afterAll calls
    let kept := task.worked % (maxUnits + 1)
    let status := ProgressSnapshot.initial.afterAll (calls ++ [.worked units])
    let reported := ((initial.afterAll calls).apply (.worked units)).2
    let ended := ((initial.afterAll (calls ++ .worked units :: later)).apply .done).2
    status.total = task.total ∧ status.worked = min (task.worked + units) maxUnits ∧
      reported = .reported (min (kept + units) maxUnits) status.total ∧
      ended = .ended ((task.worked + units) % (maxUnits + 1)) status.total ∧
      (reported = .reported status.worked status.total ↔
        task.worked ≤ maxUnits ∨ maxUnits ≤ kept + units) ∧
      (ended = .ended status.worked status.total ↔
        task.worked + units ≤ maxUnits ∨
          (task.worked + units) % (maxUnits + 1) = maxUnits) := by
  intro task kept status reported ended
  have final : ShownTask.blank.afterAll (calls ++ .worked units :: later) =
      task.after (.worked units) := by
    rw [ShownTask.afterAll, List.foldl_append, List.foldl_cons]
    exact ShownTask.afterAll_of_uncounted _ uncounted
  have holds : status.Holds (task.after (.worked units)) := by
    have last : status = (ProgressSnapshot.initial.afterAll calls).apply (.worked units) :=
      ProgressSnapshot.afterAll_append _ calls [.worked units]
    rw [last]
    exact (ProgressSnapshot.initial_holds.afterAll undone).after nofun
  -- What the logging sink keeps is read twice: before the report, and when the task ends.
  have keeps := initial_keeps.afterAll calls
  have keepsToEnd := initial_keeps.afterAll (calls ++ .worked units :: later)
  rw [final] at keepsToEnd
  have isReported : reported = .reported (min (kept + units) maxUnits) status.total := by
    change SinkEvent.reported (Units.saturatingAdd _ units) _ = _
    rw [keeps.worked_eq, keeps.total_eq, holds.total_eq]
    rfl
  have isEnded : ended = .ended ((task.worked + units) % (maxUnits + 1)) status.total := by
    change SinkEvent.ended _ _ = _
    rw [keepsToEnd.worked_eq, keepsToEnd.total_eq, holds.total_eq]
    rfl
  have statusWorked : status.worked = min (task.worked + units) maxUnits := holds.worked_eq
  refine ⟨holds.total_eq, statusWorked, isReported, isEnded, ?_, ?_⟩
  · rw [isReported, SinkEvent.reported.injEq, statusWorked, and_iff_left rfl]
    exact Units.wrapped_add_eq_held_iff task.worked units
  · rw [isEnded, SinkEvent.ended.injEq, statusWorked, and_iff_left rfl]
    exact Units.wrapped_eq_held_iff (task.worked + units)

/-- A task after one whose units went beyond the largest count. -/
theorem sums_agree_until_wrapped_in_second_task :
    let calls : List SinkCall :=
      [.beginTask "fill" 2, .worked maxUnits, .worked 7, .beginTask "copy" 9, .worked 4,
        .subTask "head"]
    let later : List SinkCall := [.workRemaining 2, .subTask "tail"]
    let status := ProgressSnapshot.initial.afterAll (calls ++ [.worked 3])
    .done ∉ calls ∧ (∀ call ∈ later, call.counts = false) ∧
      status.worked = 7 ∧ status.total = 9 ∧
      ((initial.afterAll calls).apply (.worked 3)).2 = .reported status.worked status.total ∧
      ((initial.afterAll (calls ++ .worked 3 :: later)).apply .done).2 =
        .ended status.worked status.total := by
  intro calls later status
  have undone : .done ∉ calls := by decide
  have uncounted : ∀ call ∈ later, call.counts = false := by decide
  rcases sums_agree_until_wrapped calls undone 3 later uncounted with
    ⟨total, worked, _, _, agree, agreeAtEnd⟩
  have few : (ShownTask.blank.afterAll calls).worked + 3 ≤ maxUnits := by decide
  exact ⟨undone, uncounted, worked, total, agree.mpr (.inl (Nat.le_of_add_right_le few)),
    agreeAtEnd.mpr (.inl few)⟩

/-- Two reports more than the largest count: one sink holds that count, and the other one has
logged a single unit. -/
theorem sums_part_past_limit :
    let calls : List SinkCall := [.beginTask "copy" 1, .worked maxUnits, .worked 1]
    let status := ProgressSnapshot.initial.afterAll (calls ++ [.worked 1])
    let reported := ((initial.afterAll calls).apply (.worked 1)).2
    let ended := ((initial.afterAll (calls ++ [.worked 1])).apply .done).2
    status.worked = maxUnits ∧ status.total = 1 ∧ reported = .reported 1 1 ∧
      ended = .ended 1 1 ∧ reported ≠ .reported status.worked status.total ∧
      ended ≠ .ended status.worked status.total := by
  decide

end LogSink

end JobProgress
