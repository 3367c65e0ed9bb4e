import JobProgress.Proofs.Percentage
import JobProgress.Proofs.ShownTask

/-! A status bar keeps a snapshot of its task. As long as all calls are in order the
snapshot mirrors the task they show, and the part of the task it takes for done is exact,
because no task is declared with so many units that a sum of them would be held. -/

namespace JobProgress

namespace SinkCall

def begins : SinkCall → Bool
  | .beginTask _ _ => true
  | .taskName _ | .worked _ | .workRemaining _ | .subTask _ | .done => false

def labels : SinkCall → Bool
  | .subTask _ => true
  | .taskName _ | .beginTask _ _ | .worked _ | .workRemaining _ | .done => false

end SinkCall

namespace ProgressSnapshot

open SinkCall

variable {snapshot : ProgressSnapshot} {task final : ShownTask} {call : SinkCall}
  {calls : List SinkCall} {begun : Bool}

def afterAll (snapshot : ProgressSnapshot) (calls : List SinkCall) : ProgressSnapshot :=
  calls.foldl apply snapshot

theorem afterAll_append (snapshot : ProgressSnapshot) (first second : List SinkCall) :
    snapshot.afterAll (first ++ second) = (snapshot.afterAll first).afterAll second :=
  List.foldl_append

/-! ## The task -/

/-- A snapshot tells of the task that is shown, and whether one has begun before. -/
structure Mirrors (snapshot : ProgressSnapshot) (task : ShownTask) (begun : Bool) : Prop where
  total_eq : snapshot.total = task.total
  worked_eq : task.total ≤ maxUnits → snapshot.worked = task.worked
  done_eq : snapshot.done = (begun && !task.isOpen)
  begun_of_open : task.isOpen = true → begun = true

theorem initial_mirrors : initial.Mirrors .blank false := ⟨rfl, fun _ => rfl, rfl, nofun⟩

theorem Mirrors.after (mirrors : snapshot.Mirrors task begun) (allowed : task.Allows call) :
    (snapshot.apply call).Mirrors (task.after call) (begun || call.begins) := by
  cases call with
  | beginTask name total =>
      exact ⟨rfl, fun _ => rfl, by simp [apply, ShownTask.after], fun _ => Bool.or_true begun⟩
  | worked units =>
      refine ⟨mirrors.total_eq, fun fits => ?_, ?_, ?_⟩
      · have within : task.worked + units ≤ task.total := allowed.2.2
        have few : task.worked + units ≤ maxUnits := Nat.le_trans within fits
        rw [apply, mirrors.worked_eq fits, Units.saturatingAdd_eq_of_le few]
        rfl
      · rw [begins, Bool.or_false]
        exact mirrors.done_eq
      · rw [begins, Bool.or_false]
        exact mirrors.begun_of_open
  | done =>
      have started : begun = true := mirrors.begun_of_open allowed.1
      refine ⟨mirrors.total_eq, fun fits => ?_, ?_, fun _ => by rw [started, Bool.true_or]⟩
      · have all : snapshot.worked = snapshot.total := by
          rw [mirrors.worked_eq fits, mirrors.total_eq, allowed.2]
        change max snapshot.total snapshot.worked = task.worked
        rw [← all, Nat.max_self, mirrors.worked_eq fits]
      · rw [started]
        rfl
  | taskName _ | workRemaining _ | subTask _ =>
      rw [begins, Bool.or_false]
      exact ⟨mirrors.total_eq, mirrors.worked_eq, mirrors.done_eq, mirrors.begun_of_open⟩

theorem Mirrors.afterAll (mirrors : snapshot.Mirrors task begun)
    (transitions : task.Transitions calls final) :
    (snapshot.afterAll calls).Mirrors final (begun || calls.any begins) := by
  induction transitions generalizing snapshot begun with
  | nil =>
      rw [List.any_nil, Bool.or_false]
      exact mirrors
  | cons allowed _ induction =>
      rw [List.any_cons, ← Bool.or_assoc]
      exact induction (mirrors.after allowed)

/-! ## The label -/

/-- Where no label is given, the label goes when a task begins or is done. -/
theorem subtask_afterAll (snapshot : ProgressSnapshot)
    (unlabelled : ∀ call ∈ calls, call.labels = false) :
    (snapshot.afterAll calls).subtask =
      if .done ∈ calls ∨ calls.any begins then none else snapshot.subtask := by
  induction calls generalizing snapshot with
  | nil => rfl
  | cons call calls induction =>
      rcases List.forall_mem_cons.mp unlabelled with ⟨first, rest⟩
      have later := induction (snapshot.apply call) rest
      change ((snapshot.apply call).afterAll calls).subtask = _
      rw [later]
      cases call <;> simp_all [apply, begins, labels]

/-! ## The part that is done -/

theorem percentage_eq (declared : snapshot.total ≠ 0) (within : snapshot.worked ≤ snapshot.total)
    (fits : snapshot.total ≤ maxWork) :
    snapshot.percentage = some (100 * snapshot.worked / snapshot.total) := by
  have room : 100 * snapshot.total ≤ maxUnits := by
    simp only [maxWork] at fits
    simp only [maxUnits]
    omega
  rw [percentage_eq_exact (Nat.pos_of_ne_zero declared) room, exactPercentage,
    Nat.min_eq_left within]

theorem percentage_eq_hundred_iff (within : snapshot.worked ≤ snapshot.total)
    (fits : snapshot.total ≤ maxWork) :
    snapshot.percentage = some 100 ↔ snapshot.total ≠ 0 ∧ snapshot.worked = snapshot.total := by
  by_cases declared : snapshot.total = 0
  · have shown := percentage_eq_none_iff.mpr declared
    simp [shown, declared]
  · have complete := exactPercentage_eq_hundred_iff (Nat.pos_of_ne_zero declared)
    rw [exactPercentage, Nat.min_eq_left within] at complete
    rw [percentage_eq declared within fits, Option.some_inj, complete]
    omega

theorem apply_total (snapshot : ProgressSnapshot) (ongoing : call.begins = false) :
    (snapshot.apply call).total = snapshot.total := by
  cases call with
  | beginTask name total => cases ongoing
  | _ => rfl

theorem afterAll_total (ongoing : ∀ call ∈ calls, call.begins = false) :
    (snapshot.afterAll calls).total = snapshot.total := by
  induction calls generalizing snapshot with
  | nil => rfl
  | cons call calls induction =>
      rcases List.forall_mem_cons.mp ongoing with ⟨first, rest⟩
      exact (induction rest).trans (snapshot.apply_total first)

theorem apply_grows (fits : snapshot.total ≤ maxUnits) (ongoing : call.begins = false) :
    min snapshot.worked snapshot.total ≤ min (snapshot.apply call).worked snapshot.total := by
  cases call with
  | beginTask name total => cases ongoing
  | worked units =>
      simp only [apply, Units.saturatingAdd]
      omega
  | done =>
      simp only [apply]
      omega
  | taskName _ | workRemaining _ | subTask _ => exact Nat.le_refl _

theorem percentage_le_afterAll {percent : Nat} (fits : snapshot.total ≤ maxUnits)
    (ongoing : ∀ call ∈ calls, call.begins = false)
    (shown : snapshot.percentage = some percent) :
    ∃ later, (snapshot.afterAll calls).percentage = some later ∧ percent ≤ later := by
  induction calls generalizing snapshot percent with
  | nil => exact ⟨percent, shown, Nat.le_refl percent⟩
  | cons call calls induction =>
      rcases List.forall_mem_cons.mp ongoing with ⟨first, rest⟩
      have sameTotal := snapshot.apply_total first
      rcases percentage_le_of_grows sameTotal (apply_grows fits first) shown with
        ⟨next, nextShown, more⟩
      rcases induction (sameTotal.symm ▸ fits) rest nextShown with ⟨later, laterShown, evenMore⟩
      exact ⟨later, laterShown, Nat.le_trans more evenMore⟩

end ProgressSnapshot

end JobProgress
