import JobProgress.Sink.Call
import Mathlib.Data.List.Induction

namespace JobProgress

/-! A sink that is told nothing wrong can keep count of its task: a task is
open from its beginning until it is done, and the units reported in between
never go beyond the units declared. `ShownTask` is that count, `Allows` tells
which calls are in order, and `Transitions` follows a list of calls that all
are. -/

/-- The task a sink shows, as far as its units go. A task that is done stays
on show until the next one begins. -/
structure ShownTask where
  total : Nat
  worked : Nat
  isOpen : Bool
  deriving DecidableEq, Repr

namespace ShownTask

def blank : ShownTask := ⟨0, 0, false⟩

def after (task : ShownTask) : SinkCall → ShownTask
  | .beginTask _ total => ⟨total, 0, true⟩
  | .worked units => { task with worked := task.worked + units }
  | .done => { task with isOpen := false }
  | .taskName _ | .workRemaining _ | .subTask _ => task

def afterAll (task : ShownTask) (calls : List SinkCall) : ShownTask :=
  calls.foldl after task

/-- Whether a call is in order. Only a name may come at any time; a report
carries at least one unit and stays within the total, what remains is stated
truthfully, and a task is done when all of it was reported. -/
def Allows (task : ShownTask) : SinkCall → Prop
  | .taskName _ => True
  | .beginTask _ _ => task.isOpen = false
  | .worked units => task.isOpen = true ∧ 1 ≤ units ∧ task.worked + units ≤ task.total
  | .workRemaining units => task.isOpen = true ∧ task.worked + units = task.total
  | .subTask _ => task.isOpen = true
  | .done => task.isOpen = true ∧ task.worked = task.total

structure Sound (task : ShownTask) : Prop where
  within : task.worked ≤ task.total
  complete : task.isOpen = false → task.worked = task.total

theorem blank_sound : blank.Sound := ⟨Nat.le_refl 0, fun _ => rfl⟩

theorem Sound.after {task : ShownTask} {call : SinkCall} (sound : task.Sound)
    (allowed : task.Allows call) : (task.after call).Sound := by
  cases call with
  | beginTask name total => exact ⟨Nat.zero_le total, fun closed => nomatch closed⟩
  | worked units =>
      refine ⟨allowed.2.2, fun closed => ?_⟩
      exact nomatch allowed.1.symm.trans closed
  | done => exact ⟨sound.within, fun _ => allowed.2⟩
  | taskName _ | workRemaining _ | subTask _ => exact sound

inductive Transitions : ShownTask → List SinkCall → ShownTask → Prop
  | nil (task) : Transitions task [] task
  | cons {task final call calls} :
      Allows task call →
      Transitions (task.after call) calls final →
      Transitions task (call :: calls) final

namespace Transitions

variable {task middle final : ShownTask} {call : SinkCall} {calls first second : List SinkCall}

theorem one (allowed : task.Allows call) :
    Transitions task [call] (task.after call) :=
  .cons allowed (.nil _)

theorem append (left : Transitions task first middle)
    (right : Transitions middle second final) :
    Transitions task (first ++ second) final := by
  induction left with
  | nil => exact right
  | cons allowed _ induction => exact .cons allowed (induction right)

theorem split (transitions : Transitions task (first ++ second) final) :
    ∃ middle, Transitions task first middle ∧ Transitions middle second final := by
  induction first generalizing task with
  | nil => exact ⟨task, .nil task, transitions⟩
  | cons call first induction =>
      cases transitions with
      | cons allowed rest =>
          rcases induction rest with ⟨middle, left, right⟩
          exact ⟨middle, .cons allowed left, right⟩

theorem afterAll_eq (transitions : Transitions task calls final) :
    task.afterAll calls = final := by
  induction transitions with
  | nil => rfl
  | cons _ _ induction => exact induction

theorem sound (transitions : Transitions task calls final) (start : task.Sound) :
    final.Sound := by
  induction transitions with
  | nil => exact start
  | cons allowed _ induction => exact induction (start.after allowed)

theorem one_le_of_mem (transitions : Transitions task calls final) {units : Nat}
    (member : .worked units ∈ calls) : 1 ≤ units := by
  induction transitions with
  | nil => cases member
  | cons allowed _ induction =>
      rcases List.mem_cons.mp member with equal | later
      · subst equal
        exact allowed.2.1
      · exact induction later

theorem of_not_done (transitions : Transitions task calls final)
    (opened : task.isOpen = true) (ongoing : .done ∉ calls) :
    final.isOpen = true ∧ final.total = task.total ∧
      final.worked = task.worked + SinkCall.totalWorked calls := by
  induction transitions with
  | nil => exact ⟨opened, rfl, by simp⟩
  | @cons task final call calls allowed _ induction =>
      have later : .done ∉ calls := fun member => ongoing (List.mem_cons_of_mem call member)
      cases call with
      | beginTask name total => simp [Allows, opened] at allowed
      | done => simp at ongoing
      | worked units =>
          have result := induction opened later
          simpa [after, SinkCall.workedUnits, Nat.add_assoc] using result
      | taskName name =>
          simpa [after, SinkCall.workedUnits] using induction opened later
      | workRemaining units =>
          simpa [after, SinkCall.workedUnits] using induction opened later
      | subTask name =>
          simpa [after, SinkCall.workedUnits] using induction opened later

/-- As long as no other task begins, reported units add up, also past the end of the task. -/
theorem of_not_begun (transitions : Transitions task calls final)
    (latest : ∀ name total, .beginTask name total ∉ calls) :
    final.total = task.total ∧ final.worked = task.worked + SinkCall.totalWorked calls := by
  induction transitions with
  | nil => exact ⟨rfl, rfl⟩
  | @cons task final call calls _ _ induction =>
      have later : ∀ name total, .beginTask name total ∉ calls := fun name total member =>
        latest name total (List.mem_cons_of_mem call member)
      have result := induction later
      cases call with
      | beginTask name total => exact absurd List.mem_cons_self (latest name total)
      | _ => simpa [after, SinkCall.workedUnits, Nat.add_assoc] using result

theorem not_mem_beginTask (transitions : Transitions task calls final)
    (opened : task.isOpen = true) (ongoing : .done ∉ calls) (name : String) (total : Nat) :
    .beginTask name total ∉ calls := by
  intro member
  rcases List.append_of_mem member with ⟨earlier, later, equal⟩
  subst equal
  rcases transitions.split with ⟨middle, left, right⟩
  have stillOpen := (left.of_not_done opened fun done =>
    ongoing (List.mem_append_left _ done)).1
  cases right with
  | cons allowed _ => exact nomatch stillOpen.symm.trans allowed

/-- An open task has begun, if none was open at first. The units on it are those
reported since. -/
theorem exists_beginTask (transitions : Transitions task calls final)
    (closed : task.isOpen = false) (opened : final.isOpen = true) :
    ∃ before name during, calls = before ++ .beginTask name final.total :: during ∧
      .done ∉ during ∧ (∀ other declared, .beginTask other declared ∉ during) ∧
      SinkCall.totalWorked during = final.worked := by
  induction calls using List.reverseRecOn generalizing final with
  | nil =>
      cases transitions
      exact nomatch closed.symm.trans opened
  | append_singleton calls call induction =>
      rcases transitions.split with ⟨middle, left, right⟩
      have extend (stillOpen : middle.isOpen = true) (goesOn : .done ∉ [call]) :
          ∃ before name during, calls ++ [call] = before ++ .beginTask name final.total :: during ∧
            .done ∉ during ∧ (∀ other declared, .beginTask other declared ∉ during) ∧
            SinkCall.totalWorked during = final.worked := by
        rcases induction left stillOpen with ⟨before, name, during, rfl, ongoing, latest, sum⟩
        rcases right.of_not_done stillOpen goesOn with ⟨_, sameTotal, added⟩
        have only := right.not_mem_beginTask stillOpen goesOn
        refine ⟨before, name, during ++ [call], by simp [sameTotal], ?_, ?_, ?_⟩
        · exact List.not_mem_append ongoing goesOn
        · exact fun other declared =>
            List.not_mem_append (latest other declared) (only other declared)
        · rw [SinkCall.totalWorked_append, sum, added]
      cases right with
      | cons allowed rest =>
          cases rest
          cases call with
          | beginTask name total =>
              exact ⟨calls, name, [], rfl, List.not_mem_nil, fun _ _ => List.not_mem_nil, rfl⟩
          | done => exact nomatch opened
          | worked _ | workRemaining _ | subTask _ | taskName _ => exact extend opened (by simp)

theorem completes {heard : List SinkCall} (earlier : Transitions task heard middle)
    (later : Transitions middle calls final) (start : task.Sound) (closed : task.isOpen = false)
    (opened : middle.isOpen = true) (ended : final.isOpen = false)
    (same : ∀ name total, .beginTask name total ∉ calls) :
    ∃ before name total during, heard = before ++ .beginTask name total :: during ∧
      .done ∉ during ∧ (∀ other declared, .beginTask other declared ∉ during) ∧
      SinkCall.totalWorked (during ++ calls) = total := by
  rcases earlier.exists_beginTask closed opened with
    ⟨before, name, during, begun, ongoing, latest, reported⟩
  rcases later.of_not_begun same with ⟨sameTotal, sum⟩
  have complete := (later.sound (earlier.sound start)).complete ended
  refine ⟨before, name, middle.total, during, begun, ongoing, latest, ?_⟩
  rw [SinkCall.totalWorked_append, reported, ← sum, complete, sameTotal]

end Transitions

end ShownTask

end JobProgress
