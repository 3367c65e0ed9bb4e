import JobProgress.Proofs.Budget

/-! Ticks keep their books in whole units, and these balance whatever amounts are reported, also
amounts that cannot be compared or that spoil the fraction for good: the units sent and those
that remain make up the task at any time, and once ticks are finished nothing more is sent. -/

namespace JobProgress

inductive TicksCall (α : Type) where
  | report (amount : α)
  | finish
  deriving Repr

theorem SinkCall.exists_of_mem_report {call : SinkCall} {units : Nat}
    (member : call ∈ SinkCall.report units) : ∃ sent, call = .worked sent ∧ 1 ≤ sent := by
  cases units with
  | zero => exact absurd member List.not_mem_nil
  | succ units => exact ⟨units + 1, List.mem_singleton.mp member, Nat.succ_pos units⟩

namespace Ticks

variable {α : Type} [Amount α]

def perform (ticks : Ticks α) : TicksCall α → Ticks α × List SinkCall
  | .report amount => ticks.report amount
  | .finish => ticks.finish

def afterCalls (ticks : Ticks α) (calls : List (TicksCall α)) : Ticks α :=
  calls.foldl (fun ticks call => (ticks.perform call).1) ticks

def sentBy (ticks : Ticks α) : List (TicksCall α) → List SinkCall
  | [] => []
  | call :: calls => (ticks.perform call).2 ++ (ticks.perform call).1.sentBy calls

@[simp] theorem afterCalls_cons (ticks : Ticks α) (call : TicksCall α)
    (calls : List (TicksCall α)) :
    ticks.afterCalls (call :: calls) = (ticks.perform call).1.afterCalls calls := rfl

theorem afterCalls_append (ticks : Ticks α) (earlier later : List (TicksCall α)) :
    ticks.afterCalls (earlier ++ later) = (ticks.afterCalls earlier).afterCalls later :=
  List.foldl_append

theorem sentBy_append (ticks : Ticks α) (earlier later : List (TicksCall α)) :
    ticks.sentBy (earlier ++ later) =
      ticks.sentBy earlier ++ (ticks.afterCalls earlier).sentBy later := by
  induction earlier generalizing ticks with
  | nil => rfl
  | cons call earlier induction =>
      rw [List.cons_append, sentBy, sentBy, induction, List.append_assoc, afterCalls_cons]

/-! ## One call -/

theorem perform_sends (ticks : Ticks α) (call : TicksCall α) :
    ∃ units ≤ ticks.remaining,
      (ticks.perform call).1.total = ticks.total ∧
        (ticks.perform call).1.reported = ticks.reported + units ∧
        (ticks.perform call).2 = SinkCall.report units := by
  cases call with
  | report amount =>
      rcases ticks.report_sends amount with ⟨units, fits, reported, sent⟩
      exact ⟨units, fits, ticks.report_total amount, reported, sent⟩
  | finish => exact ⟨ticks.remaining, Nat.le_refl _, rfl, rfl, rfl⟩

theorem perform_transitions {ticks : Ticks α} (within : ticks.reported ≤ ticks.total)
    (call : TicksCall α) :
    ticks.shown.Transitions (ticks.perform call).2 (ticks.perform call).1.shown := by
  cases call with
  | report amount => exact report_transitions amount within
  | finish => exact finish_transitions within

theorem remaining_finish (ticks : Ticks α) : ticks.finish.1.remaining = 0 := by
  simp only [finish, remaining]
  omega

theorem perform_of_complete {ticks : Ticks α} (complete : ticks.remaining = 0)
    (call : TicksCall α) :
    (ticks.perform call).2 = [] ∧ (ticks.perform call).1.remaining = 0 := by
  rcases ticks.perform_sends call with ⟨units, fits, total, reported, sent⟩
  have nothing : units = 0 := Nat.le_zero.mp (complete ▸ fits)
  subst nothing
  refine ⟨sent, ?_⟩
  rw [remaining, total, reported]
  exact complete

/-! ## Any number of calls -/

theorem afterCalls_transitions {ticks : Ticks α} (within : ticks.reported ≤ ticks.total)
    (calls : List (TicksCall α)) :
    ticks.shown.Transitions (ticks.sentBy calls) (ticks.afterCalls calls).shown := by
  induction calls generalizing ticks with
  | nil => exact .nil _
  | cons call calls induction =>
      have first := perform_transitions within call
      exact first.append (induction (first.sound (shown_sound within)).within)

theorem exists_of_mem_sentBy (ticks : Ticks α) (calls : List (TicksCall α)) :
    ∀ call ∈ ticks.sentBy calls, ∃ units, call = .worked units ∧ 1 ≤ units := by
  induction calls generalizing ticks with
  | nil => exact fun call member => absurd member List.not_mem_nil
  | cons call calls induction =>
      rcases ticks.perform_sends call with ⟨units, _, _, _, sent⟩
      refine List.forall_mem_append.mpr ⟨fun call member => ?_, induction _⟩
      exact SinkCall.exists_of_mem_report (sent ▸ member)

theorem afterCalls_of_complete {ticks : Ticks α} (complete : ticks.remaining = 0)
    (calls : List (TicksCall α)) :
    ticks.sentBy calls = [] ∧ (ticks.afterCalls calls).remaining = 0 := by
  induction calls generalizing ticks with
  | nil => exact ⟨rfl, complete⟩
  | cons call calls induction =>
      rcases perform_of_complete complete call with ⟨silent, stillComplete⟩
      rcases induction stillComplete with ⟨later, last⟩
      exact ⟨List.append_eq_nil_iff.mpr ⟨silent, later⟩, last⟩

/-- Ticks of which nothing was sent at first count the units that they send, up to the total and
no further. -/
theorem ofTotal_counts (total : Nat) (calls : List (TicksCall α)) :
    let start : Ticks α := ofTotal total
    (start.afterCalls calls).total = total ∧ (start.afterCalls calls).reported ≤ total ∧
      (start.afterCalls calls).reported = SinkCall.totalWorked (start.sentBy calls) := by
  intro start
  have unsent : start.reported ≤ start.total := Nat.zero_le total
  have transitions := afterCalls_transitions unsent calls
  have ongoing : .done ∉ start.sentBy calls := by
    intro member
    rcases start.exists_of_mem_sentBy calls _ member with ⟨units, isWorked, _⟩
    exact SinkCall.noConfusion isWorked
  rcases transitions.of_not_done rfl ongoing with ⟨_, sameTotal, counted⟩
  have within := (transitions.sound (shown_sound unsent)).within
  exact ⟨sameTotal, Nat.le_trans within (Nat.le_of_eq sameTotal), counted.trans (Nat.zero_add _)⟩

/-- Whatever is reported to ticks and whenever they are finished, they send no more than the total
and only whole units, at least one in each call; what they sent and what remains make up the
total. After they were finished once, nothing remains and nothing more is sent. None of this
rests on the arithmetic of amounts. -/
theorem sent_and_remaining_make_total (total : Nat) (calls later : List (TicksCall α)) :
    let start : Ticks α := ofTotal total
    let reached := start.afterCalls calls
    let sent := start.sentBy calls
    let finished := calls ++ [.finish]
    (reached.total = total ∧ reached.reported ≤ total) ∧
      (∀ call ∈ sent, ∃ units, call = .worked units ∧ 1 ≤ units) ∧
      SinkCall.totalWorked sent + reached.remaining = total ∧
      (start.afterCalls (finished ++ later)).remaining = 0 ∧
      start.sentBy (finished ++ later) = start.sentBy finished := by
  intro start reached sent finished
  rcases ofTotal_counts total calls with ⟨sameTotal, within, counted⟩
  have balance : SinkCall.totalWorked sent + reached.remaining = total :=
    calc SinkCall.totalWorked sent + reached.remaining
        = reached.reported + (total - reached.reported) := by
          rw [remaining, sameTotal]
          exact congrArg (· + _) counted.symm
      _ = total := Nat.add_sub_cancel' within
  have complete : (start.afterCalls finished).remaining = 0 := by
    rw [afterCalls_append]
    exact remaining_finish reached
  rcases afterCalls_of_complete complete later with ⟨silent, stillComplete⟩
  refine ⟨⟨sameTotal, within⟩, start.exists_of_mem_sentBy calls, balance, ?_, ?_⟩
  · rw [afterCalls_append]
    exact stillComplete
  · rw [sentBy_append, silent, List.append_nil]

/-- The fraction carried is spoilt for good by an amount that is not a number, and an infinite
amount comes on top. Still all seven units are sent, and none after that. -/
theorem sent_and_remaining_make_total_of_spoilt_carry :
    let notANumber : Float := 0 / 0
    let infinite : Float := 1 / 0
    let start : Ticks Float := ofTotal 7
    let calls : List (TicksCall Float) :=
      [.report 2.5, .report notANumber, .report infinite, .report (-4), .report 1e300]
    let later : List (TicksCall Float) := [.report 3, .finish, .report infinite]
    SinkCall.totalWorked (start.sentBy calls) + (start.afterCalls calls).remaining = 7 ∧
      SinkCall.totalWorked (start.sentBy (calls ++ [.finish] ++ later)) = 7 ∧
      start.sentBy (calls ++ [.finish] ++ later) = start.sentBy (calls ++ [.finish]) := by
  intro notANumber infinite start calls later
  rcases sent_and_remaining_make_total 7 calls later with ⟨_, _, balance, complete, silent⟩
  rcases sent_and_remaining_make_total 7 (calls ++ [.finish] ++ later) [] with ⟨_, _, whole, _⟩
  rw [complete] at whole
  exact ⟨balance, whole, silent⟩

end Ticks

end JobProgress
