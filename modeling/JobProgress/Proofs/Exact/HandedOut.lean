import JobProgress.Proofs.Exact.View
import Mathlib.Algebra.Order.BigOperators.Group.List

/-! Whatever is done with a view, and in whatever order, what it hands out comes from the slice
that it was made with: in exact arithmetic what was handed out and the slack that is left add up
to the slice at any time, and closing the view leaves no slack. -/

namespace JobProgress

open Amount

inductive ViewCall where
  | advance (units : UInt64)
  | carve (share : UInt64)
  | rescale (units : UInt64)
  | finish
  deriving DecidableEq, Repr

namespace View

section Calls

variable {α : Type} [Amount α]

/-- The view after a call, and the amount that the call hands out: what it returns, or the
capacity of the view that is carved. -/
def perform (view : View α) : ViewCall → View α × α
  | .advance units => view.advance units.toNat
  | .carve share => ((view.carve share.toNat).1, (view.carve share.toNat).2.capacity)
  | .rescale units => (view.rescale units.toNat, ofUnits 0)
  | .finish => view.finish

def afterCalls (view : View α) (calls : List ViewCall) : View α :=
  calls.foldl (fun view call => (view.perform call).1) view

def handedOut (view : View α) : List ViewCall → List α
  | [] => []
  | call :: calls => (view.perform call).2 :: (view.perform call).1.handedOut calls

@[simp] theorem afterCalls_cons (view : View α) (call : ViewCall) (calls : List ViewCall) :
    view.afterCalls (call :: calls) = (view.perform call).1.afterCalls calls := rfl

theorem afterCalls_append (view : View α) (earlier later : List ViewCall) :
    view.afterCalls (earlier ++ later) = (view.afterCalls earlier).afterCalls later :=
  List.foldl_append

@[simp] theorem length_handedOut (view : View α) (calls : List ViewCall) :
    (view.handedOut calls).length = calls.length := by
  induction calls generalizing view with
  | nil => rfl
  | cons call calls induction => exact congrArg (· + 1) (induction _)

theorem handedOut_append (view : View α) (earlier later : List ViewCall) :
    view.handedOut (earlier ++ later) =
      view.handedOut earlier ++ (view.afterCalls earlier).handedOut later := by
  induction earlier generalizing view with
  | nil => rfl
  | cons call earlier induction =>
      rw [List.cons_append, handedOut, handedOut, induction, List.cons_append, afterCalls_cons]

theorem drop_handedOut (view : View α) (earlier later : List ViewCall) :
    (view.handedOut (earlier ++ later)).drop earlier.length =
      (view.afterCalls earlier).handedOut later := by
  rw [handedOut_append, List.drop_left' (view.length_handedOut earlier)]

/-- A view as it is made: of a whole task, or carved of another view that calls were made on. -/
inductive Made : View α → Prop
  | root (total : UInt64) : Made (.root total.toNat)
  | carve {view : View α} (calls : List ViewCall) (share : UInt64) :
      Made view → Made ((view.afterCalls calls).carve share.toNat).2

end Calls

variable {view : View Rat}

/-! ## One call -/

theorem Sound.perform (sound : view.Sound) (call : ViewCall) :
    (view.perform call).1.Sound ∧ 0 ≤ (view.perform call).2 ∧
      (view.perform call).1.slack + (view.perform call).2 = view.slack := by
  cases call with
  | advance units =>
      exact ⟨sound.advance _, sound.advance_nonneg _, sound.slack_advance _⟩
  | carve share =>
      exact ⟨sound.advance _, sound.advance_nonneg _, sound.slack_advance _⟩
  | rescale units =>
      refine ⟨sound.rescale (argument_le_maxUnits units), le_refl 0, ?_⟩
      exact (add_zero _).trans (sound.slack_rescale _)
  | finish =>
      have rest : view.finish.2 = view.slack := sound.rest_eq
      have spent : view.finish.1.slack = 0 := sub_self _
      refine ⟨sound.finish, ?_, ?_⟩
      · exact rest.symm ▸ sound.slack_nonneg
      · exact (congrArg₂ (· + ·) spent rest).trans (zero_add _)

theorem slack_perform_finish (view : View Rat) : (view.perform .finish).1.slack = 0 :=
  sub_self _

/-! ## Any number of calls -/

theorem Sound.afterCalls (sound : view.Sound) (calls : List ViewCall) :
    (view.afterCalls calls).Sound := by
  induction calls generalizing view with
  | nil => exact sound
  | cons call calls induction => exact induction (sound.perform call).1

theorem Sound.handedOut_nonneg (sound : view.Sound) (calls : List ViewCall) :
    ∀ amount ∈ view.handedOut calls, 0 ≤ amount := by
  induction calls generalizing view with
  | nil => simp [View.handedOut]
  | cons call calls induction =>
      rcases sound.perform call with ⟨next, nonneg, _⟩
      exact List.forall_mem_cons.mpr ⟨nonneg, induction next⟩

theorem Sound.slack_afterCalls (sound : view.Sound) (calls : List ViewCall) :
    (view.afterCalls calls).slack + (view.handedOut calls).sum = view.slack := by
  induction calls generalizing view with
  | nil => exact add_zero _
  | cons call calls induction =>
      rcases sound.perform call with ⟨next, _, kept⟩
      rw [afterCalls_cons, View.handedOut, List.sum_cons, ← kept, ← induction next]
      ring

theorem Sound.handedOut_of_spent (sound : view.Sound) (spent : view.slack = 0)
    (calls : List ViewCall) : ∀ amount ∈ view.handedOut calls, amount = 0 := by
  induction calls generalizing view with
  | nil => simp [View.handedOut]
  | cons call calls induction =>
      rcases sound.perform call with ⟨next, nonneg, kept⟩
      have left := next.slack_nonneg
      have nothing : (view.perform call).2 = 0 := by linarith
      have stillSpent : (view.perform call).1.slack = 0 := by linarith
      exact List.forall_mem_cons.mpr ⟨nothing, induction next stillSpent⟩

theorem Sound.slack_afterCalls_of_spent (sound : view.Sound) (spent : view.slack = 0)
    (calls : List ViewCall) : (view.afterCalls calls).slack = 0 := by
  have kept := sound.slack_afterCalls calls
  rwa [List.sum_eq_zero (sound.handedOut_of_spent spent calls), add_zero, spent] at kept

theorem Sound.slack_afterCalls_of_finish (sound : view.Sound) {calls : List ViewCall}
    (finished : .finish ∈ calls) : (view.afterCalls calls).slack = 0 := by
  rcases List.append_of_mem finished with ⟨earlier, later, rfl⟩
  rw [afterCalls_append, afterCalls_cons]
  exact ((sound.afterCalls earlier).perform .finish).1.slack_afterCalls_of_spent
    (slack_perform_finish _) later

theorem Made.sound (made : view.Made) : view.Sound ∧ view.slack = view.capacity := by
  induction made with
  | root total => exact ⟨root_sound (argument_le_maxUnits total), sub_zero _⟩
  | carve calls share _ induction =>
      exact ⟨(induction.1.afterCalls calls).carve share.toNat, sub_zero _⟩

/-- A view hands out its slice and no more, whatever calls are made on it. No amount that it
hands out, be it returned or the capacity of a view carved of it, is negative; it never consumes
more than its capacity, nor uses more than its scale. All that it has handed out lies within the
capacity that it was made with, and is all of that once the view was closed. Whatever is done
after that hands out nothing. -/
theorem handed_out_within_slice (made : view.Made) (calls : List ViewCall) :
    let reached := view.afterCalls calls
    let amounts := view.handedOut calls
    (∀ amount ∈ amounts, 0 ≤ amount) ∧
      (0 ≤ reached.consumed ∧ reached.consumed ≤ reached.capacity ∧
        reached.used ≤ reached.scale) ∧
      amounts.sum ≤ view.capacity ∧
      (.finish ∈ calls → amounts.sum = view.capacity) ∧
      ∀ earlier later, calls = earlier ++ .finish :: later →
        ∀ amount ∈ amounts.drop (earlier.length + 1), amount = 0 := by
  intro reached amounts
  -- At first all of the capacity is slack, and slack is what is handed out.
  rcases made.sound with ⟨sound, whole⟩
  have reachedSound : reached.Sound := sound.afterCalls calls
  have kept : reached.slack + amounts.sum = view.capacity :=
    (sound.slack_afterCalls calls).trans whole
  refine ⟨sound.handedOut_nonneg calls,
    ⟨reachedSound.consumed_nonneg, reachedSound.consumed_le, reachedSound.used_le⟩, ?_, ?_, ?_⟩
  · exact kept ▸ le_add_of_nonneg_left reachedSound.slack_nonneg
  · intro finished
    have spent : reached.slack = 0 := sound.slack_afterCalls_of_finish finished
    rwa [spent, zero_add] at kept
  · intro earlier later split
    have closed : calls = (earlier ++ [.finish]) ++ later := by simp [split]
    have length : earlier.length + 1 = (earlier ++ [ViewCall.finish]).length := by simp
    have spent : (view.afterCalls (earlier ++ [.finish])).slack = 0 :=
      sound.slack_afterCalls_of_finish (by simp)
    change ∀ amount ∈ (view.handedOut calls).drop (earlier.length + 1), amount = 0
    rw [closed, length, drop_handedOut]
    exact (sound.afterCalls _).handedOut_of_spent spent later

/-- A slice of four units, carved of a task of ten and spread over a scale of three, hands out a
third of them and as much to a view carved of it. It is spread anew over no scale at all, so
that closing it yields what is left; spreading it again makes nothing of it. -/
theorem handed_out_within_slice_of_respread_view :
    let slice : View Rat := (((root 10).afterCalls [.advance 5]).carve 4).2
    let calls : List ViewCall :=
      [.advance 7, .rescale 3, .advance 1, .carve 1, .rescale 0, .advance 2, .finish, .rescale 4,
        .advance 3, .finish]
    slice.handedOut calls = [0, 0, 4 / 3, 4 / 3, 0, 0, 4 / 3, 0, 0, 0] ∧
      (slice.handedOut calls).sum = 4 ∧
      ∀ amount ∈ (slice.handedOut calls).drop 7, amount = 0 := by
  intro slice calls
  have made : slice.Made := .carve [.advance 5] 4 (.root 10)
  have capacity : slice.capacity = 4 := by decide +kernel +zetaReduce
  rcases handed_out_within_slice made calls with ⟨_, _, _, closed, after⟩
  refine ⟨by decide +kernel +zetaReduce, ?_, ?_⟩
  · exact (closed (by decide +zetaReduce)).trans capacity
  · exact after [.advance 7, .rescale 3, .advance 1, .carve 1, .rescale 0, .advance 2] _ rfl

end View

end JobProgress
