import JobProgress.Proofs.Exact.Ticks
import JobProgress.Proofs.Trace

/-! In exact arithmetic every unit of a task is in one place: it was sent, or it
is carried, or it is slack of one of the open jobs. Opening a job moves slack
into the new job, advancing and closing one move it to the ticks, and an
estimate leaves all of it where it is. -/

namespace JobProgress

theorem toNat_le_maxUnits (count : UInt32) : count.toNat ≤ maxUnits := by
  have below := count.toNat_lt
  simp only [maxUnits]
  omega

namespace Scope

variable {scope : Scope Rat}

theorem ofView_slack {view : View Rat} (sound : view.Sound) (name : String)
    (totalWork : Nat) (startedAt : Instant) :
    (ofView name view totalWork startedAt).view.slack = view.slack :=
  sound.slack_rescale totalWork

theorem extendView_sound (sound : scope.view.Sound) {overrunWork : Nat}
    (fits : overrunWork ≤ maxUnits) : (scope.extendView overrunWork).view.Sound := by
  simp only [extendView]
  split
  · exact sound.rescale fits
  · exact sound

theorem extendView_slack (sound : scope.view.Sound) (overrunWork : Nat) :
    (scope.extendView overrunWork).view.slack = scope.view.slack := by
  simp only [extendView]
  split
  · exact sound.slack_rescale overrunWork
  · rfl

theorem carved_slack (sound : scope.view.Sound) {overrunWork : Nat}
    (fits : overrunWork ≤ maxUnits) (granted : GrantedShare) :
    (scope.carved overrunWork granted).view.slack +
        ((scope.extendView overrunWork).view.carve granted.share).2.slack =
      scope.view.slack := by
  rw [View.slack_carve, ← extendView_slack sound overrunWork]
  exact (extendView_sound sound fits).slack_advance granted.share

theorem stepped_sound (sound : scope.view.Sound) {overrunWork : Nat}
    (fits : overrunWork ≤ maxUnits) (next : Nat) : (scope.stepped overrunWork next).view.Sound := by
  simp only [stepped]
  split
  · exact (sound.advance scope.pending).rescale fits
  · exact sound.advance scope.pending

theorem stepped_slack (sound : scope.view.Sound) (overrunWork next : Nat) :
    (scope.stepped overrunWork next).view.slack + (scope.view.advance scope.pending).2 =
      scope.view.slack := by
  rw [← sound.slack_advance scope.pending]
  simp only [stepped]
  split
  · rw [(sound.advance scope.pending).slack_rescale]
  · rfl

end Scope

namespace Monitor

/-- Amount that the open jobs may still hand out. -/
def slack (scopes : List (Scope Rat)) : Rat :=
  (scopes.map fun scope => scope.view.slack).sum

@[simp] theorem slack_nil : slack [] = 0 := rfl

@[simp] theorem slack_cons (scope : Scope Rat) (outer : List (Scope Rat)) :
    slack (scope :: outer) = scope.view.slack + slack outer := by
  simp [slack]

theorem slack_nonneg {scopes : List (Scope Rat)}
    (sound : ∀ scope ∈ scopes, scope.view.Sound) : 0 ≤ slack scopes := by
  induction scopes with
  | nil => exact le_refl 0
  | cons scope outer induction =>
      rw [slack_cons]
      have outerSound := fun inner member => sound inner (List.mem_cons_of_mem scope member)
      exact add_nonneg (sound scope List.mem_cons_self).slack_nonneg (induction outerSound)

@[simp] theorem slack_settleParent (outer : List (Scope Rat)) :
    slack (settleParent outer) = slack outer := by
  cases outer with
  | nil => rfl
  | cons parent outer => simp [settleParent, Scope.settle, Scope.account, Scope.takePending]

theorem settleParent_sound {outer : List (Scope Rat)}
    (sound : ∀ scope ∈ outer, scope.view.Sound) :
    ∀ scope ∈ settleParent outer, scope.view.Sound := by
  cases outer with
  | nil => exact sound
  | cons parent outer =>
      rw [settleParent, List.forall_mem_cons]
      exact List.forall_mem_cons.mp sound

/-- The slices are sound, and what was collected and what is slack make up the
task. A task that is finished was collected whole. -/
structure Balanced (monitor : Monitor Rat) : Prop where
  views : ∀ scope ∈ monitor.scopes, scope.view.Sound
  ticks : monitor.ticks.Sound
  balance : monitor.ticks.collected + slack monitor.scopes = monitor.ticks.total

namespace Balanced

variable {monitor : Monitor Rat} {scope : Scope Rat} {outer : List (Scope Rat)}

theorem ofConfig (config : Config) : (Monitor.ofConfig config : Monitor Rat).Balanced where
  views := fun scope member => nomatch member
  ticks := Ticks.ofTotal_sound (Nat.zero_le maxUnits)
  balance := by simp [Monitor.ofConfig]

theorem scope_sound (balanced : monitor.Balanced) (stack : monitor.scopes = scope :: outer) :
    scope.view.Sound :=
  balanced.views scope (stack ▸ List.mem_cons_self)

theorem outer_sound (balanced : monitor.Balanced) (stack : monitor.scopes = scope :: outer) :
    ∀ other ∈ outer, other.view.Sound :=
  fun other member => balanced.views other (stack ▸ List.mem_cons_of_mem scope member)

theorem balance_of_open (balanced : monitor.Balanced) (stack : monitor.scopes = scope :: outer) :
    monitor.ticks.collected + scope.view.slack + slack outer = monitor.ticks.total := by
  rw [← balanced.balance, stack, slack_cons]
  ring

theorem fits (balanced : monitor.Balanced) (stack : monitor.scopes = scope :: outer)
    {amount : Rat} (le : amount ≤ scope.view.slack) :
    monitor.ticks.collected + amount ≤ monitor.ticks.total := by
  have others := slack_nonneg (balanced.outer_sound stack)
  linarith [balanced.balance_of_open stack]

theorem openRoot (now : Instant) (name : String) (totalWork : UInt32) :
    (monitor.openRoot now name totalWork.toNat).monitor.Balanced := by
  have root := View.root_sound (toNat_le_maxUnits totalWork)
  refine ⟨?_, Ticks.ofTotal_sound (toNat_le_maxUnits totalWork), ?_⟩
  · intro scope member
    rw [List.mem_singleton.mp member]
    exact root.rescale (toNat_le_maxUnits totalWork)
  · simp [Monitor.openRoot, Scope.ofView_slack root]

theorem openNested (balanced : monitor.Balanced) (stack : monitor.scopes = scope :: outer)
    (now : Instant) (name : String) (granted : GrantedShare) (totalWork : UInt32) :
    (monitor.openNested scope outer now name granted totalWork.toNat).monitor.Balanced := by
  have overrun : monitor.overrunWork ≤ maxUnits := toNat_le_maxUnits monitor.config.overrunWork
  have parent := balanced.scope_sound stack
  have extended := Scope.extendView_sound parent overrun
  have slice := extended.carve granted.share
  rw [openNested_monitor]
  refine ⟨?_, balanced.ticks, ?_⟩
  · simp only [List.forall_mem_cons]
    exact ⟨slice.rescale (toNat_le_maxUnits totalWork), extended.advance granted.share,
      balanced.outer_sound stack⟩
  · have carved := Scope.carved_slack parent overrun granted
    have balance := balanced.balance_of_open stack
    simp only [slack_cons, Scope.ofView_slack slice]
    linarith

theorem step (balanced : monitor.Balanced) (stack : monitor.scopes = scope :: outer)
    (name detail : String) (share : UInt32) :
    (monitor.step name detail share).monitor.Balanced := by
  have overrun : monitor.overrunWork ≤ maxUnits := toNat_le_maxUnits monitor.config.overrunWork
  have current := balanced.scope_sound stack
  have nonneg := current.advance_nonneg scope.pending
  have fits := balanced.fits stack (current.advance_le_slack scope.pending)
  rw [step_of_open stack]
  refine ⟨?_, balanced.ticks.report nonneg fits, ?_⟩
  · simp only [List.forall_mem_cons]
    exact ⟨Scope.stepped_sound current overrun share.toNat, balanced.outer_sound stack⟩
  · have moved := Scope.stepped_slack current monitor.overrunWork share.toNat
    have balance := balanced.balance_of_open stack
    simp only [slack_cons, Ticks.report_total,
      (balanced.ticks.report_spec nonneg fits).1]
    linarith

theorem reestimate (balanced : monitor.Balanced) (stack : monitor.scopes = scope :: outer)
    (name : String) (work : UInt32) :
    (monitor.reestimate name work).monitor.Balanced := by
  have current := balanced.scope_sound stack
  rw [reestimate_of_open stack]
  refine ⟨?_, balanced.ticks, ?_⟩
  · simp only [List.forall_mem_cons]
    exact ⟨current.rescale (toNat_le_maxUnits work), balanced.outer_sound stack⟩
  · have balance := balanced.balance_of_open stack
    simp only [slack_cons, current.slack_rescale]
    linarith

theorem report_finish (balanced : monitor.Balanced) (stack : monitor.scopes = scope :: outer) :
    (monitor.ticks.report scope.view.finish.2).1.Sound ∧
      (monitor.ticks.report scope.view.finish.2).1.collected + slack outer =
        monitor.ticks.total := by
  have current := balanced.scope_sound stack
  have filled : scope.view.finish.2 = scope.view.slack := current.rest_eq
  have fits := balanced.fits stack (le_refl scope.view.slack)
  have balance := balanced.balance_of_open stack
  rw [filled]
  refine ⟨balanced.ticks.report current.slack_nonneg fits, ?_⟩
  rw [(balanced.ticks.report_spec current.slack_nonneg fits).1]
  exact balance

theorem closeJob (balanced : monitor.Balanced) (stack : monitor.scopes = scope :: outer)
    (now : Instant) (name : String) (succeeded : Bool) :
    (monitor.closeJob now name succeeded).monitor.Balanced := by
  rcases balanced.report_finish stack with ⟨sound, balance⟩
  rw [closeJob_of_open stack]
  cases outer with
  | nil =>
      refine ⟨(fun scope member => nomatch member), sound.finish, ?_⟩
      exact (add_zero _).trans sound.finish_collected
  | cons parent outer =>
      refine ⟨settleParent_sound (balanced.outer_sound stack), sound, ?_⟩
      simp only [slack_settleParent, finishTask, Ticks.report_total]
      exact balance

end Balanced

theorem Move.balanced {monitor next : Monitor Rat} {sent : List Emission}
    (move : Move monitor sent next) (balanced : monitor.Balanced) : next.Balanced := by
  cases move with
  | openRoot now name totalWork _ => exact .openRoot now name totalWork
  | openNested now name granted totalWork stack _ =>
      exact balanced.openNested stack now name granted totalWork
  | step name detail share stack => exact balanced.step stack name detail share
  | reestimate name work stack => exact balanced.reestimate stack name work
  | closeJob now name succeeded stack => exact balanced.closeJob stack now name succeeded
  | checkCanceled now name answer => exact ⟨balanced.views, balanced.ticks, balanced.balance⟩
  | logged event => exact balanced

theorem Reachable.balanced {monitor : Monitor Rat} (reachable : monitor.Reachable) :
    monitor.Balanced :=
  reachable.induct Balanced.ofConfig Move.balanced

/-! ## The guards never act

The code takes the positive part of some amounts, and sends no more units than
remain. In exact arithmetic none of this ever changes anything. -/

/-- Views that come up in calls to a monitor as it stands: the slices of its
open jobs, the slice of a whole task, and what using one of these leads to. -/
inductive InUse (monitor : Monitor Rat) : View Rat → Prop
  | ofScope {scope : Scope Rat} : scope ∈ monitor.scopes → InUse monitor scope.view
  | root (total : UInt32) : InUse monitor (.root total.toNat)
  | advance {view} (units : Nat) : InUse monitor view → InUse monitor (view.advance units).1
  | carve {view} (share : Nat) : InUse monitor view → InUse monitor (view.carve share).2
  | rescale {view} (units : UInt32) :
      InUse monitor view → InUse monitor (view.rescale units.toNat)
  | finish {view} : InUse monitor view → InUse monitor view.finish.1

end Monitor

/-- What a view hands out and keeps is as if no guard were there. -/
structure View.Unguarded (view : View Rat) : Prop where
  advance : ∀ units, (view.advance units).2 = (view.advance units).1.consumed - view.consumed
  rescale : ∀ units, (view.rescale units).capacity = view.capacity - view.consumed
  finish : view.finish.2 = view.capacity - view.consumed

theorem View.Sound.unguarded {view : View Rat} (sound : view.Sound) : view.Unguarded where
  advance := fun units => (advance_consumed sound units).2.2.2
  rescale := fun _ => sound.rest_eq
  finish := sound.rest_eq

structure Ticks.TakesWhole (ticks : Ticks Rat) (amount : Rat) : Prop where
  remaining : Amount.toUnits (Amount.floor (ticks.carry + amount)) ≤ ticks.remaining
  collected : (ticks.report amount).1.collected = ticks.collected + amount

theorem Ticks.Sound.takesWhole {ticks : Ticks Rat} (sound : ticks.Sound) {amount : Rat}
    (nonneg : 0 ≤ amount) (fits : ticks.collected + amount ≤ ticks.total) :
    ticks.TakesWhole amount where
  remaining := sound.units_le_remaining nonneg fits
  collected := (sound.report_spec nonneg fits).1

namespace Monitor

theorem InUse.sound {monitor : Monitor Rat} (balanced : monitor.Balanced) {view : View Rat}
    (used : monitor.InUse view) : view.Sound := by
  induction used with
  | ofScope member => exact balanced.views _ member
  | root total => exact View.root_sound (toNat_le_maxUnits total)
  | advance units _ sound => exact sound.advance units
  | carve share _ sound => exact sound.carve share
  | rescale units _ sound => exact sound.rescale (toNat_le_maxUnits units)
  | finish _ sound => exact sound.finish

/-- The units sent, the fraction carried and what the open jobs may still hand
out make up the task, and none of them is negative. So no guard acts on any view
in use, no report is cut off, and when the outermost job is closed there is
nothing left to finish. -/
theorem units_conserved {monitor : Monitor Rat} (reachable : monitor.Reachable) :
    ((monitor.ticks.total : Rat) =
        monitor.ticks.reported + monitor.ticks.carry +
          (monitor.scopes.map fun scope => scope.view.capacity - scope.view.consumed).sum ∧
      (∀ scope ∈ monitor.scopes, 0 ≤ scope.view.capacity - scope.view.consumed) ∧
      0 ≤ monitor.ticks.carry ∧ monitor.ticks.carry < 1) ∧
    (∀ view, monitor.InUse view → view.Unguarded) ∧
    (∀ scope outer, monitor.scopes = scope :: outer →
      (∀ units, monitor.ticks.TakesWhole (scope.view.advance units).2) ∧
      monitor.ticks.TakesWhole scope.view.finish.2) ∧
    (∀ scope, monitor.scopes = [scope] →
      (monitor.ticks.report scope.view.finish.2).1.finish.2 = []) := by
  have balanced := reachable.balanced
  refine ⟨⟨?_, ?_, ?_, ?_⟩, ?_, ?_, ?_⟩
  · exact balanced.balance.symm
  · exact fun scope member => (balanced.views scope member).slack_nonneg
  · exact balanced.ticks.carry_nonneg
  · exact balanced.ticks.carry_lt_one
  · exact fun view used => (used.sound balanced).unguarded
  · intro scope outer stack
    have current := balanced.scope_sound stack
    have rest : scope.view.finish.2 = scope.view.slack := current.rest_eq
    refine ⟨fun units => ?_, ?_⟩
    · exact balanced.ticks.takesWhole (current.advance_nonneg units)
        (balanced.fits stack (current.advance_le_slack units))
    · rw [rest]
      exact balanced.ticks.takesWhole current.slack_nonneg (balanced.fits stack (le_refl _))
  · intro scope stack
    rcases balanced.report_finish stack with ⟨sound, whole⟩
    have nothing := sound.remaining_eq_zero (by simpa using whole)
    rw [Ticks.finish, nothing]
    rfl

/-- A nested job that was estimated anew has half of its slice left, and half a
unit is carried. -/
theorem units_conserved_of_nested_job :
    let reading : Reading := ⟨.frozen .zero .zero, false⟩
    let opened :=
      ((ofConfig .default : Monitor Rat).perform reading (.openJob "build" 1 10)).monitor
    let nested := (opened.perform reading (.openJob "compile" 3 7)).monitor
    let estimated := (nested.perform reading (.reestimate "compile" 4)).monitor
    let stepped := (estimated.perform reading (.step "parse" "" 2)).monitor
    let working := (stepped.perform reading (.step "check" "" 2)).monitor
    working.Reachable ∧ working.ticks.carry = 1 / 2 ∧
      (working.scopes.map fun scope => scope.view.capacity - scope.view.consumed) = [3 / 2, 7] ∧
      (working.ticks.total : Rat) = working.ticks.reported + 1 / 2 + (3 / 2 + 7) := by
  intro reading opened nested estimated stepped working
  have reachable : working.Reachable :=
    .perform _ _ (.perform _ _ (.perform _ _ (.perform _ _ (.perform _ _ (.ofConfig .default)))))
  have carried : working.ticks.carry = 1 / 2 := by decide +kernel +zetaReduce
  have slacks :
      (working.scopes.map fun scope => scope.view.capacity - scope.view.consumed) = [3 / 2, 7] := by
    decide +kernel +zetaReduce
  have conserved := (units_conserved reachable).1.1
  rw [carried, slacks] at conserved
  exact ⟨reachable, carried, slacks, by simpa using conserved⟩

end Monitor

end JobProgress
