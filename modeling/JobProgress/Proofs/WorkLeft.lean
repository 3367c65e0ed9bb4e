import JobProgress.Proofs.Budget

/-! A job keeps two counts of the work it has left: its own counter, and the
scale units of its view that are not used up. The counter takes a share off when
the share is done, the view when it is handed out. So the counts of the innermost
job are equal, and those of a job around it differ by the share it has promised
to the job inside. -/

namespace JobProgress

namespace View

variable {α : Type} {view : View α}

/-- The scale of a view is one that a job can declare, and no more of it is used
than there is. -/
structure Scaled (view : View α) : Prop where
  used_le : view.used ≤ view.scale
  scale_le : view.scale ≤ maxWork

theorem Scaled.available_add_used (scaled : view.Scaled) :
    view.available + view.used = view.scale :=
  Nat.sub_add_cancel scaled.used_le

theorem Scaled.available_le (scaled : view.Scaled) : view.available ≤ maxWork :=
  Nat.le_trans (Nat.sub_le _ _) scaled.scale_le

variable [Amount α]

theorem Scaled.rescale (view : View α) {units : Nat} (fits : units ≤ maxWork) :
    (view.rescale units).Scaled :=
  ⟨Nat.zero_le units, fits⟩

theorem Scaled.used_advance (scaled : view.Scaled) (units : Nat) :
    (view.advance units).1.used = min (view.used + units) view.scale := by
  apply advance_used scaled.used_le
  have fits := scaled.scale_le
  simp only [maxWork, maxUnits] at fits ⊢
  omega

theorem Scaled.advance (scaled : view.Scaled) (units : Nat) : (view.advance units).1.Scaled := by
  constructor
  · rw [scaled.used_advance, advance_scale]
    exact Nat.min_le_right _ _
  · rw [advance_scale]
    exact scaled.scale_le

theorem Scaled.available_advance (scaled : view.Scaled) (units : Nat) :
    (view.advance units).1.available = view.available - units := by
  have within := scaled.used_le
  rw [available, available, scaled.used_advance, advance_scale]
  omega

end View

namespace Scope

variable {α : Type} {scope : Scope α}

/-- The two counts of work left differ by the share that is promised. Where the
counter has run out the view may have been spread anew. -/
structure Tallies (scope : Scope α) (promised : Nat) : Prop where
  scaled : scope.view.Scaled
  available_eq : scope.workRemaining ≠ 0 →
    scope.view.available = scope.workRemaining - promised

theorem isExhausted_eq_false (left : scope.workRemaining ≠ 0) : scope.isExhausted = false :=
  beq_false_of_ne left

/-- A share is cut off where nothing is available any more, and not at the
largest work a job can declare. -/
theorem shareLimit_eq (scaled : scope.view.Scaled) (overrunWork : Nat) :
    scope.shareLimit overrunWork =
      if scope.workRemaining = 0 then overrunWork else scope.view.available := by
  rw [shareLimit, Nat.min_eq_left scaled.available_le]
  simp [isExhausted]

theorem Tallies.shareLimit_eq_workRemaining (tallies : scope.Tallies 0) (overrunWork : Nat) :
    scope.shareLimit overrunWork =
      if scope.workRemaining = 0 then overrunWork else scope.workRemaining := by
  rw [shareLimit_eq tallies.scaled]
  split
  · rfl
  · next left => exact tallies.available_eq left

theorem Tallies.settle (tallies : scope.Tallies scope.pending) : scope.settle.Tallies 0 where
  scaled := tallies.scaled
  available_eq := by
    intro afterwards
    change scope.workRemaining - scope.pending ≠ 0 at afterwards
    exact tallies.available_eq (by omega)

variable [Amount α]

theorem extendView_scaled (scaled : scope.view.Scaled) {overrunWork : Nat}
    (fits : overrunWork ≤ maxWork) : (scope.extendView overrunWork).view.Scaled := by
  simp only [extendView]
  split
  · exact .rescale scope.view fits
  · exact scaled

theorem extendView_of_left (left : scope.workRemaining ≠ 0) (overrunWork : Nat) :
    scope.extendView overrunWork = scope := by
  simp [extendView, isExhausted_eq_false left]

namespace Tallies

theorem ofView (name : String) (view : View α) (totalWork : UInt32) (now : Instant) :
    (Scope.ofView name view totalWork.toNat now).Tallies 0 where
  scaled := .rescale view (toNat_le_maxWork totalWork)
  available_eq := fun _ => rfl

theorem step (tallies : scope.Tallies 0) {overrunWork : Nat} (fits : overrunWork ≤ maxWork)
    (next : Nat) : (scope.stepped overrunWork next).Tallies 0 := by
  constructor
  · simp only [Scope.stepped]
    split
    · exact .rescale _ fits
    · exact tallies.scaled.advance scope.pending
  · intro afterwards
    have left : scope.workRemaining ≠ 0 := by
      intro none
      simp [Scope.stepped, none] at afterwards
    have before := tallies.available_eq left
    have advanced := tallies.scaled.available_advance scope.pending
    simp only [Scope.stepped, isExhausted_eq_false left, Bool.false_eq_true, if_false]
    omega

theorem nested (tallies : scope.Tallies 0) {overrunWork : Nat} (fits : overrunWork ≤ maxWork)
    {granted : GrantedShare}
    (limited : granted.share = min granted.requested (scope.shareLimit overrunWork)) :
    (scope.carved overrunWork granted).Tallies granted.requested := by
  constructor
  · exact (extendView_scaled tallies.scaled fits).advance granted.share
  · intro left
    change scope.workRemaining ≠ 0 at left
    have limit := tallies.shareLimit_eq_workRemaining overrunWork
    have before := tallies.available_eq left
    have carved := tallies.scaled.available_advance granted.share
    rw [if_neg left] at limit
    simp only [Scope.carved, extendView_of_left left, View.carve]
    omega

theorem reestimate (scope : Scope α) (work : UInt32) :
    Scope.Tallies
      { scope with view := scope.view.rescale work.toNat, workRemaining := work.toNat } 0 where
  scaled := .rescale scope.view (toNat_le_maxWork work)
  available_eq := fun _ => rfl

end Tallies

end Scope

namespace Monitor

variable {α : Type} {monitor : Monitor α} {scopes outer : List (Scope α)} {scope : Scope α}

/-- The innermost job has promised nothing, and every other one its pending share
to the job inside. -/
def AllTally : List (Scope α) → Prop
  | [] => True
  | scope :: outer => scope.Tallies 0 ∧ ∀ around ∈ outer, around.Tallies around.pending

namespace AllTally

theorem of_cons (tally : AllTally scopes) (stack : scopes = scope :: outer) :
    scope.Tallies 0 ∧ ∀ around ∈ outer, around.Tallies around.pending := by
  subst stack
  exact tally

theorem of_append {inner : List (Scope α)} (tally : AllTally scopes)
    (stack : scopes = inner ++ scope :: outer) :
    scope.Tallies (if inner.isEmpty then 0 else scope.pending) := by
  subst stack
  cases inner with
  | nil => exact tally.1
  | cons first inner => exact tally.2 scope (by simp)

theorem settleParent (around : ∀ scope ∈ outer, scope.Tallies scope.pending) :
    AllTally (settleParent outer) := by
  cases outer with
  | nil => trivial
  | cons parent outer =>
      rcases List.forall_mem_cons.mp around with ⟨parentTallies, others⟩
      exact ⟨parentTallies.settle, others⟩

end AllTally

variable [Amount α]

theorem Move.allTally {next : Monitor α} {sent : List Emission} (move : Move monitor sent next)
    (tally : AllTally monitor.scopes) : AllTally next.scopes := by
  have fits : monitor.overrunWork ≤ maxWork := toNat_le_maxWork monitor.config.overrunWork
  cases move with
  | openRoot now name totalWork idle =>
      exact ⟨.ofView name _ totalWork now, fun around member => nomatch member⟩
  | openNested now name granted totalWork stack limited =>
      rcases tally.of_cons stack with ⟨parent, around⟩
      refine ⟨.ofView name _ totalWork now, ?_⟩
      exact List.forall_mem_cons.mpr ⟨parent.nested fits limited, around⟩
  | step name detail share stack =>
      rcases tally.of_cons stack with ⟨current, around⟩
      rw [step_of_open stack]
      exact ⟨current.step fits share.toNat, around⟩
  | reestimate name work stack =>
      rw [reestimate_of_open stack]
      exact ⟨.reestimate _ work, (tally.of_cons stack).2⟩
  | closeJob now name succeeded stack =>
      rw [closeJob_of_open stack]
      exact .settleParent (tally.of_cons stack).2
  | checkCanceled now name answer => exact tally
  | logged event => exact tally

theorem Reachable.allTally (reachable : monitor.Reachable) : AllTally monitor.scopes :=
  reachable.induct (motive := fun monitor => AllTally monitor.scopes)
    (fun _ => trivial) Move.allTally

/-- The counter of an open job and its view agree on the work left: of the
innermost job both say the same, and of a job around another the view lacks the
pending share. No view uses more than its scale, which is a work that can be
declared, and no more is reported than the task has, now and after one more
report. So what is available and what remains are exact differences, and a share
is limited by what is available alone. -/
theorem work_left_agrees (reachable : monitor.Reachable) :
    (∀ inner scope outer, monitor.scopes = inner ++ scope :: outer →
      scope.view.used ≤ scope.view.scale ∧ scope.view.scale ≤ maxWork ∧
      (scope.workRemaining ≠ 0 →
        scope.view.available =
          if inner.isEmpty then scope.workRemaining
          else scope.workRemaining - scope.pending) ∧
      scope.view.available + scope.view.used = scope.view.scale ∧
      ∀ overrunWork, scope.shareLimit overrunWork =
        if scope.workRemaining = 0 then overrunWork else scope.view.available) ∧
    monitor.ticks.reported ≤ monitor.ticks.total ∧
    monitor.ticks.remaining + monitor.ticks.reported = monitor.ticks.total ∧
    ∀ amount, (monitor.ticks.report amount).1.remaining +
      (monitor.ticks.report amount).1.reported = monitor.ticks.total := by
  have within : monitor.ticks.reported ≤ monitor.ticks.total := reachable.shownTask_sound.within
  refine ⟨?_, within, Nat.sub_add_cancel within, ?_⟩
  · intro inner scope outer stack
    have tallies := reachable.allTally.of_append stack
    refine ⟨tallies.scaled.used_le, tallies.scaled.scale_le, ?_,
      tallies.scaled.available_add_used, Scope.shareLimit_eq tallies.scaled⟩
    intro left
    rw [tallies.available_eq left]
    cases inner <;> rfl
  · intro amount
    have openSound : monitor.ticks.shown.Sound := ⟨within, fun closed => nomatch closed⟩
    have reported := ((Ticks.report_transitions amount within).sound openSound).within
    rw [← monitor.ticks.report_total amount]
    exact Nat.sub_add_cancel reported

/-- A nested job was granted all ten units left of the thirty it asked for, and
was estimated anew while it had work pending. -/
theorem work_left_agrees_of_overdrawn_job :
    let reading : Reading := ⟨.frozen .zero .zero, false⟩
    let opened :=
      ((ofConfig .default : Monitor Rat).perform reading (.openJob "build" 1 10)).monitor
    let nested := (opened.perform reading (.openJob "compile" 30 7)).monitor
    let stepped := (nested.perform reading (.step "parse" "" 2)).monitor
    let estimated := (stepped.perform reading (.reestimate "compile" 4)).monitor
    let working := (estimated.perform reading (.step "check" "" 5)).monitor
    ∃ inner outer, working.scopes = [inner, outer] ∧
      inner.workRemaining = 2 ∧ inner.pending = 5 ∧ inner.view.available = 2 ∧
      outer.workRemaining = 10 ∧ outer.pending = 30 ∧ outer.view.available = 0 := by
  intro reading opened nested stepped estimated working
  have reachable : working.Reachable :=
    .perform _ _ (.perform _ _ (.perform _ _ (.perform _ _ (.perform _ _ (.ofConfig .default)))))
  have agrees := (work_left_agrees reachable).1
  refine ⟨_, _, rfl, rfl, rfl, ?_, rfl, rfl, ?_⟩
  · exact (agrees [] _ _ rfl).2.2.1 (by decide +kernel)
  · exact (agrees [_] _ _ rfl).2.2.1 (by decide +kernel)

end Monitor

end JobProgress
