import JobProgress.Monitor.Call

/-! What a call does to a monitor, spelled out once for each call. Opening a job
has four outcomes; the other calls have one where a job is open. -/

namespace JobProgress

namespace Outcome

variable {α ρ τ : Type}

@[simp] theorem map_result (convert : ρ → τ) (outcome : Outcome α ρ) :
    (outcome.map convert).result = outcome.result.map convert := rfl

@[simp] theorem map_monitor (convert : ρ → τ) (outcome : Outcome α ρ) :
    (outcome.map convert).monitor = outcome.monitor := rfl

@[simp] theorem map_emitted (convert : ρ → τ) (outcome : Outcome α ρ) :
    (outcome.map convert).emitted = outcome.emitted := rfl

@[simp] theorem after_result (emitted : List Emission) (outcome : Outcome α ρ) :
    (outcome.after emitted).result = outcome.result := rfl

@[simp] theorem after_monitor (emitted : List Emission) (outcome : Outcome α ρ) :
    (outcome.after emitted).monitor = outcome.monitor := rfl

@[simp] theorem after_emitted (emitted : List Emission) (outcome : Outcome α ρ) :
    (outcome.after emitted).emitted = emitted ++ outcome.emitted := rfl

end Outcome

@[simp] theorem Ticks.report_total {α : Type} [Amount α] (ticks : Ticks α) (amount : α) :
    (ticks.report amount).1.total = ticks.total := by
  simp only [report]
  split
  · rfl
  · split <;> rfl

def Scope.stepped {α : Type} [Amount α] (scope : Scope α) (overrunWork next : Nat) :
    Scope α where
  name := scope.name
  view :=
    if scope.isExhausted then
      (scope.view.advance scope.pending).1.rescale overrunWork
    else
      (scope.view.advance scope.pending).1
  totalWork := scope.totalWork
  workRemaining := scope.workRemaining - scope.pending
  workDone := Units.saturatingAdd scope.workDone scope.pending
  pending := next
  startedAt := scope.startedAt

def Scope.carved {α : Type} [Amount α] (scope : Scope α) (overrunWork : Nat)
    (granted : GrantedShare) : Scope α :=
  { scope with
    view := ((scope.extendView overrunWork).view.carve granted.share).1
    pending := granted.requested }

namespace Monitor

variable {α : Type} [Amount α] {monitor : Monitor α} {scope : Scope α}
  {outer : List (Scope α)}

/-! ## What calls do -/

theorem openJob_of_idle (idle : monitor.scopes = []) (now : Instant) (name : String)
    (share totalWork : UInt32) :
    monitor.openJob now name share totalWork = monitor.openRoot now name totalWork.toNat := by
  simp [openJob, idle]

theorem openJob_of_fits (stack : monitor.scopes = scope :: outer) {share : UInt32}
    (fits : share.toNat ≤ scope.shareLimit monitor.overrunWork) (now : Instant) (name : String)
    (totalWork : UInt32) :
    monitor.openJob now name share totalWork =
      monitor.openNested scope outer now name ⟨share.toNat, share.toNat⟩ totalWork.toNat := by
  simp [openJob, stack, fits]

theorem openJob_of_clamp (stack : monitor.scopes = scope :: outer) {share : UInt32}
    (excess : scope.shareLimit monitor.overrunWork < share.toNat)
    (policy : monitor.config.sharePolicy = .clamp) (now : Instant) (name : String)
    (totalWork : UInt32) :
    monitor.openJob now name share totalWork =
      (monitor.openNested scope outer now name
        ⟨scope.shareLimit monitor.overrunWork, share.toNat⟩ totalWork.toNat).after
        (Emission.ofJobEvent (.shareClamped name scope.name share.toNat
          (scope.shareLimit monitor.overrunWork))) := by
  simp [openJob, stack, Nat.not_le_of_lt excess, policy]

theorem openJob_of_reject (stack : monitor.scopes = scope :: outer) {share : UInt32}
    (excess : scope.shareLimit monitor.overrunWork < share.toNat)
    (policy : monitor.config.sharePolicy = .reject) (now : Instant) (name : String)
    (totalWork : UInt32) :
    monitor.openJob now name share totalWork =
      monitor.refuse (.shareExceedsRemaining name share.toNat
        (scope.shareLimit monitor.overrunWork)) := by
  simp [openJob, stack, Nat.not_le_of_lt excess, policy]

/-- All that can come of opening a job. -/
theorem openJob_cases (monitor : Monitor α) (now : Instant) (name : String)
    (share totalWork : UInt32) :
    (monitor.scopes = [] ∧
      monitor.openJob now name share totalWork =
        monitor.openRoot now name totalWork.toNat) ∨
    (∃ parent outer, monitor.scopes = parent :: outer ∧
      share.toNat ≤ parent.shareLimit monitor.overrunWork ∧
      monitor.openJob now name share totalWork =
        monitor.openNested parent outer now name ⟨share.toNat, share.toNat⟩
          totalWork.toNat) ∨
    (∃ parent outer, monitor.scopes = parent :: outer ∧
      parent.shareLimit monitor.overrunWork < share.toNat ∧
      monitor.config.sharePolicy = .clamp ∧
      monitor.openJob now name share totalWork =
        (monitor.openNested parent outer now name
          ⟨parent.shareLimit monitor.overrunWork, share.toNat⟩ totalWork.toNat).after
          (Emission.ofJobEvent (.shareClamped name parent.name share.toNat
            (parent.shareLimit monitor.overrunWork)))) ∨
    (∃ parent outer, monitor.scopes = parent :: outer ∧
      parent.shareLimit monitor.overrunWork < share.toNat ∧
      monitor.config.sharePolicy = .reject ∧
      monitor.openJob now name share totalWork =
        monitor.refuse (.shareExceedsRemaining name share.toNat
          (parent.shareLimit monitor.overrunWork))) := by
  cases stack : monitor.scopes with
  | nil =>
      left
      exact ⟨rfl, openJob_of_idle stack ..⟩
  | cons parent outer =>
      right
      by_cases fits : share.toNat ≤ parent.shareLimit monitor.overrunWork
      · left
        exact ⟨parent, outer, rfl, fits, openJob_of_fits stack fits ..⟩
      · right
        have excess := Nat.lt_of_not_le fits
        cases policy : monitor.config.sharePolicy with
        | clamp =>
            left
            exact ⟨parent, outer, rfl, excess, rfl, openJob_of_clamp stack excess policy ..⟩
        | reject =>
            right
            exact ⟨parent, outer, rfl, excess, rfl, openJob_of_reject stack excess policy ..⟩

theorem openNested_monitor (monitor : Monitor α) (parent : Scope α)
    (outer : List (Scope α)) (now : Instant) (name : String) (granted : GrantedShare)
    (totalWork : Nat) :
    (monitor.openNested parent outer now name granted totalWork).monitor =
      { monitor with
        scopes :=
          .ofView name ((parent.extendView monitor.overrunWork).view.carve granted.share).2
            totalWork now ::
          parent.carved monitor.overrunWork granted :: outer } := rfl

theorem step_of_idle (idle : monitor.scopes = []) (name detail : String) (share : UInt32) :
    monitor.step name detail share = monitor.refuse (.noOpenJob "job_step") := by
  simp [step, idle]

theorem reestimate_of_idle (idle : monitor.scopes = []) (name : String) (work : UInt32) :
    monitor.reestimate name work = monitor.refuse (.noOpenJob "job_todo") := by
  simp [reestimate, idle]

theorem closeJob_of_idle (idle : monitor.scopes = []) (now : Instant) (name : String)
    (succeeded : Bool) :
    monitor.closeJob now name succeeded =
      (monitor.refuse .unbalancedEnd).after (Emission.ofJobEvent (.unbalancedEnd name)) := by
  simp [closeJob, idle]

theorem step_of_open (stack : monitor.scopes = scope :: outer) (name detail : String)
    (share : UInt32) :
    monitor.step name detail share =
      let reported := monitor.ticks.report (scope.view.advance scope.pending).2
      let after := { monitor with
        scopes := scope.stepped monitor.overrunWork share.toNat :: outer
        ticks := reported.1 }
      ⟨.ok (), after,
        Emission.ofCalls (reported.2 ++ after.resync scope.isExhausted ++ [.subTask name]) ++
        Emission.ofJobEvent (.stepped scope.name name detail scope.pending share.toNat)⟩ := by
  cases exhausted : scope.isExhausted <;>
    simp_all [step, Scope.stepped, Scope.takePending, Scope.account, Scope.extendView,
      Scope.isExhausted, resync]

theorem reestimate_of_open (stack : monitor.scopes = scope :: outer) (name : String)
    (work : UInt32) :
    monitor.reestimate name work =
      ⟨.ok (),
        { monitor with
          scopes :=
            { scope with view := scope.view.rescale work.toNat, workRemaining := work.toNat } ::
              outer },
        Emission.ofCalls (monitor.resync true) ++
        Emission.ofJobEvent (.rescaled scope.name name work.toNat)⟩ := by
  simp [reestimate, stack]

theorem closeJob_of_open (stack : monitor.scopes = scope :: outer) (now : Instant)
    (name : String) (succeeded : Bool) :
    monitor.closeJob now name succeeded =
      let reported := monitor.ticks.report scope.view.finish.2
      let finished := finishTask reported.1 outer
      ⟨.ok scope.settle.workDone,
        { monitor with scopes := settleParent outer, ticks := finished.1 },
        Emission.ofCalls (reported.2 ++ finished.2 ++ monitor.showTopName) ++
        Emission.ofJobEvent (.ended scope.name outer.length succeeded scope.settle.workDone
          scope.totalWork (now.since scope.startedAt))⟩ := by
  simp [closeJob, stack, Scope.settle, Scope.account, Scope.takePending]

/-! ## Closing all jobs -/

@[simp] theorem settleParent_length {α : Type} (scopes : List (Scope α)) :
    (settleParent scopes).length = scopes.length := by
  cases scopes <;> rfl

theorem closeInnermost_idle (monitor : Monitor α) (clock : Clock) (worked count : Nat)
    (all : monitor.depth = count) :
    (monitor.closeInnermost clock worked count).monitor.scopes = [] ∧
      ∃ units, (monitor.closeInnermost clock worked count).result = .ok units := by
  induction count generalizing monitor clock worked with
  | zero => exact ⟨List.length_eq_zero_iff.mp all, worked, rfl⟩
  | succ count induction =>
      rcases List.exists_cons_of_length_eq_add_one all with ⟨scope, outer, stack⟩
      have named : monitor.currentJob = some scope.name := by simp [currentJob, stack]
      have closing := closeJob_of_open stack clock.now scope.name false
      have fewer : (monitor.closeJob clock.now scope.name false).monitor.depth = count := by
        have depth : outer.length + 1 = count + 1 := by
          rw [← all, Monitor.depth, stack, List.length_cons]
        simp only [closing, Monitor.depth, settleParent_length]
        omega
      rw [closeInnermost, named]
      simp only [closing]
      rw [closing] at fewer
      exact induction _ _ _ fewer

theorem closeAll_idle (monitor : Monitor α) (clock : Clock) :
    (monitor.closeAll clock).monitor.scopes = [] ∧
      ∃ units, (monitor.closeAll clock).result = .ok units :=
  monitor.closeInnermost_idle clock 0 monitor.depth rfl

theorem finishTask_total (ticks : Ticks α) (outer : List (Scope α)) :
    (finishTask ticks outer).1.total = ticks.total := by
  cases outer <;> rfl

theorem closeJob_total (monitor : Monitor α) (now : Instant) (name : String)
    (succeeded : Bool) :
    (monitor.closeJob now name succeeded).monitor.ticks.total = monitor.ticks.total := by
  cases stack : monitor.scopes with
  | nil =>
      rw [closeJob_of_idle stack]
      rfl
  | cons scope outer =>
      rw [closeJob_of_open stack]
      simp only [finishTask_total, Ticks.report_total]

theorem closeInnermost_total (monitor : Monitor α) (clock : Clock) (worked count : Nat) :
    (monitor.closeInnermost clock worked count).monitor.ticks.total = monitor.ticks.total := by
  induction count generalizing monitor clock worked with
  | zero => rfl
  | succ count induction =>
      rw [closeInnermost]
      split
      · rfl
      · next name _ =>
          have closing := monitor.closeJob_total clock.now name false
          dsimp only
          split
          · exact closing
          · exact (induction _ _ _).trans closing

theorem closeAll_total (monitor : Monitor α) (clock : Clock) :
    (monitor.closeAll clock).monitor.ticks.total = monitor.ticks.total :=
  monitor.closeInnermost_total clock 0 monitor.depth

end Monitor

end JobProgress
