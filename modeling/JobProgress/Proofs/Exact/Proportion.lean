import JobProgress.Proofs.Budget
import JobProgress.Proofs.DoneCount
import JobProgress.Proofs.Exact.Conservation

/-! In exact arithmetic a task fills up in proportion to the work of its jobs. A
job is worth its share of the job around it, and inside it each step and each
nested job is worth its share of the job's own total work. So as long as no open
job outruns its total work, the units reported tell how far the open jobs are. -/

namespace JobProgress

namespace DirectCall

def flushedShares : List DirectCall → Nat
  | [] => 0
  | .step share :: .step next :: later => share + flushedShares (.step next :: later)
  | _ :: later => flushedShares later

def nestedShares : List DirectCall → Nat
  | [] => 0
  | .step _ :: later => nestedShares later
  | .nested share :: later => share + nestedShares later

theorem doneUnits_eq (calls : List DirectCall) :
    doneUnits calls = flushedShares calls + nestedShares calls + announced calls := by
  induction calls with
  | nil => rfl
  | cons call later induction =>
      rcases later with _ | ⟨next | next, later⟩
      · cases call <;> simp [doneUnits, opensJob, flushedShares, nestedShares, announced]
      · cases call <;>
          simp [doneUnits, opensJob, flushedShares, nestedShares, announced] at induction ⊢ <;>
          omega
      · cases call <;>
          simp [doneUnits, opensJob, flushedShares, nestedShares, announced] at induction ⊢ <;>
          omega

end DirectCall

open DirectCall

namespace JobHistory

def spent (job : JobHistory) : Nat := flushedShares job.direct + nestedShares job.direct

@[simp] theorem spent_opened (share totalWork : Nat) : (opened share totalWork).spent = 0 := rfl

theorem spent_step (job : JobHistory) (share : Nat) :
    (job.add (.step share)).spent = job.spent + announced job.direct := by
  have before := doneUnits_eq job.direct
  have after := doneUnits_eq (job.direct ++ [.step share])
  rw [doneUnits_step, announced_step] at after
  simp only [spent, add_direct]
  omega

theorem spent_nested (job : JobHistory) (share : Nat) :
    (job.add (.nested share)).spent = job.spent + share := by
  have before := doneUnits_eq job.direct
  have after := doneUnits_eq (job.direct ++ [.nested share])
  have trade := doneUnits_nested job.direct share
  rw [announced_nested] at after
  simp only [spent, add_direct]
  omega

/-- Share of the job open right inside, if there is one. The jobs open inside
are listed the outermost first. -/
def openShare : List JobHistory → Nat
  | [] => 0
  | child :: _ => child.share

/-- How far an open job is, with the jobs that are open inside it. A job that is
closed is done. -/
def progress : List JobHistory → Rat
  | [] => 1
  | job :: inner =>
      if job.totalWork = 0 then
        0
      else
        (flushedShares job.direct + (nestedShares job.direct - openShare inner) +
          openShare inner * progress inner) / job.totalWork

/-- Amount of the task that a job is worth, by the jobs around it. -/
def slice (job : JobHistory) : List JobHistory → Rat
  | [] => job.totalWork
  | parent :: outer => parent.slice outer * job.share / parent.totalWork

@[simp] theorem slice_add (job : JobHistory) (call : DirectCall) (outer : List JobHistory) :
    (job.add call).slice outer = job.slice outer := by
  cases outer <;> rfl

def unspent (job : JobHistory) (outer : List JobHistory) : Rat :=
  if job.totalWork = 0 then job.slice outer
  else job.slice outer * (job.totalWork - job.spent) / job.totalWork

theorem unspent_add (job : JobHistory) (outer : List JobHistory) {call : DirectCall}
    {units : Nat} (spending : (job.add call).spent = job.spent + units) :
    (job.add call).unspent outer + job.slice outer * units / job.totalWork =
      job.unspent outer := by
  simp only [unspent, spending, add_totalWork, slice_add]
  split
  · next workless => simp [workless]
  · next working =>
      push_cast
      ring

end JobHistory

open JobHistory

/-- A view covers the slice of a job: its scale is the total work of the job, and
what is used of it is what the job spent. -/
structure View.Covers (view : View Rat) (job : JobHistory) (outer : List JobHistory) : Prop where
  scale_eq : view.scale = job.totalWork
  used_eq : view.used = job.spent
  capacity_eq : view.capacity = job.slice outer

theorem View.Covers.advance {view : View Rat} {job : JobHistory} {outer : List JobHistory}
    (covers : view.Covers job outer) (sound : view.Sound) {call : DirectCall} {units : Nat}
    (spending : (job.add call).spent = job.spent + units)
    (room : job.spent + units ≤ job.totalWork) :
    (view.advance units).1.Covers (job.add call) outer where
  scale_eq := by
    rw [View.advance_scale, covers.scale_eq, add_totalWork]
  used_eq := by
    rw [View.advance_used sound.used_le sound.scale_le, covers.scale_eq, covers.used_eq,
      spending, Nat.min_eq_left room]
  capacity_eq := by
    rw [View.advance_capacity, slice_add, covers.capacity_eq]

/-- The slice of a scope and the work it expects are those of its job: what was
not spent is slack, and as long as work remains the view covers the slice. -/
structure Scope.Tracks (scope : Scope Rat) (job : JobHistory) (inside : Option Nat)
    (outer : List JobHistory) : Prop extends scope.Counts job inside outer where
  sound : scope.view.Sound
  inside_le : inside.getD 0 ≤ job.spent
  workRemaining_eq : scope.workRemaining = job.totalWork - (job.spent - inside.getD 0)
  slack_eq : scope.view.slack = job.unspent outer
  covers : scope.workRemaining ≠ 0 → scope.view.Covers job outer

namespace Scope.Tracks

variable {scope : Scope Rat} {job : JobHistory} {outer : List JobHistory} {inside : Option Nat}

theorem ofView {view : View Rat} (sound : view.Sound) (name : String) (share : Nat)
    (totalWork : UInt32) (now : Instant)
    (given : view.slack = (JobHistory.opened share totalWork.toNat).slice outer) :
    (Scope.ofView name view totalWork.toNat now).Tracks (.opened share totalWork.toNat) none
      outer := by
  have capacity : (view.rescale totalWork.toNat).capacity = view.slack := sound.rest_eq
  refine ⟨.ofView .., sound.rescale (toNat_le_maxUnits totalWork), Nat.le_refl 0, rfl, ?_,
    fun _ => ⟨rfl, rfl, capacity.trans given⟩⟩
  rw [ofView_slack sound, given, unspent]
  split
  · rfl
  · next working =>
      have positive : (totalWork.toNat : Rat) ≠ 0 := Nat.cast_ne_zero.mpr working
      simp only [spent_opened, Nat.cast_zero, sub_zero]
      change _ = _ * (totalWork.toNat : Rat) / totalWork.toNat
      field_simp

theorem advance_amount (tracks : scope.Tracks job none outer) {units : Nat}
    (room : job.spent + units ≤ job.totalWork) :
    (scope.view.advance units).2 = job.slice outer * units / job.totalWork := by
  by_cases exhausted : scope.workRemaining = 0
  · have remaining := tracks.workRemaining_eq
    -- No work is left, so what there is room for is nothing.
    have nothing : units = 0 := by
      simp only [Option.getD_none] at remaining
      omega
    simp [nothing]
  · have covers := tracks.covers exhausted
    have scaled : scope.view.scale ≠ 0 := by
      have remaining := tracks.workRemaining_eq
      rw [covers.scale_eq]
      omega
    have fits : scope.view.used + units ≤ scope.view.scale := by
      rw [covers.used_eq, covers.scale_eq]
      exact room
    rw [tracks.sound.advance_amount scaled fits, covers.capacity_eq, covers.scale_eq]

theorem granted_eq (tracks : scope.Tracks job none outer) (overrunWork : Nat) {share : UInt32}
    (room : job.spent + share.toNat ≤ job.totalWork) :
    min share.toNat (scope.shareLimit overrunWork) = share.toNat := by
  have remaining := tracks.workRemaining_eq
  have below : share.toNat ≤ maxWork := Nat.le_of_lt_succ share.toNat_lt
  simp only [Option.getD_none] at remaining
  simp only [shareLimit]
  split
  · next exhausted =>
      simp only [isExhausted, beq_iff_eq] at exhausted
      omega
  · next working =>
      simp only [isExhausted, beq_iff_eq] at working
      have covers := tracks.covers working
      simp only [View.available, covers.scale_eq, covers.used_eq]
      omega

theorem extended_amount (tracks : scope.Tracks job none outer) (overrunWork : Nat)
    {units : Nat} (room : job.spent + units ≤ job.totalWork) :
    ((scope.extendView overrunWork).view.advance units).2 =
      job.slice outer * units / job.totalWork := by
  have remaining := tracks.workRemaining_eq
  simp only [Option.getD_none] at remaining
  simp only [extendView]
  split
  · next exhausted =>
      simp only [isExhausted, beq_iff_eq] at exhausted
      have nothing : units = 0 := by omega
      simp [nothing]
  · exact tracks.advance_amount room

theorem step (tracks : scope.Tracks job none outer) {overrunWork : Nat}
    (fits : overrunWork ≤ maxUnits) (share : Nat)
    (within : (job.add (.step share)).spent ≤ job.totalWork) :
    (scope.stepped overrunWork share).Tracks (job.add (.step share)) none outer := by
  have spending := job.spent_step share
  have pending : scope.pending = announced job.direct := tracks.pending_eq
  have remaining := tracks.workRemaining_eq
  simp only [Option.getD_none] at remaining
  have room : job.spent + scope.pending ≤ job.totalWork := by omega
  refine ⟨tracks.toCounts.step overrunWork share, stepped_sound tracks.sound fits share,
    Nat.zero_le _, ?_, ?_, ?_⟩
  · simp only [stepped, Option.getD_none, JobHistory.add_totalWork]
    omega
  · have moved := stepped_slack tracks.sound overrunWork share
    have unspent := unspent_add job outer spending
    rw [tracks.advance_amount room, pending, tracks.slack_eq, ← unspent] at moved
    exact add_right_cancel moved
  · intro more
    have left : scope.workRemaining ≠ 0 := by
      simp only [stepped] at more
      omega
    have view : (scope.stepped overrunWork share).view = (scope.view.advance scope.pending).1 :=
      if_neg (by simpa [isExhausted] using left)
    rw [view]
    exact (tracks.covers left).advance tracks.sound (pending ▸ spending) room

theorem nested (tracks : scope.Tracks job none outer) {overrunWork : Nat}
    (fits : overrunWork ≤ maxUnits) {share : Nat} {granted : GrantedShare}
    (requested : granted.requested = share) (whole : granted.share = share)
    (within : (job.add (.nested share)).spent ≤ job.totalWork) :
    (scope.carved overrunWork granted).Tracks (job.add (.nested share)) (some share) outer := by
  have spending := job.spent_nested share
  have remaining := tracks.workRemaining_eq
  simp only [Option.getD_none] at remaining
  have room : job.spent + share ≤ job.totalWork := by omega
  refine ⟨tracks.toCounts.nested overrunWork requested,
    (extendView_sound tracks.sound fits).advance granted.share, ?_, ?_, ?_, ?_⟩
  · simp only [Option.getD_some]
    omega
  · simp only [carved, Option.getD_some, JobHistory.add_totalWork]
    omega
  · have moved := carved_slack tracks.sound fits granted
    have unspent := unspent_add job outer spending
    rw [View.slack_carve, whole, tracks.extended_amount overrunWork room, tracks.slack_eq,
      ← unspent] at moved
    exact add_right_cancel moved
  · intro left
    have notExhausted : ¬scope.isExhausted = true := by simpa [isExhausted, carved] using left
    have view : (scope.carved overrunWork granted).view = (scope.view.advance share).1 := by
      simp only [carved, whole, extendView, if_neg notExhausted]
      rfl
    rw [view]
    exact (tracks.covers left).advance tracks.sound spending room

theorem settle {share : Nat} (tracks : scope.Tracks job (some share) outer) :
    scope.settle.Tracks job none outer := by
  have pending : scope.pending = share := tracks.pending_eq
  have remaining := tracks.workRemaining_eq
  have spent := tracks.inside_le
  simp only [Option.getD_some] at remaining spent
  have working : scope.settle.workRemaining ≠ 0 → scope.workRemaining ≠ 0 := by
    simp only [Scope.settle, account, takePending]
    omega
  refine ⟨tracks.toCounts.settle, tracks.sound, Nat.zero_le _, ?_, tracks.slack_eq,
    fun left => tracks.covers (working left)⟩
  simp only [Scope.settle, account, takePending, Option.getD_none]
  omega

end Scope.Tracks

def Scope.TracksWithin (scope : Scope Rat) (job : JobHistory) (inside : Option Nat)
    (outer : List JobHistory) : Prop :=
  (∀ other ∈ job :: outer, other.spent ≤ other.totalWork) → scope.Tracks job inside outer

/-- A job that spends more afterwards had not outrun its work before. -/
theorem within_of_add {job : JobHistory} {call : DirectCall} {outer : List JobHistory}
    {units : Nat} (spending : (job.add call).spent = job.spent + units)
    (within : ∀ other ∈ job.add call :: outer, other.spent ≤ other.totalWork) :
    ∀ other ∈ job :: outer, other.spent ≤ other.totalWork := by
  rw [List.forall_mem_cons] at within ⊢
  exact ⟨le_trans (Nat.le.intro spending.symm) within.1, within.2⟩

theorem Scope.TracksWithin.kept (overrunWork : UInt32) {call : Call}
    (noEstimate : ∀ name work, call ≠ .reestimate name work) :
    Aligned.Kept TracksWithin overrunWork.toNat call where
  root := by
    intro now name share totalWork _ _
    exact .ofView (View.root_sound (toNat_le_maxUnits totalWork)) name share.toNat totalWork now
      (View.slack_root _)
  nested := by
    intro now name share totalWork scope job jobs granted _ requested limited tracks
    have spending := job.spent_nested share.toNat
    refine ⟨fun within => ?_, fun within => ?_⟩
    · have around := (List.forall_mem_cons.mp within).2
      have tracking := tracks (within_of_add spending around)
      have room : job.spent + share.toNat ≤ job.totalWork :=
        spending ▸ (List.forall_mem_cons.mp around).1
      have slice := (Scope.extendView_sound tracking.sound (toNat_le_maxUnits overrunWork)).carve
        granted.share
      refine .ofView slice name share.toNat totalWork now ?_
      rw [limited, tracking.granted_eq _ room, View.slack_carve,
        tracking.extended_amount _ room, JobHistory.slice, slice_add]
      rfl
    · have tracking := tracks (within_of_add spending within)
      have used := (List.forall_mem_cons.mp within).1
      have room : job.spent + share.toNat ≤ job.totalWork := spending ▸ used
      exact tracking.nested (toNat_le_maxUnits overrunWork) requested
        (limited.trans (tracking.granted_eq _ room)) used
  step := by
    intro name detail share scope job jobs _ tracks within
    have tracking := tracks (within_of_add (job.spent_step share.toNat) within)
    exact tracking.step (toNat_le_maxUnits overrunWork) share.toNat
      (List.forall_mem_cons.mp within).1
  reestimate := fun estimating => absurd estimating (noEstimate _ _)
  settle := fun tracks within => (tracks within).settle

/-! ## Adding up -/

theorem unspent_add_inside (job : JobHistory) (outer inner : List JobHistory) :
    job.slice outer * openShare inner / job.totalWork * (1 - progress inner) +
        job.unspent outer =
      job.slice outer * (1 - progress (job :: inner)) := by
  simp only [unspent, progress]
  split
  · next workless => simp [workless]
  · next working =>
      have positive : (job.totalWork : Rat) ≠ 0 := Nat.cast_ne_zero.mpr working
      simp only [spent]
      push_cast
      field_simp
      ring

theorem slack_add_inside {task : Nat} {scopes : List (Scope Rat)} {job : JobHistory}
    {outer : List JobHistory} (inner : List JobHistory) {innerSlack : Rat}
    (aligned : Aligned Scope.Tracks (inner.head?.map JobHistory.share) scopes (job :: outer))
    (outermost : OutermostWork task (job :: outer))
    (inside : innerSlack =
      job.slice outer * openShare inner / job.totalWork * (1 - progress inner)) :
    innerSlack + Monitor.slack scopes =
      task * (1 - progress ((job :: outer).reverse ++ inner)) := by
  -- Outwards: each job joins those inside it, and its slack theirs.
  induction outer generalizing scopes job inner innerSlack with
  | nil =>
      rcases scopes with _ | ⟨scope, _ | ⟨_, _⟩⟩
      · exact aligned.elim
      · have whole := unspent_add_inside job [] inner
        rw [Monitor.slack_cons, aligned.1.slack_eq, inside, Monitor.slack_nil, add_zero, whole,
          slice, outermost job rfl]
        rfl
      · exact aligned.2.elim
  | cons parent outer induction =>
      rcases scopes with _ | ⟨scope, scopes⟩
      · exact aligned.elim
      · have left := unspent_add_inside job (parent :: outer) inner
        rw [← inside] at left
        have around : Aligned Scope.Tracks ((job :: inner).head?.map JobHistory.share) scopes
            (parent :: outer) := aligned.2
        have whole := induction (job :: inner) around outermost.tail left
        have reversed : (job :: parent :: outer).reverse ++ inner =
            (parent :: outer).reverse ++ job :: inner := by simp
        rw [Monitor.slack_cons, aligned.1.slack_eq, ← add_assoc, whole, reversed]

theorem slack_of_tracks {task : Nat} {scopes : List (Scope Rat)} {jobs : List JobHistory}
    (aligned : Aligned Scope.Tracks none scopes jobs) (outermost : OutermostWork task jobs) :
    Monitor.slack scopes = task * (1 - progress jobs.reverse) := by
  rcases jobs with _ | ⟨job, outer⟩
  · cases scopes with
    | nil => simp [progress]
    | cons scope scopes => exact aligned.elim
  · have whole := slack_add_inside [] aligned outermost
      (show (0 : Rat) = _ by simp [progress])
    rwa [zero_add, List.append_nil] at whole

theorem tracks_of_within {inside : Option Nat} {scopes : List (Scope Rat)}
    {jobs : List JobHistory} (aligned : Aligned Scope.TracksWithin inside scopes jobs)
    (within : ∀ job ∈ jobs, job.spent ≤ job.totalWork) :
    Aligned Scope.Tracks inside scopes jobs := by
  induction jobs generalizing inside scopes with
  | nil =>
      cases scopes with
      | nil => trivial
      | cons scope scopes => exact aligned.elim
  | cons job outer induction =>
      cases scopes with
      | nil => exact aligned.elim
      | cons scope scopes =>
          exact ⟨aligned.1 within,
            induction aligned.2 (List.forall_mem_cons.mp within).2⟩

namespace Run

theorem shown_eq {α : Type} [Amount α] (config : Config) (requests : List Request) :
    let run : Run α := .ofRequests config requests
    ShownTask.blank.afterAll run.sent = run.monitor.shownTask := by
  have transitions : ShownTask.blank.Transitions (ofRequests config requests : Run α).sent
      (ofRequests config requests : Run α).monitor.shownTask :=
    ofRequests_induct (motive := fun run : Run α =>
        ShownTask.blank.Transitions run.sent run.monitor.shownTask)
      (.nil _)
      (fun {run request} _ sent =>
        sent.append ((run.monitor.perform_trace request.reading request.call).transitions
          (sent.sound ShownTask.blank_sound)))
  exact transitions.afterAll_eq

/-- The units reported of a task are the whole part of the progress of its jobs,
whatever order the jobs were worked on in, as long as none was estimated anew and
those still open spent no more than their total work. A job that is closed has
filled its slice, even if it outran its work. -/
theorem worked_eq_floor (config : Config) (requests : List Request)
    (noEstimate : ∀ request ∈ requests, ∀ name work, request.call ≠ .reestimate name work)
    (within : ∀ job ∈ (ofRequests config requests : Run Rat).history.jobs,
      job.spent ≤ job.totalWork) :
    let run : Run Rat := .ofRequests config requests
    (ShownTask.blank.afterAll run.sent).worked =
      ⌊run.history.task * progress run.history.jobs.reverse⌋₊ := by
  intro run
  have balanced := (reachable config requests).balanced
  have recorded := recorded (α := Rat) config requests
  have aligned : Aligned Scope.TracksWithin none run.monitor.scopes run.history.jobs :=
    .ofRequests fun overrunWork request member =>
      Scope.TracksWithin.kept overrunWork (noEstimate request member)
  have slack := slack_of_tracks (tracks_of_within aligned within) recorded.outermost
  have collected : run.monitor.ticks.collected =
      run.history.task * progress run.history.jobs.reverse := by
    have balance := balanced.balance
    rw [recorded.total, slack] at balance
    linarith
  have worked : (ShownTask.blank.afterAll run.sent).worked = run.monitor.ticks.reported := by
    rw [shown_eq config requests]
    rfl
  rw [worked, balanced.ticks.reported_eq_floor, collected]

/-- Two tenths of a task were done in a step, and five sevenths of three tenths
in a nested job, that took the place of a step of one tenth. -/
theorem worked_eq_floor_of_nested_job :
    let reading : Reading := ⟨.frozen .zero .zero, false⟩
    let requests : List Request :=
      [⟨reading, .openJob "build" 1 10⟩, ⟨reading, .step "fetch" "" 2⟩,
        ⟨reading, .step "unpack" "" 1⟩, ⟨reading, .openJob "compile" 3 7⟩,
        ⟨reading, .step "parse" "" 5⟩, ⟨reading, .step "check" "" 2⟩]
    let run : Run Rat := .ofRequests .default requests
    (∀ request ∈ requests, ∀ name work, request.call ≠ .reestimate name work) ∧
      (∀ job ∈ run.history.jobs, job.spent ≤ job.totalWork) ∧
      run.history.task * progress run.history.jobs.reverse = 2 + 3 * (5 / 7) ∧
      (ShownTask.blank.afterAll run.sent).worked = ⌊(2 + 3 * (5 / 7) : Rat)⌋₊ := by
  intro reading requests run
  have noEstimate : ∀ request ∈ requests, ∀ name work, request.call ≠ .reestimate name work := by
    simp [requests]
  have within : ∀ job ∈ run.history.jobs, job.spent ≤ job.totalWork := by
    decide +kernel +zetaReduce
  have done : run.history.task * progress run.history.jobs.reverse = 2 + 3 * (5 / 7) := by
    decide +kernel +zetaReduce
  have worked := worked_eq_floor .default requests noEstimate within
  exact ⟨noEstimate, within, done, done ▸ worked⟩

end Run

end JobProgress
