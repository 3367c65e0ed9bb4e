import JobProgress.Proofs.SinkProtocol
import Mathlib.Data.List.Forall2

/-! A task that is done leaves nothing behind but the top name. What happens next to
a monitor that has shown tasks before, and is idle again, would happen to a new one
as well: both keep in step, call by call, where the new one has jobs that were opened
at other instants and shows its own top name when it closes them. -/

namespace JobProgress

open SinkCall

namespace SinkCall

def showing (name : String) : SinkCall → SinkCall
  | .taskName _ => .taskName name
  | call => call

theorem Reports.shows_none {count : Nat} {calls : List SinkCall} (reports : Reports count calls)
    (name : String) : .taskName name ∉ calls := by
  rcases reports with ⟨units, _, rfl⟩
  intro member
  rcases List.mem_map.mp member with ⟨_, _, equal⟩
  cases equal

theorem exists_firstBegun {calls : List SinkCall} {name : String} {total : Nat}
    (begun : .beginTask name total ∈ calls) : ∃ first, firstBegun calls = some first := by
  apply Option.isSome_iff_exists.mp
  rw [firstBegun, List.findSome?_isSome_iff]
  exact ⟨_, begun, rfl⟩

/-- What is told in one call by a monitor whose top name is `earlier`, and by one whose top
name is `top`. The difference is in the names shown when jobs are closed. -/
inductive ToldAlike (earlier : String) (top : Option String) :
    Bool → List SinkCall → List SinkCall → Prop
  | same (calls) : ToldAlike earlier top false calls calls
  | closing {calls} :
      (∀ name, .taskName name ∈ calls → top = some name) →
      ToldAlike earlier top true (calls.map (showing earlier)) calls

namespace ToldAlike

variable {earlier : String} {top : Option String} {used fresh usedLater freshLater : List SinkCall}

theorem of_unshown {calls : List SinkCall} (unshown : ∀ name, .taskName name ∉ calls) :
    ToldAlike earlier top true calls calls := by
  have same : ∀ call ∈ calls, showing earlier call = id call := by
    intro call member
    cases call with
    | taskName name => exact absurd member (unshown name)
    | _ => rfl
  have unchanged : calls.map (showing earlier) = calls :=
    (List.map_congr_left same).trans calls.map_id
  have alike : ToldAlike earlier top true (calls.map (showing earlier)) calls :=
    .closing fun name member => absurd member (unshown name)
  rwa [unchanged] at alike

theorem nothing (closing : Bool) : ToldAlike earlier top closing [] [] := by
  cases closing with
  | false => exact .same []
  | true => exact .of_unshown fun _ => List.not_mem_nil

theorem append (first : ToldAlike earlier top true used fresh)
    (later : ToldAlike earlier top true usedLater freshLater) :
    ToldAlike earlier top true (used ++ usedLater) (fresh ++ freshLater) := by
  cases first with
  | closing firstShown =>
      cases later with
      | closing laterShown =>
          rw [← List.map_append]
          exact .closing fun name member =>
            (List.mem_append.mp member).elim (firstShown name) (laterShown name)

end ToldAlike

end SinkCall

namespace Scope

variable {α : Type}

def openedAt (scope : Scope α) (instant : Instant) : Scope α := { scope with startedAt := instant }

def EqUpToStart (used fresh : Scope α) : Prop := ∃ instant, used = fresh.openedAt instant

theorem extendView_openedAt [Amount α] (scope : Scope α) (instant : Instant)
    (overrunWork : Nat) :
    ((scope.openedAt instant).extendView overrunWork).view =
      (scope.extendView overrunWork).view := by
  cases exhausted : scope.isExhausted <;> simp_all [extendView, isExhausted, openedAt]

theorem carved_openedAt [Amount α] (scope : Scope α) (instant : Instant) (overrunWork : Nat)
    (granted : GrantedShare) :
    (scope.openedAt instant).carved overrunWork granted =
      (scope.carved overrunWork granted).openedAt instant := by
  rw [carved, extendView_openedAt]
  rfl

theorem EqUpToStart.settle {used fresh : Scope α} (alike : used.EqUpToStart fresh) :
    used.settle.EqUpToStart fresh.settle := by
  rcases alike with ⟨instant, rfl⟩
  exact ⟨instant, rfl⟩

end Scope

namespace Monitor

variable {α : Type} {earlier : String} {top : Option String}

theorem settleParent_alike {around outer : List (Scope α)}
    (alike : List.Forall₂ Scope.EqUpToStart around outer) :
    List.Forall₂ Scope.EqUpToStart (settleParent around) (settleParent outer) := by
  cases alike with
  | nil => exact .nil
  | cons parent rest => exact .cons parent.settle rest

theorem finishTask_eq_of_alike [Amount α] {around outer : List (Scope α)}
    (alike : List.Forall₂ Scope.EqUpToStart around outer) (ticks : Ticks α) :
    finishTask ticks around = finishTask ticks outer := by
  cases alike <;> rfl

theorem finishTask_shows_none [Amount α] (ticks : Ticks α) (outer : List (Scope α))
    (name : String) : .taskName name ∉ (finishTask ticks outer).2 := by
  cases outer with
  | nil => simp [finishTask, ticks.finish_reports.shows_none name]
  | cons parent outer => exact List.not_mem_nil

/-- Two monitors with the same settings and the same jobs, and with the same task as long
as a job is open. Their top names are `earlier` and `top`. -/
structure InStep (earlier : String) (top : Option String) (used fresh : Monitor α) : Prop where
  config_eq : used.config = fresh.config
  scopes : List.Forall₂ Scope.EqUpToStart used.scopes fresh.scopes
  ticks_eq : 0 < fresh.depth → used.ticks = fresh.ticks
  used_topName : used.topName = some earlier
  fresh_topName : fresh.topName = top
  named : 0 < fresh.depth → ∃ name, top = some name

namespace InStep

variable {used fresh : Monitor α} {scope : Scope α} {outer : List (Scope α)}

theorem depth_eq (inStep : InStep earlier top used fresh) : used.depth = fresh.depth :=
  inStep.scopes.length_eq

theorem overrunWork_eq (inStep : InStep earlier top used fresh) :
    used.overrunWork = fresh.overrunWork := by
  rw [overrunWork, overrunWork, inStep.config_eq]

theorem shareLimit_eq [Amount α] (inStep : InStep earlier top used fresh) (scope : Scope α)
    (instant : Instant) :
    (scope.openedAt instant).shareLimit used.overrunWork = scope.shareLimit fresh.overrunWork :=
  congrArg scope.shareLimit inStep.overrunWork_eq

theorem changed (inStep : InStep earlier top used fresh) (opened : 0 < fresh.depth)
    {around outer : List (Scope α)} (alike : List.Forall₂ Scope.EqUpToStart around outer)
    (ticks : Ticks α) :
    InStep earlier top { used with scopes := around, ticks }
      { fresh with scopes := outer, ticks } where
  config_eq := inStep.config_eq
  scopes := alike
  ticks_eq := fun _ => rfl
  used_topName := inStep.used_topName
  fresh_topName := inStep.fresh_topName
  named := fun _ => inStep.named opened

theorem of_idle (inStep : InStep earlier top used fresh) (idle : fresh.scopes = []) :
    used.scopes = [] := by
  have scopes := inStep.scopes
  rw [idle] at scopes
  exact List.forall₂_nil_right_iff.mp scopes

theorem of_open (inStep : InStep earlier top used fresh) (stack : fresh.scopes = scope :: outer) :
    ∃ instant around, used.scopes = scope.openedAt instant :: around ∧
      List.Forall₂ Scope.EqUpToStart around outer := by
  have scopes := inStep.scopes
  rw [stack] at scopes
  rcases List.forall₂_cons_right_iff.mp scopes with ⟨_, around, ⟨instant, rfl⟩, alike, whole⟩
  exact ⟨instant, around, whole, alike⟩

theorem currentJob_eq (inStep : InStep earlier top used fresh) :
    used.currentJob = fresh.currentJob := by
  cases stack : fresh.scopes with
  | nil => rw [currentJob, currentJob, inStep.of_idle stack, stack]
  | cons scope outer =>
      rcases inStep.of_open stack with ⟨instant, around, usedStack, _⟩
      rw [currentJob, currentJob, usedStack, stack]
      rfl

theorem resync_eq (inStep : InStep earlier top used fresh) (opened : 0 < fresh.depth)
    (exhausted : Bool) : used.resync exhausted = fresh.resync exhausted := by
  rw [resync, resync, inStep.ticks_eq opened]

theorem showTopName_alike (inStep : InStep earlier top used fresh) (opened : 0 < fresh.depth) :
    ToldAlike earlier top true used.showTopName fresh.showTopName := by
  rcases inStep.named opened with ⟨name, rfl⟩
  rw [showTopName_eq inStep.used_topName, showTopName_eq inStep.fresh_topName]
  change ToldAlike earlier (some name) true ([.taskName name].map (showing earlier))
    [.taskName name]
  refine .closing fun shown member => ?_
  cases List.mem_singleton.mp member
  rfl

theorem current (inStep : InStep earlier top used fresh) :
    InStep earlier fresh.topName used fresh :=
  inStep.fresh_topName ▸ inStep

end InStep

end Monitor

structure Outcome.Alike {α ρ : Type} (earlier : String) (top : Option String) (closing : Bool)
    (used fresh : Outcome α ρ) : Prop where
  result_eq : used.result = fresh.result
  told : ToldAlike earlier top closing (Emission.sinkCalls used.emitted)
    (Emission.sinkCalls fresh.emitted)
  inStep : Monitor.InStep earlier top used.monitor fresh.monitor

namespace Outcome.Alike

variable {α ρ τ : Type} {earlier : String} {top : Option String} {closing : Bool}
  {used fresh : Outcome α ρ}

theorem map (alike : Alike earlier top closing used fresh) (convert : ρ → τ) :
    Alike earlier top closing (used.map convert) (fresh.map convert) :=
  ⟨congrArg (Except.map convert) alike.result_eq, alike.told, alike.inStep⟩

theorem after {usedSent freshSent : List Emission} (alike : Alike earlier top true used fresh)
    (told : ToldAlike earlier top true (Emission.sinkCalls usedSent)
      (Emission.sinkCalls freshSent)) :
    Alike earlier top true (used.after usedSent) (fresh.after freshSent) where
  result_eq := alike.result_eq
  told := by
    simp only [after_emitted, Emission.sinkCalls_append]
    exact told.append alike.told
  inStep := alike.inStep

theorem refuse {used fresh : Monitor α} (inStep : used.InStep earlier top fresh) (closing : Bool)
    (error : CallError) :
    Alike earlier top closing (used.refuse error : Outcome α ρ) (fresh.refuse error) :=
  ⟨rfl, .nothing closing, inStep⟩

end Outcome.Alike

namespace Monitor.InStep

variable {α : Type} [Amount α] {earlier : String} {top : Option String} {used fresh : Monitor α}
  {scope : Scope α} {outer around : List (Scope α)}

/-! ## Calls keep monitors in step -/

theorem openRoot (inStep : InStep earlier top used fresh) (usedNow freshNow : Instant)
    (name : String) (totalWork : Nat) :
    Outcome.Alike earlier (some (fresh.topName.getD name)) false
      (used.openRoot usedNow name totalWork) (fresh.openRoot freshNow name totalWork) where
  result_eq := rfl
  told := by
    rw [openRoot_calls, openRoot_calls]
    exact .same _
  inStep :=
    { config_eq := inStep.config_eq
      scopes := .cons ⟨usedNow, rfl⟩ .nil
      ticks_eq := fun _ => rfl
      used_topName := by rw [Monitor.openRoot, inStep.used_topName, Option.getD_some]
      fresh_topName := rfl
      named := fun _ => ⟨_, rfl⟩ }

theorem openNested (inStep : InStep earlier top used fresh) (stack : fresh.scopes = scope :: outer)
    (alike : List.Forall₂ Scope.EqUpToStart around outer) (instant usedNow freshNow : Instant)
    (name : String) (granted : GrantedShare) (totalWork : Nat) :
    Outcome.Alike earlier top false
      (used.openNested (scope.openedAt instant) around usedNow name granted totalWork)
      (fresh.openNested scope outer freshNow name granted totalWork) where
  result_eq := rfl
  told := by
    rw [openNested_calls, openNested_calls, inStep.resync_eq (depth_of_open stack)]
    exact .same _
  inStep := by
    have opened := depth_of_open stack
    rw [openNested_monitor, openNested_monitor, inStep.overrunWork_eq, inStep.ticks_eq opened,
      Scope.extendView_openedAt, Scope.carved_openedAt]
    apply inStep.changed opened
    exact .cons ⟨usedNow, rfl⟩ (.cons ⟨instant, rfl⟩ alike)

theorem openJob (inStep : InStep earlier top used fresh) (usedNow freshNow : Instant)
    (name : String) (share totalWork : UInt32) :
    ∃ next, Outcome.Alike earlier next false (used.openJob usedNow name share totalWork)
      (fresh.openJob freshNow name share totalWork) := by
  rcases fresh.openJob_cases freshNow name share totalWork with
    ⟨idle, equal⟩ | ⟨parent, outer, stack, fits, equal⟩ |
    ⟨parent, outer, stack, excess, policy, equal⟩ |
    ⟨parent, outer, stack, excess, policy, equal⟩
  · rw [equal, openJob_of_idle (inStep.of_idle idle)]
    exact ⟨_, inStep.openRoot usedNow freshNow name totalWork.toNat⟩
  -- Around a nested job the share is bounded alike, as no bound hangs on a start instant.
  all_goals
    rcases inStep.of_open stack with ⟨instant, around, usedStack, alike⟩
    have sameLimit := inStep.shareLimit_eq parent instant
    have opening := inStep.openNested stack alike instant usedNow freshNow name
    refine ⟨top, ?_⟩
    rw [equal]
  · rw [openJob_of_fits usedStack (sameLimit ▸ fits)]
    exact opening _ totalWork.toNat
  · rw [openJob_of_clamp usedStack (sameLimit ▸ excess) (inStep.config_eq ▸ policy), sameLimit]
    have opened := opening ⟨parent.shareLimit fresh.overrunWork, share.toNat⟩ totalWork.toNat
    exact ⟨opened.result_eq, opened.told, opened.inStep⟩
  · rw [openJob_of_reject usedStack (sameLimit ▸ excess) (inStep.config_eq ▸ policy), sameLimit]
    exact .refuse inStep false _

theorem step (inStep : InStep earlier top used fresh) (name detail : String) (share : UInt32) :
    Outcome.Alike earlier top false (used.step name detail share)
      (fresh.step name detail share) := by
  cases stack : fresh.scopes with
  | nil =>
      rw [step_of_idle (inStep.of_idle stack), step_of_idle stack]
      exact .refuse inStep false _
  | cons scope outer =>
      rcases inStep.of_open stack with ⟨instant, around, usedStack, alike⟩
      have opened := depth_of_open stack
      rw [step_of_open usedStack, step_of_open stack, inStep.ticks_eq opened,
        inStep.overrunWork_eq]
      refine ⟨rfl, ?_, ?_⟩
      · simp only [Emission.sinkCalls_append, Emission.sinkCalls_ofCalls,
          Emission.sinkCalls_ofJobEvent, List.append_nil]
        exact .same _
      · apply inStep.changed opened
        exact .cons ⟨instant, rfl⟩ alike

theorem reestimate (inStep : InStep earlier top used fresh) (name : String) (work : UInt32) :
    Outcome.Alike earlier top false (used.reestimate name work) (fresh.reestimate name work) := by
  cases stack : fresh.scopes with
  | nil =>
      rw [reestimate_of_idle (inStep.of_idle stack), reestimate_of_idle stack]
      exact .refuse inStep false _
  | cons scope outer =>
      rcases inStep.of_open stack with ⟨instant, around, usedStack, alike⟩
      have opened := depth_of_open stack
      rw [reestimate_of_open usedStack, reestimate_of_open stack, inStep.resync_eq opened,
        inStep.ticks_eq opened]
      refine ⟨rfl, .same _, ?_⟩
      apply inStep.changed opened
      exact .cons ⟨instant, rfl⟩ alike

/-! ## Closing jobs -/

theorem closeJob (inStep : InStep earlier top used fresh) (usedNow freshNow : Instant)
    (name : String) (succeeded : Bool) :
    Outcome.Alike earlier top true (used.closeJob usedNow name succeeded)
      (fresh.closeJob freshNow name succeeded) := by
  cases stack : fresh.scopes with
  | nil =>
      rw [closeJob_of_idle (inStep.of_idle stack), closeJob_of_idle stack]
      exact .after (.refuse inStep true _) (.nothing true)
  | cons scope outer =>
      rcases inStep.of_open stack with ⟨instant, around, usedStack, alike⟩
      have opened := depth_of_open stack
      rw [closeJob_of_open usedStack, closeJob_of_open stack, inStep.ticks_eq opened]
      dsimp only
      rw [finishTask_eq_of_alike alike]
      refine ⟨rfl, ?_, ?_⟩
      · have reports := fresh.ticks.report_reports scope.view.finish.2
        simp only [Emission.sinkCalls_append, Emission.sinkCalls_ofCalls,
          Emission.sinkCalls_ofJobEvent, List.append_nil]
        refine ((ToldAlike.of_unshown reports.shows_none).append ?_).append
          (inStep.showTopName_alike opened)
        exact .of_unshown (finishTask_shows_none _ outer)
      · exact inStep.changed opened (settleParent_alike alike) _

theorem closeInnermost (inStep : InStep earlier top used fresh) (usedClock freshClock : Clock)
    (worked count : Nat) :
    Outcome.Alike earlier top true (used.closeInnermost usedClock worked count)
      (fresh.closeInnermost freshClock worked count) := by
  induction count generalizing used fresh usedClock freshClock worked with
  | zero => exact ⟨rfl, .nothing true, inStep⟩
  | succ count induction =>
      rw [Monitor.closeInnermost, Monitor.closeInnermost, inStep.currentJob_eq]
      split
      · exact ⟨rfl, .nothing true, inStep⟩
      · next name _ =>
          have closed := inStep.closeJob usedClock.now freshClock.now name false
          dsimp only
          rw [closed.result_eq]
          split
          · exact ⟨rfl, closed.told, closed.inStep⟩
          · next units _ => exact (induction closed.inStep _ _ units).after closed.told

theorem closeLeftOpen (inStep : InStep earlier top used fresh) (usedClock freshClock : Clock)
    (job : String) (count : Nat) :
    Outcome.Alike earlier top true (used.closeLeftOpen usedClock job count)
      (fresh.closeLeftOpen freshClock job count) := by
  induction count generalizing used fresh usedClock freshClock with
  | zero => exact ⟨rfl, .nothing true, inStep⟩
  | succ count induction =>
      have closed := inStep.closeJob usedClock.now freshClock.now (fresh.currentJob.getD "") false
      have told := (ToldAlike.nothing true).append closed.told
      rw [Monitor.closeLeftOpen, Monitor.closeLeftOpen, inStep.currentJob_eq,
        closed.result_eq]
      split
      · exact ⟨rfl, told, closed.inStep⟩
      · exact (induction closed.inStep _ _).after told

theorem conclude (inStep : InStep earlier top used fresh) (usedClock freshClock : Clock)
    (job : String) (depth : Nat) (succeeded : Bool) :
    Outcome.Alike earlier top true (used.conclude usedClock job depth succeeded)
      (fresh.conclude freshClock job depth succeeded) := by
  have unwound := inStep.closeLeftOpen usedClock freshClock job (fresh.depth - depth)
  have closed := (unwound.inStep.closeJob (usedClock.afterClosing (fresh.depth - depth)).now
    (freshClock.afterClosing (fresh.depth - depth)).now job succeeded).map fun _ => ()
  simp only [Monitor.conclude, inStep.depth_eq, unwound.result_eq, unwound.inStep.depth_eq]
  split
  · exact unwound
  · split
    · exact closed.after unwound.told
    · exact unwound

end Monitor.InStep

theorem Monitor.Trace.inStep {α : Type} [Amount α] {config : Config} {sent : List Emission}
    {monitor : Monitor α} {earlier : String} (trace : Trace (.ofConfig config) sent monitor)
    (named : firstBegun (Emission.sinkCalls sent) = some earlier) (idle : monitor.isIdle) :
    monitor.InStep earlier none (.ofConfig config) where
  config_eq := trace.config_eq
  scopes := by
    rw [List.isEmpty_iff.mp idle]
    exact .nil
  ticks_eq := fun opened => absurd opened (Nat.lt_irrefl 0)
  used_topName := by
    rcases trace.hasTold (.ofConfig config) with ⟨_, told⟩
    rw [told.topName_eq, List.nil_append, named]
  fresh_topName := rfl
  named := fun opened => absurd opened (Nat.lt_irrefl 0)

def Call.asks : Call → Bool
  | .checkCanceled _ => true
  | _ => false

def Call.closes : Call → Bool
  | .closeJob _ _ | .closeAll => true
  | _ => false

theorem Monitor.InStep.perform {α : Type} [Amount α] {earlier : String} {top : Option String}
    {used fresh : Monitor α} (inStep : used.InStep earlier top fresh)
    (usedReading freshReading : Reading) {call : Call} (silent : call.asks = false) :
    ∃ next, Outcome.Alike earlier next call.closes (used.perform usedReading call)
      (fresh.perform freshReading call) := by
  cases call with
  | openJob name share totalWork =>
      rcases inStep.openJob usedReading.now freshReading.now name share totalWork with
        ⟨next, opened⟩
      exact ⟨next, opened.map _⟩
  | step name detail share => exact ⟨top, (inStep.step name detail share).map _⟩
  | reestimate name work => exact ⟨top, (inStep.reestimate name work).map _⟩
  | closeJob name succeeded =>
      exact ⟨top, (inStep.closeJob usedReading.now freshReading.now name succeeded).map _⟩
  | closeAll =>
      have closed := inStep.closeInnermost usedReading.clock freshReading.clock 0 fresh.depth
      rw [Monitor.perform, Monitor.perform, closeAll, closeAll, inStep.depth_eq]
      exact ⟨top, closed.map _⟩
  | checkCanceled name => cases silent

/-! ## Scripts in two sessions -/

namespace Script

variable {σ : Type}

mutual

def asks : Script σ → Bool
  | .call made => made.asks
  | .job _ _ _ body _ => anyAsks body
  | .warn _ _ | .wait _ | .direct _ | .touch _ => false

def anyAsks : List (Script σ) → Bool
  | [] => false
  | line :: lines => line.asks || anyAsks lines

end

def closes : Script σ → Bool
  | .call made => made.closes
  | _ => false

end Script

structure Moment.Alike {σ ω α : Type} (earlier : String) (closing : Bool)
    (used fresh : Moment σ ω α) : Prop where
  told : ToldAlike earlier fresh.session.monitor.topName closing
    (Emission.sinkCalls used.emitted) (Emission.sinkCalls fresh.emitted)
  inStep : used.session.monitor.InStep earlier fresh.session.monitor.topName
    fresh.session.monitor

theorem Moment.Alike.beside {σ ω α : Type} {earlier : String} {used fresh : Moment σ ω α}
    (inStep : used.session.monitor.InStep earlier fresh.session.monitor.topName
      fresh.session.monitor)
    (usedSilent : Emission.sinkCalls used.emitted = [])
    (freshSilent : Emission.sinkCalls fresh.emitted = []) : used.Alike earlier false fresh where
  told := by
    rw [usedSilent, freshSilent]
    exact .same []
  inStep := inStep

namespace Report

variable {σ ω α : Type}

mutual

inductive Alike (earlier : String) : Script σ → Report σ ω α → Report σ ω α → Prop
  | line {line result used fresh} :
      Moment.Alike earlier line.closes used fresh →
      Alike earlier line (.line result used) (.line result fresh)
  | job {name share totalWork body ending result usedOpened freshOpened usedBody freshBody
      usedClosed freshClosed} :
      Moment.Alike earlier false usedOpened freshOpened →
      AllAlike earlier body usedBody freshBody →
      Moment.Alike earlier true usedClosed freshClosed →
      Alike earlier (.job name share totalWork body ending)
        (.job result usedOpened usedBody usedClosed)
        (.job result freshOpened freshBody freshClosed)

/-- What came of lines in two sessions. Both may stop before the last line, but after the
same one. -/
inductive AllAlike (earlier : String) :
    List (Script σ) → List (Report σ ω α) → List (Report σ ω α) → Prop
  | nil (lines) : AllAlike earlier lines [] []
  | cons {line used fresh lines usedRest freshRest} :
      Alike earlier line used fresh →
      AllAlike earlier lines usedRest freshRest →
      AllAlike earlier (line :: lines) (used :: usedRest) (fresh :: freshRest)

end

namespace Alike

variable {earlier : String} {line : Script σ} {used fresh : Report σ ω α}

theorem result_eq (alike : Alike earlier line used fresh) : used.result = fresh.result := by
  cases alike <;> rfl

theorem last (alike : Alike earlier line used fresh) :
    used.last.session.monitor.InStep earlier fresh.last.session.monitor.topName
      fresh.last.session.monitor := by
  cases alike with
  | line moments => exact moments.inStep
  | job _ _ closed => exact closed.inStep

end Alike

end Report

namespace Session

variable {σ ω α : Type} [ProgressSink σ] [Amount α] {earlier : String}
  {used fresh : Session σ ω α}

theorem perform_eq (session : Session σ ω α) (call : Call) :
    session.perform call = .line (session.perform call).result (session.perform call).last := rfl

theorem perform_alike
    (inStep : used.monitor.InStep earlier fresh.monitor.topName fresh.monitor) {call : Call}
    (silent : call.asks = false) :
    (used.perform call).result = (fresh.perform call).result ∧
      (used.perform call).last.Alike earlier call.closes (fresh.perform call).last := by
  rcases inStep.perform (used.read call).2 (fresh.read call).2 silent with ⟨next, alike⟩
  refine ⟨?_, ?_, ?_⟩
  · rw [perform_result, perform_result, alike.result_eq]
  · rw [perform_calls, perform_calls, perform_monitor, alike.inStep.fresh_topName]
    exact alike.told
  · rw [perform_monitor, perform_monitor]
    exact alike.inStep.current

theorem conclude_alike
    (inStep : used.monitor.InStep earlier fresh.monitor.topName fresh.monitor) (job : String)
    (depth : Nat) (result : Except Failure Reply) :
    (used.conclude job depth result).1 = (fresh.conclude job depth result).1 ∧
      (used.conclude job depth result).2.Alike earlier true
        (fresh.conclude job depth result).2 := by
  have alike := inStep.conclude used.clock fresh.clock job depth result.isOk
  refine ⟨?_, ?_, ?_⟩
  · rw [conclude, conclude, alike.result_eq]
    split <;> rfl
  · rw [conclude_calls, conclude_calls, conclude_monitor, alike.inStep.fresh_topName]
    exact alike.told
  · rw [conclude_monitor, conclude_monitor]
    exact alike.inStep.current

variable [WarningSink ω]

/-! Over the lines of a script, and into the bodies of its jobs, what is carried along is
that the monitors are in step. -/

mutual

theorem run_alike {used fresh : Session σ ω α}
    (inStep : used.monitor.InStep earlier fresh.monitor.topName fresh.monitor)
    (line : Script σ) (silent : line.asks = false) :
    (used.run line).Alike earlier line (fresh.run line) := by
  cases line with
  | call call =>
      rw [Script.asks] at silent
      rcases perform_alike inStep silent with ⟨result, moments⟩
      rw [run, run, perform_eq used, perform_eq fresh, result]
      exact .line moments
  | warn message location =>
      exact .line (.beside inStep (Emission.sinkCalls_ofLogEvents _)
        (Emission.sinkCalls_ofLogEvents _))
  | wait duration => exact .line (.beside inStep rfl rfl)
  | direct call =>
      exact .line (.beside inStep (sinkCalls_deliver used.sink [.foreign call])
        (sinkCalls_deliver fresh.sink [.foreign call]))
  | touch change => exact .line (.beside inStep rfl rfl)
  | job name share totalWork body ending =>
      have opening : (Call.openJob name share totalWork).asks = false := rfl
      rcases perform_alike inStep opening with ⟨result, opened⟩
      rw [run, run]
      dsimp only
      rw [result]
      split
      · rw [perform_eq used, perform_eq fresh, result]
        exact .line opened
      · rw [Script.asks] at silent
        rcases runBody_alike opened.inStep ending.strict body silent with ⟨ran, stopped, ended⟩
        rw [opened.inStep.depth_eq, stopped]
        -- Both jobs were opened at the same depth, so the same jobs are left open in them.
        have concluded := conclude_alike ended name
          (fresh.perform (.openJob name share totalWork)).last.session.monitor.depth
          (bodyResult ending body.length
            ((fresh.perform (.openJob name share totalWork)).last.session.runBody ending.strict
              body).2.1)
        rw [concluded.1]
        exact .job opened ran concluded.2

theorem runBody_alike {used fresh : Session σ ω α}
    (inStep : used.monitor.InStep earlier fresh.monitor.topName fresh.monitor) (strict : Bool)
    (lines : List (Script σ)) (silent : Script.anyAsks lines = false) :
    Report.AllAlike earlier lines (used.runBody strict lines).1 (fresh.runBody strict lines).1 ∧
      (used.runBody strict lines).2.1 = (fresh.runBody strict lines).2.1 ∧
      (used.runBody strict lines).2.2.monitor.InStep earlier
        (fresh.runBody strict lines).2.2.monitor.topName
        (fresh.runBody strict lines).2.2.monitor := by
  cases lines with
  | nil => exact ⟨.nil [], rfl, inStep⟩
  | cons line lines =>
      rw [Script.anyAsks, Bool.or_eq_false_iff] at silent
      have first := run_alike inStep line silent.1
      rw [runBody.eq_def, runBody.eq_def]
      dsimp only
      rw [first.result_eq]
      split
      · exact ⟨.cons first (.nil lines), rfl, first.last⟩
      · rcases runBody_alike first.last strict lines silent.2 with ⟨rest, stopped, ended⟩
        exact ⟨.cons first rest, stopped, ended⟩

end

/-- An idle monitor that has shown tasks before gives the same results as a new one and
tells its sink the same, but for the names shown when jobs are closed: the name of its
first task stands where the new one shows its own. After every call both have the same
jobs open, which may have been opened at other instants, and as long as a job is open, the
same task. -/
theorem task_starts_afresh (config : Config) (sink : σ) (warnings : ω) (clock : Clock)
    (before script : List (Script σ)) {reports : List (Report σ ω α)} {name : String}
    {total : Nat}
    (past : (ofConfig config sink warnings clock : Session σ ω α).runAll before = (reports, used))
    (begun : .beginTask name total ∈ Emission.sinkCalls (Report.emittedBy reports))
    (idle : used.monitor.isIdle) (new : fresh.monitor = .ofConfig config)
    (silent : Script.anyAsks script = false) :
    ∃ earlier, firstBegun (Emission.sinkCalls (Report.emittedBy reports)) = some earlier ∧
      used.monitor.topName = some earlier ∧
      Report.AllAlike earlier script (used.runAll script).1 (fresh.runAll script).1 := by
  rcases exists_firstBegun begun with ⟨earlier, named⟩
  let start : Session σ ω α := ofConfig config sink warnings clock
  have sends := start.runBody_sends false before
  have ran : (start.runBody false before).1 = reports := congrArg Prod.fst past
  have ended : (start.runBody false before).2.2 = used := congrArg Prod.snd past
  rw [ran, ended] at sends
  rcases sends.traced with ⟨sent, trace, calls⟩
  have inStep := trace.inStep (calls ▸ named) idle
  rw [← new] at inStep
  exact ⟨earlier, named, inStep.used_topName, (runBody_alike inStep.current false script silent).1⟩

/-- The first task outruns its work, and is given up with a share not counted and a
fraction not reported. The job of the second one leaves another open. -/
theorem task_starts_afresh_after_overrun :
    let clock : Clock := .frozen .zero .zero
    let new : Session NullSink IgnoredWarnings Rat := ofConfig .default ⟨⟩ ⟨⟩ clock
    let before : List (Script NullSink) :=
      [.call (.openJob "build" 1 4), .call (.step "fetch" "" 5), .call (.openJob "compile" 9 7),
        .call (.step "parse" "" 2), .wait ⟨5⟩, .call (.step "check" "" 1), .call .closeAll]
    let script : List (Script NullSink) :=
      [.call (.step "early" "" 1), .call (.openJob "deploy" 1 8),
        .job "copy" 3 4 [.call (.openJob "read" 1 1), .call (.step "open" "" 1)] ⟨false, none⟩,
        .call (.closeJob "deploy" true)]
    let used := (new.runAll before).2
    let told (name : String) : List SinkCall :=
      [.taskName "deploy", .beginTask "deploy" 8, .taskName "copy", .taskName "read",
        .subTask "open", .taskName name, .worked 3, .taskName name, .worked 5, .done,
        .taskName name]
    Emission.sinkCalls (Report.emittedBy (used.runAll script).1) = told "build" ∧
      Emission.sinkCalls (Report.emittedBy (new.runAll script).1) = told "deploy" ∧
      Report.AllAlike "build" script (used.runAll script).1 (new.runAll script).1 := by
  intro clock new before script used told
  have begun : .beginTask "build" 4 ∈
      Emission.sinkCalls (Report.emittedBy (new.runAll before).1) := by
    decide +kernel +zetaReduce
  have idle : used.monitor.isIdle = true := by decide +kernel +zetaReduce
  have toldUsed : Emission.sinkCalls (Report.emittedBy (used.runAll script).1) = told "build" := by
    decide +kernel +zetaReduce
  have toldNew : Emission.sinkCalls (Report.emittedBy (new.runAll script).1) = told "deploy" := by
    decide +kernel +zetaReduce
  have first : firstBegun (Emission.sinkCalls (Report.emittedBy (new.runAll before).1)) =
      some "build" := by
    decide +kernel +zetaReduce
  have past : new.runAll before = ((new.runAll before).1, used) :=
    (Prod.eta (new.runAll before)).symm
  have same : new.monitor = .ofConfig .default := rfl
  rcases task_starts_afresh .default _ _ _ before script past begun idle same rfl with
    ⟨earlier, named, _, alike⟩
  cases first.symm.trans named
  exact ⟨toldUsed, toldNew, alike⟩

end Session

end JobProgress
