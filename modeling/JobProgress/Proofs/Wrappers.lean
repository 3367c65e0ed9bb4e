import JobProgress.Proofs.Labels
import JobProgress.Sink.Cancellable
import JobProgress.Sink.Status

/-! A sink behind wrappers does what the sink would do without them: every call reaches it
as it is. Only cancellation can be told apart, since a wrapper whose token is cancelled
answers without asking further. -/

namespace JobProgress

/-! ## One wrapper after another -/

namespace SinkLayers

variable {σ : Type}

@[simp]
theorem innermost_mapInnermost (change : σ → σ) (layers : SinkLayers σ) :
    (layers.mapInnermost change).innermost = change layers.innermost := by
  induction layers with
  | base _ => rfl
  | cancellable _ _ induction | handle _ induction => exact induction

@[simp]
theorem tokens_mapInnermost (change : σ → σ) (layers : SinkLayers σ) :
    (layers.mapInnermost change).tokens = layers.tokens := by
  induction layers with
  | base _ => rfl
  | cancellable token _ induction => exact congrArg (token :: ·) induction
  | handle _ induction => exact induction

theorem mapInnermost_mapInnermost (change later : σ → σ) (layers : SinkLayers σ) :
    (layers.mapInnermost change).mapInnermost later = layers.mapInnermost (later ∘ change) := by
  induction layers with
  | base _ => rfl
  | cancellable token _ induction => exact congrArg (cancellable token) induction
  | handle _ induction => exact congrArg handle induction

theorem mapInnermost_innermost (layers : SinkLayers σ) :
    layers.mapInnermost (fun _ => layers.innermost) = layers := by
  induction layers with
  | base _ => rfl
  | cancellable token _ induction => exact congrArg (cancellable token) induction
  | handle _ induction => exact congrArg handle induction

variable [ProgressSink σ]

theorem receive_eq (layers : SinkLayers σ) (call : SinkCall) :
    layers.receive call =
      (layers.mapInnermost fun sink => (ProgressSink.receive sink call).1,
        (ProgressSink.receive layers.innermost call).2) := by
  induction layers with
  | base _ => rfl
  | cancellable _ _ induction | handle _ induction =>
      rw [receive, induction]
      rfl

theorem ask_eq (layers : SinkLayers σ) (cancelled : List Nat) :
    layers.ask cancelled =
      if layers.tokens.any (·.isCancelled cancelled) then (layers, true)
      else
        (layers.mapInnermost fun sink => (ProgressSink.ask sink).1,
          (ProgressSink.ask layers.innermost).2) := by
  induction layers with
  | base _ => rfl
  | cancellable token inner induction =>
      rw [ask, induction, tokens, List.any_cons]
      cases token.isCancelled cancelled with
      | true => rfl
      | false =>
          cases stopped : inner.tokens.any (·.isCancelled cancelled) <;> rfl
  | handle inner induction =>
      rw [ask, induction, tokens]
      cases stopped : inner.tokens.any (·.isCancelled cancelled) <;> rfl

end SinkLayers

/-! ## All that is done to a wrapped sink

Acts are done in order. Each is done to the sink inside, or goes no further than the
wrappers. -/

inductive SinkAct (σ : Type) where
  | call (sent : SinkCall)
  | ask
  | cancel (id : Nat)
  | touch (change : σ → σ)

namespace SinkAct

variable {σ : Type}

def call? : SinkAct σ → Option SinkCall
  | .call sent => some sent
  | .ask | .cancel _ | .touch _ => none

def cancels? : SinkAct σ → Option Nat
  | .cancel id => some id
  | .call _ | .ask | .touch _ => none

theorem cancels?_eq_some {act : SinkAct σ} {id : Nat} :
    act.cancels? = some id ↔ act = .cancel id := by
  cases act <;> simp [cancels?]

def onBare [ProgressSink σ] (sink : σ) : SinkAct σ → σ
  | .call sent => (ProgressSink.receive sink sent).1
  | .ask => (ProgressSink.ask sink).1
  | .cancel _ => sink
  | .touch change => change sink

end SinkAct

namespace WrappedSink

variable {σ : Type}

def isCancelled (sink : WrappedSink σ) : Bool :=
  sink.layers.tokens.any (·.isCancelled sink.cancelled)

theorem isCancelled_iff {sink : WrappedSink σ} :
    sink.isCancelled = true ↔
      ∃ token ∈ sink.layers.tokens, ∃ id ∈ token.id :: token.ancestors, id ∈ sink.cancelled := by
  simp only [isCancelled, CancelToken.isCancelled, List.any_eq_true, List.contains_iff_mem]

theorem isCancelled_mapInnermost (change : σ → σ) (sink : WrappedSink σ) :
    (sink.mapInnermost change).isCancelled = sink.isCancelled := by
  rw [isCancelled, mapInnermost, SinkLayers.tokens_mapInnermost]
  rfl

variable [ProgressSink σ]

theorem receive_eq (sink : WrappedSink σ) (call : SinkCall) :
    ProgressSink.receive sink call =
      (sink.mapInnermost fun inner => (ProgressSink.receive inner call).1,
        (ProgressSink.receive sink.innermost call).2) := by
  have layers := sink.layers.receive_eq call
  exact congrArg (fun (received : SinkLayers σ × List SinkEvent) =>
    ({ sink with layers := received.1 }, received.2)) layers

theorem ask_eq (sink : WrappedSink σ) :
    ProgressSink.ask sink =
      if sink.isCancelled then (sink, true)
      else
        (sink.mapInnermost fun inner => (ProgressSink.ask inner).1,
          (ProgressSink.ask sink.innermost).2) := by
  have layers := congrArg (fun (asked : SinkLayers σ × Bool) =>
    ({ sink with layers := asked.1 }, asked.2)) (sink.layers.ask_eq sink.cancelled)
  refine layers.trans ?_
  rw [isCancelled]
  cases sink.layers.tokens.any (·.isCancelled sink.cancelled) <;> rfl

def act (sink : WrappedSink σ) : SinkAct σ → WrappedSink σ
  | .call sent => (ProgressSink.receive sink sent).1
  | .ask => (ProgressSink.ask sink).1
  | .cancel id => sink.cancel id
  | .touch change => sink.mapInnermost change

def stops (sink : WrappedSink σ) : SinkAct σ → Bool
  | .ask => sink.isCancelled
  | .cancel _ => true
  | .call _ | .touch _ => false

def after (sink : WrappedSink σ) (acts : List (SinkAct σ)) : WrappedSink σ := acts.foldl act sink

/-- What the wrappers pass on of all that is done. -/
def passedOn (sink : WrappedSink σ) : List (SinkAct σ) → List (SinkAct σ)
  | [] => []
  | act :: acts =>
      if sink.stops act then (sink.act act).passedOn acts
      else act :: (sink.act act).passedOn acts

theorem act_eq (sink : WrappedSink σ) (act : SinkAct σ) :
    sink.act act =
      { layers :=
          if sink.stops act then sink.layers
          else sink.layers.mapInnermost fun inner => act.onBare inner
        cancelled := act.cancels?.toList ++ sink.cancelled } := by
  cases act with
  | call sent => exact congrArg Prod.fst (sink.receive_eq sent)
  | ask =>
      rw [WrappedSink.act, ask_eq, stops]
      cases sink.isCancelled <;> rfl
  | cancel id => rfl
  | touch change => rfl

theorem act_innermost (sink : WrappedSink σ) (act : SinkAct σ) :
    (sink.act act).innermost =
      if sink.stops act then sink.innermost else act.onBare sink.innermost := by
  rw [act_eq, innermost, innermost]
  cases sink.stops act with
  | true => rfl
  | false => exact SinkLayers.innermost_mapInnermost _ _

theorem act_tokens (sink : WrappedSink σ) (act : SinkAct σ) :
    (sink.act act).layers.tokens = sink.layers.tokens := by
  rw [act_eq]
  cases sink.stops act with
  | true => rfl
  | false => exact SinkLayers.tokens_mapInnermost _ _

theorem mem_cancelled_act {sink : WrappedSink σ} {act : SinkAct σ} {id : Nat} :
    id ∈ (sink.act act).cancelled ↔ act = .cancel id ∨ id ∈ sink.cancelled := by
  rw [act_eq, List.mem_append, Option.mem_toList, SinkAct.cancels?_eq_some]

/-! The induction is on what is done. -/

theorem after_innermost (sink : WrappedSink σ) (acts : List (SinkAct σ)) :
    (sink.after acts).innermost = (sink.passedOn acts).foldl SinkAct.onBare sink.innermost := by
  induction acts generalizing sink with
  | nil => rfl
  | cons act acts induction =>
      have rest := induction (sink.act act)
      rw [act_innermost] at rest
      rw [passedOn]
      cases stopped : sink.stops act with
      | true | false =>
          rw [stopped] at rest
          exact rest

theorem passedOn_calls (sink : WrappedSink σ) (acts : List (SinkAct σ)) :
    (sink.passedOn acts).filterMap (·.call?) = acts.filterMap (·.call?) := by
  induction acts generalizing sink with
  | nil => rfl
  | cons act acts induction =>
      rw [passedOn]
      cases stopped : sink.stops act with
      | false => exact List.filterMap_cons.trans (by rw [induction]; exact List.filterMap_cons.symm)
      | true =>
          -- What stops at the wrappers is no call.
          have silent : act.call? = none := by
            cases act with
            | call _ | touch _ => cases stopped
            | ask | cancel _ => rfl
          rw [List.filterMap_cons_none silent]
          exact induction _

theorem after_tokens (sink : WrappedSink σ) (acts : List (SinkAct σ)) :
    (sink.after acts).layers.tokens = sink.layers.tokens := by
  induction acts generalizing sink with
  | nil => rfl
  | cons act acts induction => exact (induction _).trans (sink.act_tokens act)

theorem mem_cancelled_after {sink : WrappedSink σ} {acts : List (SinkAct σ)} {id : Nat} :
    id ∈ (sink.after acts).cancelled ↔ id ∈ sink.cancelled ∨ .cancel id ∈ acts := by
  induction acts generalizing sink with
  | nil => simp [after]
  | cons act acts induction =>
      rw [List.mem_cons]
      refine induction.trans ?_
      rw [mem_cancelled_act, eq_comm (a := act)]
      tauto

theorem after_asked (sink : WrappedSink σ) (acts : List (SinkAct σ)) :
    (ProgressSink.ask (sink.after acts)).2 = true ↔
      (∃ token ∈ sink.layers.tokens, ∃ id ∈ token.id :: token.ancestors,
          id ∈ sink.cancelled ∨ .cancel id ∈ acts) ∨
        (ProgressSink.ask (sink.after acts).innermost).2 = true := by
  have cancelled : (sink.after acts).isCancelled = true ↔
      ∃ token ∈ sink.layers.tokens, ∃ id ∈ token.id :: token.ancestors,
        id ∈ sink.cancelled ∨ .cancel id ∈ acts := by
    simp only [isCancelled_iff, after_tokens, mem_cancelled_after]
  rw [← cancelled, ask_eq]
  cases (sink.after acts).isCancelled <;> simp

/-! ## Monitors

A monitor cannot tell a wrapped sink from the sink inside but by the answers of its checks.
To see that both runs are the same, the wrappers are put around the sink of the bare
run. -/

def around (sink : WrappedSink σ) (inner : σ) : WrappedSink σ := sink.mapInnermost fun _ => inner

omit [ProgressSink σ] in
theorem around_innermost (sink : WrappedSink σ) : sink.around sink.innermost = sink :=
  congrArg (WrappedSink.mk · sink.cancelled) sink.layers.mapInnermost_innermost

omit [ProgressSink σ] in
theorem mapInnermost_around (change : σ → σ) (sink : WrappedSink σ) (inner : σ) :
    (sink.around inner).mapInnermost change = sink.around (change inner) :=
  congrArg (WrappedSink.mk · sink.cancelled) (sink.layers.mapInnermost_mapInnermost _ _)

omit [ProgressSink σ] in
theorem innermost_around (sink : WrappedSink σ) (inner : σ) :
    (sink.around inner).innermost = inner :=
  sink.layers.innermost_mapInnermost _

end WrappedSink

def Session.behind {σ ω α : Type} (session : Session σ ω α) (wrappers : WrappedSink σ) :
    Session (WrappedSink σ) ω α where
  monitor := session.monitor
  sink := wrappers.around session.sink
  warnings := session.warnings
  clock := session.clock

/-- What is done without wrappers, done inside them; without the labels that are only
logged. -/
def Script.inside {σ : Type} (script : List (Script σ)) : List (Script (WrappedSink σ)) :=
  Veil.plain.lines WrappedSink.mapInnermost script

def Sight.behind {σ ω α : Type} (sight : Sight σ ω α) (wrappers : WrappedSink σ) :
    Sight (WrappedSink σ) ω α :=
  ⟨sight.result, sight.told, sight.session.behind wrappers⟩

namespace Guise

variable {σ ω α : Type} [ProgressSink σ] [WarningSink ω]

def behind (wrappers : WrappedSink σ) (live : wrappers.isCancelled = false) :
    Guise .plain σ ω (WrappedSink σ) ω where
  sink := wrappers.around
  warnings state := state
  change := WrappedSink.mapInnermost
  receive_eq inner call := by
    rw [Veil.plain_sinkCall, WrappedSink.receive_eq]
    exact wrappers.mapInnermost_around _ inner
  ask_eq inner := by
    have around : (wrappers.around inner).isCancelled = false :=
      (wrappers.isCancelled_mapInnermost _).trans live
    rw [Veil.plain_answer, WrappedSink.ask_eq, around, if_neg Bool.false_ne_true,
      wrappers.mapInnermost_around, wrappers.innermost_around]
  warn_eq _ _ _ := rfl
  change_eq happens inner := wrappers.mapInnermost_around happens inner

theorem behind_session {wrappers : WrappedSink σ} {live : wrappers.isCancelled = false}
    (session : Session σ ω α) :
    (behind wrappers live).session session = session.behind wrappers := by
  rw [Guise.session, Veil.plain_monitor]
  rfl

theorem behind_sight {wrappers : WrappedSink σ} {live : wrappers.isCancelled = false}
    (occurrence : Occurrence σ ω α) :
    (behind wrappers live).sight occurrence = occurrence.sight.behind wrappers := by
  rw [sight, Veil.plain_result, Veil.plain_told, behind_session]
  rfl

end Guise

namespace WrappedSink

variable {σ ω α : Type} [ProgressSink σ] [WarningSink ω] [Amount α]

/-- As long as no token of the wrappers is cancelled, they make no difference to a run. -/
theorem course_behind (wrappers : WrappedSink σ) (live : wrappers.isCancelled = false)
    (session : Session σ ω α) {first : List (Script (WrappedSink σ))} {second : List (Script σ)}
    (same : Script.unlabelled first = Script.inside second) :
    ((session.behind wrappers).course first).map (·.sight) =
        (session.course second).map (·.sight.behind wrappers) ∧
      ((session.behind wrappers).runAll first).2 =
        (session.runAll second).2.behind wrappers := by
  let guise : Guise .plain σ ω (WrappedSink σ) ω := Guise.behind wrappers live
  have seen := guise.course_sight session second
  have final := guise.runAll_session session second
  rw [Guise.behind_session] at seen final
  rw [Guise.behind_session] at final
  rw [List.map_congr_left fun occurrence _ => Guise.behind_sight occurrence] at seen
  rcases (session.behind wrappers).course_unlabelled first with ⟨course, last⟩
  rw [same] at course last
  exact ⟨course.symm.trans seen, last.symm.trans final⟩

/-- Wrappers pass every call on to the sink inside, as it is and in order. A question is
answered yes if the token of a wrapper, or one that it descends from, is cancelled, or if
the sink inside answers yes. So a monitor does alike with the wrappers and without them,
but for the answers of its checks; and until a token of theirs is cancelled, these are
the same as well. -/
theorem wrappers_pass_on (sink : WrappedSink σ) :
    (∀ acts : List (SinkAct σ),
      let reached := sink.after acts
      let passed := sink.passedOn acts
      reached.innermost = passed.foldl SinkAct.onBare sink.innermost ∧
        passed.filterMap (·.call?) = acts.filterMap (·.call?) ∧
        (∀ call, (ProgressSink.receive reached call).2 =
          (ProgressSink.receive reached.innermost call).2) ∧
        ((ProgressSink.ask reached).2 = true ↔
          (∃ token ∈ sink.layers.tokens, ∃ id ∈ token.id :: token.ancestors,
              id ∈ sink.cancelled ∨ .cancel id ∈ acts) ∨
            (ProgressSink.ask reached.innermost).2 = true)) ∧
      ∀ (config : Config) (warnings : ω) (clock : Clock) (first : List (Script (WrappedSink σ)))
        (second : List (Script σ)),
        let wrapped : Session (WrappedSink σ) ω α := .ofConfig config sink warnings clock
        let bare : Session σ ω α := .ofConfig config sink.innermost warnings clock
        (Script.alone id first = Script.alone id second →
          (wrapped.course first).map (·.figures id) = (bare.course second).map (·.figures id)) ∧
        (sink.isCancelled = false →
          Script.unlabelled first = Script.inside second →
            (wrapped.course first).map (·.sight) =
                (bare.course second).map (·.sight.behind sink) ∧
              (wrapped.runAll first).2 = (bare.runAll second).2.behind sink) := by
  refine ⟨fun acts => ⟨sink.after_innermost acts, sink.passedOn_calls acts, fun call => ?_,
    sink.after_asked acts⟩, fun config warnings clock first second => ⟨fun same => ?_,
      fun live same => ?_⟩⟩
  · rw [receive_eq]
  · exact Session.figures_of_alone id config sink warnings clock sink.innermost warnings same
  · have behind : (Session.ofConfig config sink warnings clock : Session (WrappedSink σ) ω α) =
        (Session.ofConfig config sink.innermost warnings clock : Session σ ω α).behind sink :=
      congrArg (Session.ofConfig config · warnings clock) sink.around_innermost.symm
    rw [behind]
    exact course_behind sink live _ same

/-- The parent of a token is cancelled, or the sink inside all wrappers. -/
theorem wrappers_pass_on_of_child_token :
    let sink : WrappedSink StatusSink :=
      ⟨.cancellable ((CancelToken.fresh 0).child 1)
        (.handle (.cancellable (.fresh 2) (.base .initial))), []⟩
    let acts : List (SinkAct StatusSink) :=
      [.call (.beginTask "Loading" 4), .ask, .cancel 0, .call (.workRemaining 3), .ask]
    let clock : Clock := .frozen .zero ⟨1000000000⟩
    let wrapped : Session (WrappedSink StatusSink) IgnoredWarnings Rat :=
      .ofConfig .default sink ⟨⟩ clock
    let bare : Session StatusSink IgnoredWarnings Rat :=
      .ofConfig .default sink.innermost ⟨⟩ clock
    let script {σ : Type} (change : σ → σ) : List (Script σ) :=
      [.call (.openJob "Loading" 1 4), .touch change, .call (.checkCanceled "Loading"),
        .call (.closeJob "Loading" true)]
    ((ProgressSink.ask (sink.after acts)).2 = true ∧
        (ProgressSink.ask (sink.after acts).innermost).2 = false ∧
        (sink.passedOn acts).filterMap (·.call?) = [.beginTask "Loading" 4, .workRemaining 3]) ∧
      ((wrapped.course (script (·.cancel 0))).map (·.result) =
          [.ok .nothing, .ok .nothing, .ok (.answer true), .ok (.units 0)] ∧
        (bare.course (script id)).map (·.result) =
          [.ok .nothing, .ok .nothing, .ok (.answer false), .ok (.units 0)] ∧
        (wrapped.course (script (·.cancel 0))).map (·.figures id) =
          (bare.course (script id)).map (·.figures id)) ∧
      (wrapped.course (script (mapInnermost StatusSink.cancel))).map (·.sight) =
          (bare.course (script StatusSink.cancel)).map (·.sight.behind sink) ∧
        (wrapped.runAll (script (mapInnermost StatusSink.cancel))).2 =
          (bare.runAll (script StatusSink.cancel)).2.behind sink := by
  intro sink acts clock wrapped bare script
  have canceled : (wrapped.course (script (·.cancel 0))).map (·.result) =
      [.ok .nothing, .ok .nothing, .ok (.answer true), .ok (.units 0)] := by
    decide +kernel +zetaReduce
  have asked : (bare.course (script id)).map (·.result) =
      [.ok .nothing, .ok .nothing, .ok (.answer false), .ok (.units 0)] := by
    decide +kernel +zetaReduce
  rcases wrappers_pass_on (ω := IgnoredWarnings) (α := Rat) sink with ⟨calls, monitors⟩
  rcases calls acts with ⟨_, passed, _, answers⟩
  rcases monitors .default ⟨⟩ clock (script (·.cancel 0)) (script id) with ⟨figures, _⟩
  rcases monitors .default ⟨⟩ clock (script (mapInnermost StatusSink.cancel))
    (script StatusSink.cancel) with ⟨_, sights⟩
  refine ⟨⟨answers.mpr (.inl ?_), rfl, passed⟩, ⟨canceled, asked, figures rfl⟩,
    sights rfl rfl⟩
  exact ⟨(CancelToken.fresh 0).child 1, List.mem_cons_self, 0, by decide, .inr (by simp [acts])⟩

end WrappedSink

end JobProgress
