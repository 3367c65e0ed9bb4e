import JobProgress.Proofs.History
import Mathlib.Data.List.Infix

/-! What is done inside a job is no business of the jobs around it. A share is
handed out when a job is opened and counted when it is closed, so in between the
stack below it stays as it is, whatever is done on top of it. -/

namespace JobProgress

namespace Monitor

variable {α : Type} [Amount α]

def performAll (monitor : Monitor α) (requests : List Request) : Monitor α :=
  requests.foldl (fun monitor request => (monitor.perform request.reading request.call).monitor)
    monitor

@[simp] theorem performAll_cons (monitor : Monitor α) (request : Request)
    (requests : List Request) :
    monitor.performAll (request :: requests) =
      (monitor.perform request.reading request.call).monitor.performAll requests := rfl

/-- Requests that close every job they open, and none that was open before them. -/
structure WellNested (monitor : Monitor α) (requests : List Request) : Prop where
  keeps : ∀ earlier, earlier <+: requests → monitor.depth ≤ (monitor.performAll earlier).depth
  closes : (monitor.performAll requests).depth = monitor.depth

end Monitor

theorem suffix_of_deeper {α : Type} {scope : Scope α} {base outer : List (Scope α)}
    (stands : base <:+ scope :: outer) (deeper : base.length < (scope :: outer).length) :
    base <:+ outer := by
  rcases List.suffix_cons_iff.mp stands with whole | below
  · subst whole
    exact absurd deeper (Nat.lt_irrefl _)
  · exact below

theorem exists_cons_of_suffix {α : Type} {base scopes : List (Scope α)}
    (stands : base <:+ scopes) (single : scopes.length = base.length + 1) :
    ∃ scope, scopes = scope :: base := by
  rcases stands with ⟨inner, rfl⟩
  have one : inner.length = 1 := by
    rw [List.length_append] at single
    omega
  rcases List.length_eq_one_iff.mp one with ⟨scope, rfl⟩
  exact ⟨scope, rfl⟩

/-- No call changes a stack below its innermost job, as long as it leaves one more
job open. -/
theorem Run.Served.suffix {α : Type} [Amount α] {run : Run α} {call : Call}
    {base scopes : List (Scope α)} {total : Nat} {history : History}
    (served : run.Served call scopes total history)
    (stands : base <:+ run.monitor.scopes) (before : base.length < run.monitor.depth)
    (afterwards : base.length < scopes.length) : base <:+ scopes := by
  rw [Monitor.depth] at before
  cases served with
  | kept call => exact stands
  | root now name share totalWork idle =>
      rw [idle] at before
      exact absurd before (Nat.not_lt_zero _)
  | nested now name share totalWork granted stack _ _ =>
      rw [stack] at stands before
      have below := suffix_of_deeper stands before
      exact (below.trans (List.suffix_cons _ _)).trans (List.suffix_cons _ _)
  | step name detail share stack =>
      rw [stack] at stands before
      exact (suffix_of_deeper stands before).trans (List.suffix_cons _ _)
  | reestimate name work stack =>
      rw [stack] at stands before
      exact (suffix_of_deeper stands before).trans (List.suffix_cons _ _)
  | @closeJob name succeeded scope outer stack =>
      rw [stack] at stands before
      have below := suffix_of_deeper stands before
      cases outer with
      | nil => exact below
      | cons parent outer =>
          -- The closed job is settled in the one around it, which is above the base too.
          have belowParent := suffix_of_deeper below afterwards
          exact belowParent.trans (List.suffix_cons _ _)
  | closeAll => exact absurd afterwards (Nat.not_lt_zero _)

namespace Monitor

variable {α : Type} [Amount α] {monitor : Monitor α} {base : List (Scope α)}

theorem suffix_perform (stands : base <:+ monitor.scopes) (before : base.length < monitor.depth)
    (request : Request)
    (afterwards : base.length < (monitor.perform request.reading request.call).monitor.depth) :
    base <:+ (monitor.perform request.reading request.call).monitor.scopes :=
  (Run.served ⟨monitor, .initial, []⟩ request).suffix stands before afterwards

theorem suffix_performAll (stands : base <:+ monitor.scopes) (requests : List Request)
    (deeper : ∀ earlier, earlier <+: requests →
      base.length < (monitor.performAll earlier).depth) :
    base <:+ (monitor.performAll requests).scopes := by
  induction requests generalizing monitor with
  | nil => exact stands
  | cons request requests induction =>
      have before : base.length < monitor.depth := deeper [] List.nil_prefix
      have first : [request] <+: request :: requests := ⟨requests, rfl⟩
      have stays := suffix_perform stands before request (deeper [request] first)
      rw [performAll_cons]
      apply induction stays
      intro earlier isPrefix
      exact deeper (request :: earlier) (List.cons_prefix_cons.mpr ⟨rfl, isPrefix⟩)

theorem WellNested.suffix {requests earlier : List Request} {scope : Scope α}
    (nested : monitor.WellNested requests) (stack : monitor.scopes = scope :: base)
    (isPrefix : earlier <+: requests) : base <:+ (monitor.performAll earlier).scopes := by
  have depth : monitor.depth = base.length + 1 := by rw [Monitor.depth, stack, List.length_cons]
  apply suffix_performAll (stack ▸ List.suffix_cons scope base)
  intro shorter shorterPrefix
  have keeps := nested.keeps shorter (shorterPrefix.trans isPrefix)
  omega

theorem WellNested.stack {requests : List Request} {scope : Scope α}
    (nested : monitor.WellNested requests) (stack : monitor.scopes = scope :: base) :
    ∃ current, (monitor.performAll requests).scopes = current :: base := by
  apply exists_cons_of_suffix (nested.suffix stack List.prefix_rfl)
  have depth := nested.closes
  rwa [Monitor.depth, Monitor.depth, stack] at depth

theorem closeJob_scopes {scope : Scope α} (stack : monitor.scopes = scope :: base)
    (reading : Reading) (name : String) (succeeded : Bool) :
    (monitor.perform reading (.closeJob name succeeded)).monitor.scopes = settleParent base := by
  rw [perform, closeJob_of_open stack]
  rfl

theorem openJob_stack (monitor : Monitor α) (reading : Reading) (name : String)
    (share totalWork : UInt32) :
    ∃ current outer,
      (monitor.perform reading (.openJob name share totalWork)).monitor.scopes =
        current :: outer := by
  rw [perform, Outcome.map_monitor]
  rcases monitor.openJob_cases reading.now name share totalWork with
    ⟨_, equal⟩ | ⟨_, _, _, _, equal⟩ | ⟨_, _, _, _, _, equal⟩ | ⟨_, _, stack, _, _, equal⟩
  · rw [equal]
    exact ⟨_, _, rfl⟩
  · rw [equal]
    exact ⟨_, _, rfl⟩
  · rw [equal]
    exact ⟨_, _, rfl⟩
  · rw [equal]
    exact ⟨_, _, stack⟩

/-- Whatever well nested requests do inside a job, they leave the stack below it
alone at every moment, and closing the job then leads to the same stack as closing
it right after it was opened. -/
theorem scopes_after_nested_job (monitor : Monitor α) (opening : Reading) (name : String)
    (share totalWork : UInt32) (body : List Request) :
    let opened := (monitor.perform opening (.openJob name share totalWork)).monitor
    opened.WellNested body →
      (∀ earlier, earlier <+: body →
        opened.scopes.tail <:+ (opened.performAll earlier).scopes) ∧
      ∀ closing closingAtOnce label labelAtOnce succeeded succeededAtOnce,
        ((opened.performAll body).perform closing (.closeJob label succeeded)).monitor.scopes =
          (opened.perform closingAtOnce
            (.closeJob labelAtOnce succeededAtOnce)).monitor.scopes := by
  intro opened nested
  rcases monitor.openJob_stack opening name share totalWork with ⟨job, base, stack⟩
  change opened.scopes = job :: base at stack
  constructor
  · intro earlier isPrefix
    rw [stack]
    exact nested.suffix stack isPrefix
  · intro closing closingAtOnce label labelAtOnce succeeded succeededAtOnce
    rcases nested.stack stack with ⟨current, later⟩
    rw [closeJob_scopes later, closeJob_scopes stack]

/-- A job outruns its work, opens another one, is refused a third and is estimated
anew, and the job around it is none the wiser. -/
theorem scopes_after_nested_job_of_busy_job :
    let config : Config := { Config.default with sharePolicy := .reject, overrunWork := 5 }
    let reading : Reading := ⟨.frozen .zero .zero, false⟩
    let request (call : Call) : Request := ⟨reading, call⟩
    let building := (ofConfig config : Monitor Rat).performAll
      [request (.openJob "build" 1 10), request (.step "fetch" "" 4)]
    let opened := (building.perform reading (.openJob "compile" 3 7)).monitor
    let body := [.step "parse" "" 9, .step "check" "" 1, .openJob "link" 2 1,
      .step "load" "" 8, .closeJob "link" true, .openJob "test" 99 1,
      .reestimate "compile" 6].map request
    opened.WellNested body ∧
      (opened.performAll body).scopes ≠ opened.scopes ∧
      ((opened.performAll body).perform reading (.closeJob "compile" true)).monitor.scopes =
        (opened.perform reading (.closeJob "compile" true)).monitor.scopes := by
  intro config reading request building opened body
  have nested : opened.WellNested body := by
    constructor
    · intro earlier isPrefix
      have stays : ∀ shorter ∈ body.inits, opened.depth ≤ (opened.performAll shorter).depth := by
        decide +kernel +zetaReduce
      exact stays earlier ((List.mem_inits _ _).mpr isPrefix)
    · decide +kernel +zetaReduce
  have changed : (opened.performAll body).scopes ≠ opened.scopes := by
    intro same
    have counted : (opened.performAll body).scopes.map (·.workDone) ≠
        opened.scopes.map (·.workDone) := by
      decide +kernel +zetaReduce
    exact counted (congrArg _ same)
  have same := (scopes_after_nested_job building reading "compile" 3 7 body nested).2
  exact ⟨nested, changed, same reading reading "compile" "compile" true true⟩

end Monitor

end JobProgress
