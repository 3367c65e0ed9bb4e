import JobProgress.Proofs.JobLog

/-! The jobs of a run and how they lie in one another can be read off its log. Each end that is
logged answers the latest start that none answered before, and the starts that are left
unanswered are those of the open jobs. -/

namespace JobProgress

structure JobTitle where
  name : String
  totalWork : Nat
  startedAt : Instant
  deriving DecidableEq, Repr

def Scope.title {α : Type} (scope : Scope α) : JobTitle :=
  ⟨scope.name, scope.totalWork, scope.startedAt⟩

namespace Monitor

variable {α : Type} {monitor : Monitor α} {scope : Scope α} {outer : List (Scope α)}

def titles (monitor : Monitor α) : List JobTitle := monitor.scopes.map (·.title)

@[simp] theorem length_titles (monitor : Monitor α) : monitor.titles.length = monitor.depth :=
  List.length_map ..

theorem titles_of_stack (stack : monitor.scopes = scope :: outer) :
    monitor.titles = scope.title :: outer.map (·.title) := by
  rw [titles, stack, List.map_cons]

theorem titles_eq_nil (idle : monitor.scopes = []) : monitor.titles = [] := by
  rw [titles, idle, List.map_nil]

@[simp] theorem map_title_settleParent (scopes : List (Scope α)) :
    (settleParent scopes).map (·.title) = scopes.map (·.title) := by
  cases scopes <;> rfl

variable [Amount α]

theorem titles_openNested (stack : monitor.scopes = scope :: outer) (now : Instant)
    (name : String) (granted : GrantedShare) (totalWork : Nat) :
    (monitor.openNested scope outer now name granted totalWork).monitor.titles =
      ⟨name, totalWork, now⟩ :: monitor.titles := by
  rw [titles_of_stack stack]
  rfl

theorem titles_step (monitor : Monitor α) (name detail : String) (share : UInt32) :
    (monitor.step name detail share).monitor.titles = monitor.titles := by
  cases stack : monitor.scopes with
  | nil =>
      rw [step_of_idle stack]
      rfl
  | cons scope outer =>
      rw [step_of_open stack, titles_of_stack stack]
      rfl

theorem titles_reestimate (monitor : Monitor α) (name : String) (work : UInt32) :
    (monitor.reestimate name work).monitor.titles = monitor.titles := by
  cases stack : monitor.scopes with
  | nil =>
      rw [reestimate_of_idle stack]
      rfl
  | cons scope outer =>
      rw [reestimate_of_open stack, titles_of_stack stack]
      rfl

theorem titles_closeJob (monitor : Monitor α) (now : Instant) (name : String)
    (succeeded : Bool) :
    (monitor.closeJob now name succeeded).monitor.titles = monitor.titles.tail := by
  cases stack : monitor.scopes with
  | nil =>
      rw [closeJob_of_idle stack, titles_eq_nil stack]
      exact titles_eq_nil stack
  | cons scope outer =>
      rw [closeJob_of_open stack, titles_of_stack stack, List.tail_cons]
      exact map_title_settleParent outer

end Monitor

/-! ## Starts and ends -/

def LogRecord.isMark (record : LogRecord) : Bool := record.isStart || record.isEnd

theorem JobEvent.isMark_eq_false {event : JobEvent} (aside : event.isAside) :
    event.record.isMark = false := by
  cases event with
  | stepped _ _ _ _ _ | rescaled _ _ _ | polled _ _ => rfl
  | _ => cases aside

section Closing

variable {α : Type} [Amount α]

/-- Jobs were closed one after another, each at its own reading of the clock. -/
inductive Monitor.ClosedDown (clock : Clock) (first : Monitor α) : Clock → Monitor α → Prop
  | none : ClosedDown clock first clock first
  | closeJob {later : Clock} {monitor : Monitor α} (name succeeded) :
      ClosedDown clock first later monitor →
      ClosedDown clock first later.next (monitor.closeJob later.now name succeeded).monitor

/-- During `act`, done with `first`, the job that lay on `depth` others was closed when it was
`now`, and closing it returned `worked`, under whatever name. If the act was the call to close it,
so did the act. -/
structure Act.Returns (act : Act) (first : Monitor α) (depth worked : Nat) (now : Instant) :
    Prop where
  closed : ∃ (clock : Clock) (closing : Monitor α),
    Monitor.ClosedDown act.reading.clock first clock closing ∧ clock.now = now ∧
      closing.depth = depth + 1 ∧
      ∀ name succeeded, (closing.closeJob now name succeeded).result = .ok worked
  replied : ∀ name succeeded, act.deed = .call (.closeJob name succeeded) →
    (first.carryOut act).result = .ok (.units worked)

namespace LogEntry

/-- The end of a job that follows on its start: both tell the same name, depth and total, and the
end tells what closing the job returned. If the clock is `steady`, the end also tells the time
that passed from the opening of the job until the clock was read to close it. -/
inductive Closes (steady : Prop) (start stop : LogEntry α) : Prop
  | told (name depth granted total) {succeeded worked elapsed now} :
      start.record.TellsStart name depth granted total →
      stop.record.TellsEnd name depth succeeded worked total elapsed →
      stop.act.Returns stop.monitor depth worked now →
      (steady → start.act.reading.now.after elapsed = now) →
      Closes steady start stop

/-- A log of starts and ends leaves some starts without an end, the latest first. A start tells
how many there are before it, and an end answers the latest of them. -/
inductive Leaves (steady : Prop) : List (LogEntry α) → List (LogEntry α) → Prop
  | nil : Leaves steady [] []
  | started {log unclosed : List (LogEntry α)} {start : LogEntry α} (name granted total) :
      Leaves steady log unclosed →
      start.record.TellsStart name unclosed.length granted total →
      Leaves steady (log ++ [start]) (start :: unclosed)
  | ended {log unclosed : List (LogEntry α)} {start stop : LogEntry α} :
      Leaves steady log (start :: unclosed) →
      Closes steady start stop →
      Leaves steady (log ++ [stop]) unclosed

end LogEntry

end Closing

namespace LogEntry

variable {α : Type} {log : List (LogEntry α)} {entry : LogEntry α} {titles : List JobTitle}

def marks (log : List (LogEntry α)) : List (LogEntry α) := log.filter (·.record.isMark)

@[simp] theorem marks_append (log later : List (LogEntry α)) :
    marks (log ++ later) = marks log ++ marks later :=
  List.filter_append ..

theorem marks_of_mark (mark : entry.record.isMark = true) : marks [entry] = [entry] := by
  simp [marks, mark]

/-- The entries are the starts of the jobs with the titles, each opened at the time of its title
inside all those that follow. -/
inductive Start : List (LogEntry α) → List JobTitle → Prop
  | nil : Start [] []
  | cons {entries : List (LogEntry α)} {titles : List JobTitle} {entry : LogEntry α}
      (name granted total) :
      Start entries titles →
      entry.record.TellsStart name titles.length granted total →
      Start (entry :: entries) (⟨name, total, entry.act.reading.now⟩ :: titles)

theorem Start.length_eq {entries : List (LogEntry α)} (start : Start entries titles) :
    entries.length = titles.length := by
  induction start with
  | nil => rfl
  | cons _ _ _ _ _ induction => exact congrArg (· + 1) induction

theorem Start.exists_entry {entries : List (LogEntry α)} (start : Start entries titles)
    {title : JobTitle} (member : title ∈ titles) :
    ∃ entry ∈ entries, entry.act.reading.now = title.startedAt := by
  induction start with
  | nil => cases member
  | cons name granted total _ _ induction =>
      rcases List.mem_cons.mp member with rfl | member
      · exact ⟨_, List.mem_cons_self, rfl⟩
      · rcases induction member with ⟨entry, listed, same⟩
        exact ⟨entry, List.mem_cons_of_mem _ listed, same⟩

variable [Amount α]

theorem Leaves.subset {steady : Prop} {unclosed : List (LogEntry α)}
    (leaves : Leaves steady log unclosed) : unclosed ⊆ log := by
  induction leaves with
  | nil => exact List.nil_subset _
  | started _ _ _ _ _ induction =>
      intro entry member
      rcases List.mem_cons.mp member with rfl | member
      · exact List.mem_append_right _ (List.mem_singleton_self _)
      · exact List.mem_append_left _ (induction member)
  | ended _ _ induction =>
      intro entry member
      exact List.mem_append_left _ (induction (List.mem_cons_of_mem _ member))

/-- The starts that a log leaves without an end are those of the jobs with the titles. -/
def Lists (steady : Prop) (log : List (LogEntry α)) (titles : List JobTitle) : Prop :=
  ∃ unclosed, Leaves steady (marks log) unclosed ∧ Start unclosed titles

namespace Lists

variable {steady : Prop} {first : Monitor α} {act : Act}

theorem nil (steady : Prop) : Lists steady ([] : List (LogEntry α)) [] := ⟨[], .nil, .nil⟩

theorem unmarked (lists : Lists steady log titles) {later : List (LogEntry α)}
    (none : ∀ entry ∈ later, entry.record.isMark = false) :
    Lists steady (log ++ later) titles := by
  have silent : marks later = [] := by
    apply List.filter_eq_nil_iff.mpr
    intro entry member
    rw [none entry member]
    exact Bool.false_ne_true
  rwa [Lists, marks_append, silent, List.append_nil]

theorem start (lists : Lists steady log titles) (first : Monitor α) (act : Act) (name : String)
    (granted : Option GrantedShare) (total : Nat) {depth : Nat} (deep : depth = titles.length) :
    Lists steady (log ++ [⟨first, act, (JobEvent.started name depth granted total).record⟩])
      (⟨name, total, act.reading.now⟩ :: titles) := by
  subst deep
  rcases lists with ⟨unclosed, leaves, starts⟩
  have tells := JobEvent.started_tellsStart name titles.length granted total
  rw [Lists, marks_append, marks_of_mark (by simp [LogRecord.isMark])]
  refine ⟨_, leaves.started name granted total ?_, .cons name granted total starts tells⟩
  rw [starts.length_eq]
  exact tells

theorem stop {title : JobTitle} (lists : Lists steady log (title :: titles)) {now : Instant}
    (early : steady → title.startedAt ≤ now) {worked : Nat}
    (returns : act.Returns first titles.length worked now) (succeeded : Bool) :
    Lists steady
      (log ++ [⟨first, act, (JobEvent.ended title.name titles.length succeeded worked
        title.totalWork (now.since title.startedAt)).record⟩])
      titles := by
  rcases lists with ⟨unclosed, leaves, starts⟩
  cases starts with
  | @cons _ _ entry name granted total starts tells =>
      rw [Lists, marks_append, marks_of_mark rfl]
      refine ⟨_, leaves.ended (.told name titles.length granted total tells
        (JobEvent.ended_tellsEnd ..) returns fun steady => ?_), starts⟩
      exact congrArg Instant.mk (Nat.add_sub_cancel' (early steady))

theorem exists_entry (lists : Lists steady log titles) {title : JobTitle}
    (member : title ∈ titles) : ∃ entry ∈ log, entry.act.reading.now = title.startedAt := by
  rcases lists with ⟨unclosed, leaves, starts⟩
  rcases starts.exists_entry member with ⟨entry, listed, same⟩
  exact ⟨entry, List.mem_of_mem_filter (leaves.subset listed), same⟩

end Lists

end LogEntry

/-! ## Acts -/

namespace Monitor

open LogEntry

variable {α : Type} [Amount α] {monitor final first : Monitor α} {scope : Scope α}
  {outer : List (Scope α)} {steady : Prop} {act : Act} {clock later : Clock}
  {log : List (LogEntry α)} {sent : List Emission}

/-- While an act closes jobs: the log so far lists the jobs that are open now, none of which was
opened later than now if the clock is steady. -/
structure Midway (steady : Prop) (act : Act) (first : Monitor α) (log : List (LogEntry α))
    (clock : Clock) (monitor : Monitor α) : Prop where
  lists : Lists steady log monitor.titles
  early : steady → ∀ title ∈ monitor.titles, title.startedAt ≤ clock.now
  closed : ClosedDown act.reading.clock first clock monitor

theorem Midway.unmarked (midway : Midway steady act first log clock monitor) (event : JobEvent)
    (none : event.record.isMark = false) :
    Midway steady act first (log ++ act.entries first (Emission.ofJobEvent event)) clock
      monitor where
  lists := midway.lists.unmarked (by simpa using none)
  early := midway.early
  closed := midway.closed

theorem Midway.closeJob (midway : Midway steady act first log clock monitor)
    (stack : monitor.scopes = scope :: outer)
    (replied : ∀ name succeeded, act.deed = .call (.closeJob name succeeded) →
      (first.carryOut act).result = .ok (.units scope.settle.workDone))
    (name : String) (succeeded : Bool) :
    Midway steady act first
      (log ++ act.entries first (monitor.closeJob clock.now name succeeded).emitted)
      clock.next (monitor.closeJob clock.now name succeeded).monitor where
  lists := by
    have lists := midway.lists
    have early := midway.early
    rw [titles_closeJob]
    rw [titles_of_stack stack] at lists early ⊢
    have returns : act.Returns first (outer.map (·.title)).length scope.settle.workDone
        clock.now := by
      refine ⟨⟨clock, monitor, midway.closed, rfl, ?_, fun name succeeded => ?_⟩, replied⟩
      · rw [List.length_map]
        exact congrArg List.length stack
      · rw [closeJob_of_open stack]
    have stopped := lists.stop (fun steady => early steady _ List.mem_cons_self) returns succeeded
    rw [List.length_map] at stopped
    simp only [closeJob_of_open stack, Act.entries_append, Act.entries_ofCalls, List.nil_append,
      Act.entries_ofJobEvent]
    exact stopped
  early := fun steady title member => by
    rw [titles_closeJob] at member
    exact Nat.le_trans (midway.early steady title (List.mem_of_mem_tail member))
      clock.now_le_next
  closed := midway.closed.closeJob name succeeded

/-- An act that closes a job, but not as a call to close it, need not reply anything. -/
theorem Midway.closeInside (midway : Midway steady act first log clock monitor)
    (other : ∀ name succeeded, act.deed ≠ .call (.closeJob name succeeded)) (name : String)
    (succeeded : Bool) :
    Midway steady act first
      (log ++ act.entries first (monitor.closeJob clock.now name succeeded).emitted)
      clock.next (monitor.closeJob clock.now name succeeded).monitor := by
  cases stack : monitor.scopes with
  | nil =>
      have idle := midway.unmarked (.unbalancedEnd name) rfl
      have closed := midway.closed.closeJob name succeeded
      have none : monitor.titles = [] := titles_eq_nil stack
      rw [closeJob_of_idle stack] at closed ⊢
      refine ⟨idle.lists, fun _ title member => ?_, closed⟩
      exact absurd (none ▸ member : title ∈ []) List.not_mem_nil
  | cons scope outer =>
      exact midway.closeJob stack (fun name succeeded call => absurd call (other name succeeded))
        name succeeded

theorem Midway.closesAll {worked returned : Nat}
    (midway : Midway steady act first log clock monitor)
    (closes : ClosesAll clock worked monitor sent returned final)
    (other : ∀ name succeeded, act.deed ≠ .call (.closeJob name succeeded)) :
    Lists steady (log ++ act.entries first sent) final.titles := by
  induction closes generalizing log with
  | finished _ _ _ => simpa using midway.lists
  | turn _ _ _ _ induction =>
      rw [Act.entries_append, ← List.append_assoc]
      exact induction (midway.closeInside other _ false)

theorem Midway.unwinds {job : String} {depth : Nat}
    (midway : Midway steady act first log clock monitor)
    (unwinds : Unwinds job depth clock monitor sent later final)
    (other : ∀ name succeeded, act.deed ≠ .call (.closeJob name succeeded)) :
    Midway steady act first (log ++ act.entries first sent) later final := by
  induction unwinds generalizing log with
  | finished _ => simpa using midway
  | @turn clock _ monitor _ _ _ _ _ _ induction =>
      have announced : Midway steady act first _ clock monitor :=
        midway.unmarked (.leftOpen job (monitor.currentJob.getD "")) rfl
      rw [Act.entries_append, Act.entries_append, ← List.append_assoc, ← List.append_assoc]
      exact induction (announced.closeInside other _ false)

theorem openJob_lists (lists : Lists steady log monitor.titles) (name : String)
    (share totalWork : UInt32) :
    let opened := monitor.openJob act.reading.now name share totalWork
    Lists steady (log ++ act.entries first opened.emitted) opened.monitor.titles := by
  intro opened
  have nested {parent outer} (stack : monitor.scopes = parent :: outer) (granted : GrantedShare)
      {log : List (LogEntry α)} (lists : Lists steady log monitor.titles) :
      let nested := monitor.openNested parent outer act.reading.now name granted totalWork.toNat
      Lists steady (log ++ act.entries first nested.emitted) nested.monitor.titles := by
    intro nested
    have deep : outer.length + 1 = monitor.titles.length := by
      rw [length_titles, depth, stack, List.length_cons]
    have started := lists.start first act name (some granted) totalWork.toNat deep
    simp only [nested, titles_openNested stack]
    simpa [openNested] using started
  rcases monitor.openJob_cases act.reading.now name share totalWork with
    ⟨idle, equal⟩ | ⟨parent, outer, stack, _, equal⟩ | ⟨parent, outer, stack, _, _, equal⟩ |
    ⟨_, _, _, _, _, equal⟩
  · rw [titles_eq_nil idle] at lists
    have started := lists.start first act name none totalWork.toNat List.length_nil.symm
    simp only [opened, equal]
    simpa [openRoot, titles, Scope.title, Scope.ofView] using started
  · simp only [opened, equal]
    exact nested stack _ lists
  · simp only [opened, equal, Outcome.after_emitted, Outcome.after_monitor, Act.entries_append]
    rw [← List.append_assoc]
    exact nested stack _ (lists.unmarked (by simp; rfl))
  · simp only [opened, equal]
    simpa [refuse] using lists

omit [Amount α] in
theorem unmarked_of_asides (asides : ∀ event ∈ Emission.jobEvents sent, event.isAside) :
    ∀ entry ∈ act.entries first sent, entry.record.isMark = false := by
  intro entry member
  rcases List.mem_map.mp member with ⟨event, told, rfl⟩
  exact JobEvent.isMark_eq_false (asides event told)

theorem closeJob_lists (midway : Midway steady act monitor log act.reading.clock monitor)
    {name : String} {succeeded : Bool} (calls : act.deed = .call (.closeJob name succeeded)) :
    let closed := monitor.closeJob act.reading.now name succeeded
    Lists steady (log ++ act.entries monitor closed.emitted) closed.monitor.titles := by
  intro closed
  cases stack : monitor.scopes with
  | nil =>
      simp only [closed, closeJob_of_idle stack]
      exact (midway.unmarked (.unbalancedEnd name) rfl).lists
  | cons scope outer =>
      refine (midway.closeJob stack (fun _ _ _ => ?_) name succeeded).lists
      simp only [carryOut, calls, perform, closeJob_of_open stack]
      rfl

theorem conclude_lists (midway : Midway steady act first log act.reading.clock monitor)
    (other : ∀ name succeeded, act.deed ≠ .call (.closeJob name succeeded)) (job : String)
    (depth : Nat) (succeeded : Bool) :
    let concluded := monitor.conclude act.reading.clock job depth succeeded
    Lists steady (log ++ act.entries first concluded.emitted) concluded.monitor.titles := by
  intro concluded
  rcases monitor.conclude_unwinds act.reading.clock job depth succeeded with
    ⟨sent, later, unwound, unwinds, equal⟩
  have unwoundMidway := midway.unwinds unwinds other
  simp only [concluded, equal]
  split
  · rw [Outcome.after_emitted, Outcome.after_monitor, Act.entries_append, ← List.append_assoc]
    exact (unwoundMidway.closeInside other job succeeded).lists
  · exact unwoundMidway.lists

theorem carryOut_lists (lists : Lists steady log monitor.titles)
    (early : steady → ∀ title ∈ monitor.titles, title.startedAt ≤ act.reading.now) :
    let carried := monitor.carryOut act
    Lists steady (log ++ act.entries monitor carried.emitted) carried.monitor.titles := by
  have midway : Midway steady act monitor log act.reading.clock monitor := ⟨lists, early, .none⟩
  rcases act with ⟨reading, deed⟩
  cases deed with
  | call call =>
      cases call with
      | openJob name share totalWork => exact openJob_lists lists name share totalWork
      | step name detail share =>
          change Lists steady (log ++ _) (monitor.step name detail share).monitor.titles
          rw [titles_step]
          exact lists.unmarked (unmarked_of_asides (monitor.step_asides name detail share))
      | reestimate name work =>
          change Lists steady (log ++ _) (monitor.reestimate name work).monitor.titles
          rw [titles_reestimate]
          exact lists.unmarked (unmarked_of_asides (monitor.reestimate_asides name work))
      | closeJob name succeeded => exact closeJob_lists midway rfl
      | closeAll =>
          rcases monitor.closeInnermost_closesAll reading.clock 0 with ⟨_, _, closes⟩
          exact midway.closesAll closes fun _ _ => by simp
      | checkCanceled name =>
          exact lists.unmarked
            (unmarked_of_asides (monitor.checkCanceled_asides reading.clock name reading.canceled))
  | conclude job depth succeeded =>
      exact conclude_lists midway (fun _ _ => by simp) job depth succeeded
  | beside => simpa [carryOut] using lists

/-! ## Runs -/

theorem jobLog_lists (config : Config) {acts : List Act} (timely : steady → Act.Timely acts) :
    Lists steady ((ofConfig config : Monitor α).jobLog acts)
      ((ofConfig config : Monitor α).afterActs acts).titles := by
  induction acts using List.reverseRecOn with
  | nil => exact .nil steady
  | append_singleton acts act induction =>
      have ordered := fun holds => List.pairwise_append.mp (timely holds)
      have lists := induction fun holds => (ordered holds).1
      rw [jobLog_concat, afterActs_concat]
      refine carryOut_lists lists fun holds title member => ?_
      -- The clock has not been set back since a job that is still open was opened.
      rcases lists.exists_entry member with ⟨entry, logged, same⟩
      rw [← same]
      exact (ordered holds).2.2 entry.act (act_mem_of_mem_jobLog logged) act
        (List.mem_singleton_self act)

theorem jobLog_balances (config : Config) (acts : List Act) :
    ∃ rest, Leaves (Act.Timely acts) (marks ((ofConfig config : Monitor α).jobLog acts) ++ rest)
      [] := by
  rcases Act.exists_latest acts with ⟨now, latest⟩
  -- All jobs are closed when none of the acts is still to come.
  let closing : Act := ⟨⟨.frozen now now, false⟩, .call .closeAll⟩
  have timely (holds : Act.Timely acts) : Act.Timely (acts ++ [closing]) := by
    refine List.pairwise_append.mpr ⟨holds, List.pairwise_singleton _ _, ?_⟩
    intro act member last closes
    cases List.mem_singleton.mp closes
    exact latest act member
  have lists := jobLog_lists (α := α) config timely
  rw [jobLog_concat, afterActs_concat] at lists
  have idle := (((ofConfig config : Monitor α).afterActs acts).closeAll_idle (.frozen now now)).1
  rcases lists with ⟨unclosed, leaves, starts⟩
  have none : unclosed = [] := by
    have counted := starts.length_eq
    rw [length_titles] at counted
    exact List.length_eq_zero_iff.mp (counted.trans (congrArg List.length idle))
  rw [marks_append, none] at leaves
  exact ⟨_, leaves⟩

end Monitor

end JobProgress
