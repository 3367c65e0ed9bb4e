import JobProgress.Proofs.Course
import JobProgress.Proofs.LogLines
import JobProgress.Proofs.Unwinding

/-! The `jobLog` of a monitor lists the lines that the monitor logs itself, each with what was
done when it was logged. Which instants are read meanwhile is left open here, so a clock may even
be set back. -/

namespace JobProgress

def Emission.jobEvents (emissions : List Emission) : List JobEvent :=
  emissions.filterMap fun
    | .event (.job logged) => some logged
    | _ => none

namespace Emission

@[simp] theorem jobEvents_nil : jobEvents [] = [] := rfl

@[simp] theorem jobEvents_append (first second : List Emission) :
    jobEvents (first ++ second) = jobEvents first ++ jobEvents second :=
  List.filterMap_append ..

@[simp] theorem jobEvents_ofCalls (calls : List SinkCall) : jobEvents (ofCalls calls) = [] := by
  simp [jobEvents, ofCalls]

@[simp] theorem jobEvents_ofJobEvent (event : JobEvent) :
    jobEvents (ofJobEvent event) = [event] := rfl

@[simp] theorem jobEvents_ofSinkEvents (events : List SinkEvent) :
    jobEvents (ofSinkEvents events) = [] := by
  simp [jobEvents, ofSinkEvents]

end Emission

def JobEvent.isAside : JobEvent → Bool
  | .stepped .. | .rescaled .. | .polled .. => true
  | _ => false

/-- Something done with a monitor, and what the monitor reads from its surroundings for it. -/
structure Act where
  reading : Reading
  deed : Deed
  deriving DecidableEq, Repr

structure LogEntry (α : Type) where
  /-- The monitor before the act that the line belongs to. -/
  monitor : Monitor α
  act : Act
  record : LogRecord

def Act.entries {α : Type} (act : Act) (monitor : Monitor α) (sent : List Emission) :
    List (LogEntry α) :=
  (Emission.jobEvents sent).map fun event => ⟨monitor, act, event.record⟩

namespace Act

def Timely (acts : List Act) : Prop :=
  acts.Pairwise fun earlier later => earlier.reading.now ≤ later.reading.now

theorem exists_latest (acts : List Act) : ∃ now, ∀ act ∈ acts, act.reading.now ≤ now := by
  induction acts with
  | nil => exact ⟨.zero, fun _ member => nomatch member⟩
  | cons first acts induction =>
      rcases induction with ⟨now, latest⟩
      refine ⟨⟨max first.reading.now.nanoseconds now.nanoseconds⟩, fun act member => ?_⟩
      rcases List.mem_cons.mp member with rfl | member
      · exact Nat.le_max_left ..
      · exact Nat.le_trans (latest act member) (Nat.le_max_right ..)

variable {α : Type} {act : Act} {monitor : Monitor α}

@[simp] theorem entries_nil : act.entries monitor [] = [] := rfl

@[simp] theorem entries_append (first second : List Emission) :
    act.entries monitor (first ++ second) =
      act.entries monitor first ++ act.entries monitor second := by
  simp [entries]

@[simp] theorem entries_ofCalls (calls : List SinkCall) :
    act.entries monitor (Emission.ofCalls calls) = [] := by
  simp [entries]

@[simp] theorem entries_ofJobEvent (event : JobEvent) :
    act.entries monitor (Emission.ofJobEvent event) = [⟨monitor, act, event.record⟩] := rfl

end Act

namespace Monitor

variable {α : Type} [Amount α]

theorem step_asides (monitor : Monitor α) (name detail : String) (share : UInt32) :
    ∀ event ∈ Emission.jobEvents (monitor.step name detail share).emitted, event.isAside := by
  cases stack : monitor.scopes with
  | nil => simp [step_of_idle stack, refuse]
  | cons scope outer => simp [step_of_open stack, JobEvent.isAside]

theorem reestimate_asides (monitor : Monitor α) (name : String) (work : UInt32) :
    ∀ event ∈ Emission.jobEvents (monitor.reestimate name work).emitted, event.isAside := by
  cases stack : monitor.scopes with
  | nil => simp [reestimate_of_idle stack, refuse]
  | cons scope outer => simp [reestimate_of_open stack, JobEvent.isAside]

omit [Amount α] in
theorem checkCanceled_asides (monitor : Monitor α) (clock : Clock) (name : String)
    (answer : Bool) :
    ∀ event ∈ Emission.jobEvents (monitor.checkCanceled clock name answer).emitted,
      event.isAside := by
  rw [checkCanceled]
  dsimp only
  split <;> simp [JobEvent.isAside]

def carryOut (monitor : Monitor α) (act : Act) : Outcome α Reply :=
  match act.deed with
  | .call call => monitor.perform act.reading call
  | .conclude job depth succeeded =>
      (monitor.conclude act.reading.clock job depth succeeded).map fun () => .nothing
  | .beside => ⟨.ok .nothing, monitor, []⟩

def afterActs (monitor : Monitor α) (acts : List Act) : Monitor α :=
  acts.foldl (fun monitor act => (monitor.carryOut act).monitor) monitor

def jobLog (monitor : Monitor α) : List Act → List (LogEntry α)
  | [] => []
  | act :: acts =>
      act.entries monitor (monitor.carryOut act).emitted ++
        (monitor.carryOut act).monitor.jobLog acts

theorem afterActs_append (monitor : Monitor α) (earlier later : List Act) :
    monitor.afterActs (earlier ++ later) = (monitor.afterActs earlier).afterActs later :=
  List.foldl_append

theorem jobLog_append (monitor : Monitor α) (earlier later : List Act) :
    monitor.jobLog (earlier ++ later) =
      monitor.jobLog earlier ++ (monitor.afterActs earlier).jobLog later := by
  induction earlier generalizing monitor with
  | nil => rfl
  | cons act earlier induction =>
      rw [List.cons_append, jobLog, induction, jobLog, List.append_assoc]
      rfl

theorem jobLog_concat (monitor : Monitor α) (acts : List Act) (act : Act) :
    monitor.jobLog (acts ++ [act]) =
      monitor.jobLog acts ++
        act.entries (monitor.afterActs acts) ((monitor.afterActs acts).carryOut act).emitted := by
  rw [jobLog_append, jobLog, jobLog, List.append_nil]

theorem afterActs_concat (monitor : Monitor α) (acts : List Act) (act : Act) :
    monitor.afterActs (acts ++ [act]) = ((monitor.afterActs acts).carryOut act).monitor :=
  monitor.afterActs_append acts [act]

/-- Where an entry stands in a log, an act made it, after the acts that made what precedes it. -/
theorem exists_of_jobLog_eq {monitor : Monitor α} {acts : List Act}
    {before after : List (LogEntry α)} {entry : LogEntry α}
    (log : monitor.jobLog acts = before ++ entry :: after) :
    ∃ earlier act later front back,
      acts = earlier ++ act :: later ∧
      act.entries (monitor.afterActs earlier) ((monitor.afterActs earlier).carryOut act).emitted =
        front ++ entry :: back ∧
      before = monitor.jobLog earlier ++ front := by
  induction acts generalizing monitor before with
  | nil => simp [jobLog] at log
  | cons act acts induction =>
      rw [jobLog] at log
      -- The entry is one of those that the first act makes, or it comes after all of them.
      rcases List.append_eq_append_iff.mp log with
        ⟨rest, split, log⟩ | ⟨segment, split, log⟩
      · rcases induction log with ⟨earlier, found, later, front, back, rfl, made, rfl⟩
        refine ⟨act :: earlier, found, later, front, back, rfl, made, ?_⟩
        rw [split, jobLog, List.append_assoc]
      · cases segment with
        | nil =>
            have rest : (monitor.carryOut act).monitor.jobLog acts = [] ++ entry :: after :=
              log.symm
            rcases induction rest with
              ⟨earlier, found, later, front, back, rfl, made, empty⟩
            refine ⟨act :: earlier, found, later, front, back, rfl, made, ?_⟩
            rw [List.append_nil] at split
            rw [jobLog, List.append_assoc, ← empty, List.append_nil, split]
        | cons head segment =>
            rw [List.cons_append] at log
            cases log
            exact ⟨[], act, acts, before, segment, rfl, split, rfl⟩

theorem act_mem_of_mem_jobLog {monitor : Monitor α} {acts : List Act} {entry : LogEntry α}
    (logged : entry ∈ monitor.jobLog acts) : entry.act ∈ acts := by
  rcases List.mem_iff_append.mp logged with ⟨before, after, log⟩
  rcases exists_of_jobLog_eq log with ⟨earlier, act, later, front, back, rfl, made, _⟩
  have own : entry ∈ act.entries (monitor.afterActs earlier) _ := made ▸ List.mem_append_cons_self
  rcases List.mem_map.mp own with ⟨event, _, rfl⟩
  exact List.mem_append_cons_self

theorem Reachable.carryOut {monitor : Monitor α} (reachable : monitor.Reachable) (act : Act) :
    (monitor.carryOut act).monitor.Reachable := by
  rcases act with ⟨reading, deed⟩
  cases deed with
  | call call => exact .perform reading call reachable
  | conclude job depth succeeded => exact .conclude reading.clock job depth succeeded reachable
  | beside => exact reachable

theorem Reachable.afterActs {monitor : Monitor α} (reachable : monitor.Reachable)
    (acts : List Act) : (monitor.afterActs acts).Reachable := by
  induction acts generalizing monitor with
  | nil => exact reachable
  | cons act acts induction => exact induction (reachable.carryOut act)

theorem carryOut_config (monitor : Monitor α) (act : Act) :
    (monitor.carryOut act).monitor.config = monitor.config := by
  rcases act with ⟨reading, deed⟩
  cases deed with
  | call call => exact monitor.perform_config reading call
  | conclude job depth succeeded =>
      exact (monitor.conclude_trace reading.clock job depth succeeded).config_eq
  | beside => rfl

theorem afterActs_config (monitor : Monitor α) (acts : List Act) :
    (monitor.afterActs acts).config = monitor.config := by
  induction acts generalizing monitor with
  | nil => rfl
  | cons act acts induction => exact (induction _).trans (monitor.carryOut_config act)

end Monitor

end JobProgress
