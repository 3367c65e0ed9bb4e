import JobProgress.Sink.Basic
import JobProgress.Units

namespace JobProgress

/-! A status bar shows one line: the task, the label below it, and how much of
the task is done in percent. -/

structure ProgressSnapshot where
  task : String
  subtask : Option String
  total : Nat
  worked : Nat
  done : Bool
  deriving DecidableEq, Repr

namespace ProgressSnapshot

def initial : ProgressSnapshot := ⟨"", none, 0, 0, false⟩

/-- How much of the task is done in percent, if its total is known. -/
def percentage (snapshot : ProgressSnapshot) : Option Nat :=
  if snapshot.total = 0 then
    none
  else
    some (Units.saturatingMul (min snapshot.worked snapshot.total) 100 / snapshot.total)

def subtaskText (snapshot : ProgressSnapshot) : String :=
  match snapshot.subtask with
  | none | some "" => ""
  | some label => ": " ++ label

/-- The percentage as it is shown: nothing without a total. -/
def percentageText (snapshot : ProgressSnapshot) : String :=
  match snapshot.percentage with
  | none => ""
  | some percentage => " (" ++ toString percentage ++ "%)"

def statusLine (snapshot : ProgressSnapshot) : String :=
  snapshot.task ++ snapshot.subtaskText ++ snapshot.percentageText

def apply (snapshot : ProgressSnapshot) : SinkCall → ProgressSnapshot
  | .taskName name => { snapshot with task := name }
  | .beginTask name total => ⟨name, none, total, 0, false⟩
  | .worked units => { snapshot with worked := Units.saturatingAdd snapshot.worked units }
  | .workRemaining _ => snapshot
  | .subTask name => { snapshot with subtask := some name }
  | .done =>
      { snapshot with worked := max snapshot.total snapshot.worked, subtask := none, done := true }

example :
    (ProgressSnapshot.mk "Indexing" (some "lib") 200 50 false).statusLine =
      "Indexing: lib (25%)" := by
  decide +kernel

end ProgressSnapshot

structure StatusSink where
  snapshot : ProgressSnapshot
  canceled : Bool
  deriving DecidableEq, Repr

namespace StatusSink

def initial : StatusSink := ⟨.initial, false⟩

def cancel (sink : StatusSink) : StatusSink := { sink with canceled := true }

instance : ProgressSink StatusSink where
  receive sink call := ({ sink with snapshot := sink.snapshot.apply call }, [])
  ask sink := (sink, sink.canceled)

end StatusSink

end JobProgress
