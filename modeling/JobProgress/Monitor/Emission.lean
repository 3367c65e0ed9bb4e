import JobProgress.Log
import JobProgress.Sink.Call

namespace JobProgress

/-! A call to a monitor sends out calls for the sink and events for the log.
Their order is kept across the kinds, because a sink may log as well. A sink
that is shared also takes calls that no monitor made. -/

inductive Emission where
  | call (call : SinkCall)
  /-- A call that someone else makes on the sink. -/
  | foreign (call : SinkCall)
  | event (event : LogEvent)
  deriving DecidableEq, Repr

namespace Emission

def sinkCalls (emissions : List Emission) : List SinkCall :=
  emissions.filterMap fun
    | .call sent => some sent
    | .foreign _ | .event _ => none

/-- The calls a sink takes among emissions, whoever makes them. -/
def received (emissions : List Emission) : List SinkCall :=
  emissions.filterMap fun
    | .call sent | .foreign sent => some sent
    | .event _ => none

def logEvents (emissions : List Emission) : List LogEvent :=
  emissions.filterMap fun
    | .call _ | .foreign _ => none
    | .event logged => some logged

def ofCalls (calls : List SinkCall) : List Emission := calls.map .call

def ofJobEvent (event : JobEvent) : List Emission := [.event (.job event)]

def ofSinkEvents (events : List SinkEvent) : List Emission :=
  events.map fun event => .event (.sink event)

@[simp] theorem sinkCalls_nil : sinkCalls [] = [] := rfl

@[simp] theorem sinkCalls_cons_call (call : SinkCall) (emissions : List Emission) :
    sinkCalls (.call call :: emissions) = call :: sinkCalls emissions := rfl

@[simp] theorem sinkCalls_cons_foreign (call : SinkCall) (emissions : List Emission) :
    sinkCalls (.foreign call :: emissions) = sinkCalls emissions := rfl

@[simp] theorem sinkCalls_cons_event (event : LogEvent) (emissions : List Emission) :
    sinkCalls (.event event :: emissions) = sinkCalls emissions := rfl

@[simp] theorem sinkCalls_append (first second : List Emission) :
    sinkCalls (first ++ second) = sinkCalls first ++ sinkCalls second :=
  List.filterMap_append ..

@[simp] theorem sinkCalls_ofCalls (calls : List SinkCall) :
    sinkCalls (ofCalls calls) = calls := by
  induction calls with
  | nil => rfl
  | cons call calls inductionHypothesis => exact congrArg (call :: ·) inductionHypothesis

@[simp] theorem sinkCalls_ofJobEvent (event : JobEvent) :
    sinkCalls (ofJobEvent event) = [] := rfl

@[simp] theorem sinkCalls_ofLogEvents (events : List LogEvent) :
    sinkCalls (events.map .event) = [] := by
  simp [sinkCalls]

@[simp] theorem received_append (first second : List Emission) :
    received (first ++ second) = received first ++ received second :=
  List.filterMap_append ..

@[simp] theorem received_ofCalls (calls : List SinkCall) : received (ofCalls calls) = calls := by
  induction calls with
  | nil => rfl
  | cons call calls inductionHypothesis => exact congrArg (call :: ·) inductionHypothesis

@[simp] theorem received_ofJobEvent (event : JobEvent) : received (ofJobEvent event) = [] := rfl

@[simp] theorem received_ofLogEvents (events : List LogEvent) :
    received (events.map .event) = [] := by
  simp [received]

@[simp] theorem sinkCalls_ofSinkEvents (events : List SinkEvent) :
    sinkCalls (ofSinkEvents events) = [] := by
  simp [sinkCalls, ofSinkEvents]

@[simp] theorem received_ofSinkEvents (events : List SinkEvent) :
    received (ofSinkEvents events) = [] := by
  simp [received, ofSinkEvents]

end Emission

end JobProgress
