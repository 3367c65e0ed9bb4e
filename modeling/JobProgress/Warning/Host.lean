import JobProgress.Warning.Writer

namespace JobProgress

/-! A host picks where warnings go when it starts. -/

inductive HostWarnings where
  | ignored (sink : IgnoredWarnings)
  | logged (sink : LoggedWarnings)
  | recorded (sink : RecordedWarnings)
  | written (sink : WrittenWarnings)
  deriving DecidableEq, Repr

namespace HostWarnings

def texts : HostWarnings → List String
  | .recorded sink => sink.texts
  | _ => []

def output : HostWarnings → ByteOutput
  | .written sink => sink.output
  | _ => .ofLimit none

instance : WarningSink HostWarnings where
  warn
    | .ignored sink, message, location =>
        let (sink, events) := WarningSink.warn sink message location
        (.ignored sink, events)
    | .logged sink, message, location =>
        let (sink, events) := WarningSink.warn sink message location
        (.logged sink, events)
    | .recorded sink, message, location =>
        let (sink, events) := WarningSink.warn sink message location
        (.recorded sink, events)
    | .written sink, message, location =>
        let (sink, events) := WarningSink.warn sink message location
        (.written sink, events)

end HostWarnings

end JobProgress
