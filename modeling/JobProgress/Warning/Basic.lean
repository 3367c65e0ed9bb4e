import JobProgress.Log

namespace JobProgress

/-! Warnings raised while a job runs go to a warning sink. -/

class WarningSink (ω : Type) where
  /-- Take a warning, and tell what is to be logged about it. -/
  warn : ω → String → SourceLocation → ω × List LogEvent

def warningText (message : String) (location : SourceLocation) : String :=
  location.text ++ ": " ++ message

structure IgnoredWarnings where
  deriving DecidableEq, Repr

instance : WarningSink IgnoredWarnings where
  warn sink _ _ := (sink, [])

structure LoggedWarnings where
  deriving DecidableEq, Repr

instance : WarningSink LoggedWarnings where
  warn sink message location := (sink, [.warning message location])

structure RecordedWarnings where
  texts : List String
  deriving DecidableEq, Repr

instance : WarningSink RecordedWarnings where
  warn sink message location :=
    ({ texts := sink.texts ++ [warningText message location] }, [])

end JobProgress
