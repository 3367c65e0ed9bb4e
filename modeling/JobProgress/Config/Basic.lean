import JobProgress.Time

namespace JobProgress

/-! A monitor has three settings, each with a default. -/

/-- What to do with a job that asks for more work than its parent has left. -/
inductive SharePolicy where
  | clamp
  | reject
  deriving DecidableEq, Repr

structure Config where
  cancelPollInterval : Duration
  /-- Work still expected of a job that has used up what it declared. -/
  overrunWork : UInt32
  sharePolicy : SharePolicy
  deriving DecidableEq, Repr

namespace Config

def default : Config where
  cancelPollInterval := .ofMilliseconds 100
  overrunWork := 200
  sharePolicy := .clamp

end Config

end JobProgress
