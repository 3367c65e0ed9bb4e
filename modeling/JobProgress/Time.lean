namespace JobProgress

/-! Time is counted in nanoseconds. A `Duration` has no limit of its own, but
only those whose seconds fit 64 bits can be put together from parts. An
`Instant` is counted from when its clock was started, and how far it can lie
ahead is up to the machine, so that moving an instant forward can fail. -/

structure Duration where
  nanoseconds : Nat
  deriving DecidableEq, Repr

namespace Duration

def nanosecondsPerSecond : Nat := 1000000000

def nanosecondsPerMillisecond : Nat := 1000000

def ofSeconds (seconds : Nat) : Duration := ⟨seconds * nanosecondsPerSecond⟩

def ofMilliseconds (milliseconds : Nat) : Duration :=
  ⟨milliseconds * nanosecondsPerMillisecond⟩

def seconds (duration : Duration) : Nat :=
  duration.nanoseconds / nanosecondsPerSecond

def subsecond (duration : Duration) : Nat :=
  duration.nanoseconds % nanosecondsPerSecond

def milliseconds (duration : Duration) : Nat :=
  duration.nanoseconds / nanosecondsPerMillisecond

/-- Seconds and nanoseconds together, if the whole seconds of both fit 64
bits. -/
def ofParts? (seconds nanoseconds : Nat) : Option Duration :=
  let whole : Duration := ⟨seconds * nanosecondsPerSecond + nanoseconds⟩
  if whole.seconds < 1 <<< 64 then some whole else none

instance : Add Duration := ⟨fun left right => ⟨left.nanoseconds + right.nanoseconds⟩⟩

end Duration

structure Instant where
  nanoseconds : Nat
  deriving DecidableEq, Repr

namespace Instant

def zero : Instant := ⟨0⟩

instance : LT Instant := ⟨fun left right => left.nanoseconds < right.nanoseconds⟩

instance : LE Instant := ⟨fun left right => left.nanoseconds ≤ right.nanoseconds⟩

instance : DecidableLT Instant :=
  fun left right => inferInstanceAs (Decidable (left.nanoseconds < right.nanoseconds))

instance : DecidableLE Instant :=
  fun left right => inferInstanceAs (Decidable (left.nanoseconds ≤ right.nanoseconds))

def after (instant : Instant) (duration : Duration) : Instant :=
  ⟨instant.nanoseconds + duration.nanoseconds⟩

def add? (instant limit : Instant) (duration : Duration) : Option Instant :=
  if instant.after duration ≤ limit then some (instant.after duration) else none

/-- Time passed since `earlier`; none has passed if it lies in the future. -/
def since (instant earlier : Instant) : Duration :=
  ⟨instant.nanoseconds - earlier.nanoseconds⟩

theorem le_after (instant : Instant) (duration : Duration) : instant ≤ instant.after duration :=
  Nat.le_add_right instant.nanoseconds duration.nanoseconds

end Instant

/-- What the time is read from. While several jobs are closed in one call time
may pass between them, so that each has a reading of its own. -/
structure Clock where
  now : Instant
  limit : Instant
  /-- How long it takes to close the next jobs, one after another. Where
  nothing is listed it takes no time. -/
  lapses : List Duration
  deriving DecidableEq, Repr

namespace Clock

def frozen (now limit : Instant) : Clock := ⟨now, limit, []⟩

def wait (clock : Clock) (duration : Duration) : Clock :=
  { clock with now := clock.now.after duration }

def next (clock : Clock) : Clock :=
  match clock.lapses with
  | [] => clock
  | lapse :: lapses => { clock.wait lapse with lapses }

def afterClosing (clock : Clock) : Nat → Clock
  | 0 => clock
  | count + 1 => clock.next.afterClosing count

variable (clock : Clock) (count : Nat)

@[simp] theorem afterClosing_zero : clock.afterClosing 0 = clock := rfl

theorem now_le_next : clock.now ≤ clock.next.now := by
  rw [next]
  split
  · exact Nat.le_refl _
  · next lapse _ _ => exact clock.now.le_after lapse

theorem now_le_afterClosing : clock.now ≤ (clock.afterClosing count).now := by
  induction count generalizing clock with
  | zero => exact Nat.le_refl _
  | succ count induction => exact Nat.le_trans clock.now_le_next (induction clock.next)

end Clock

end JobProgress
