import JobProgress.Time

namespace JobProgress

/-! A query that is expensive to answer is asked at most once per interval.
Between two real polls the last answer stands: each poll opens a window that
closes one interval later, and inside the window the cached answer is given. -/

structure RateLimited (β : Type) where
  interval : Duration
  /-- The instant from which on the last answer is out of date. -/
  nextPoll : Option Instant
  last : Option β
  deriving DecidableEq, Repr

inductive Sample (β : Type) where
  | cached (value : β)
  | polled (value : β)
  /-- The query was polled, but its window would end beyond the clock. -/
  | overflowed
  deriving DecidableEq, Repr

namespace Sample

def value? {β : Type} : Sample β → Option β
  | .cached value | .polled value => some value
  | .overflowed => none

def didPoll {β : Type} : Sample β → Bool
  | .cached _ => false
  | .polled _ | .overflowed => true

end Sample

namespace RateLimited

variable {β : Type}

def ofInterval (interval : Duration) : RateLimited β := ⟨interval, none, none⟩

def reset (limiter : RateLimited β) : RateLimited β :=
  { limiter with nextPoll := none, last := none }

/-- Open a new window at `now` with the answer `fresh`. A window that would
end beyond the `limit` of the clock is not opened. -/
def poll (limiter : RateLimited β) (limit now : Instant) (fresh : β) :
    RateLimited β × Sample β :=
  match now.add? limit limiter.interval with
  | some deadline =>
      ({ limiter with nextPoll := some deadline, last := some fresh }, .polled fresh)
  | none => (limiter, .overflowed)

def sample (limiter : RateLimited β) (limit now : Instant) (fresh : β) :
    RateLimited β × Sample β :=
  match limiter.nextPoll, limiter.last with
  | some deadline, some value =>
      if now < deadline then (limiter, .cached value) else limiter.poll limit now fresh
  | _, _ => limiter.poll limit now fresh

def isDue (limiter : RateLimited β) (now : Instant) : Bool :=
  match limiter.nextPoll, limiter.last with
  | some deadline, some _ => deadline ≤ now
  | _, _ => true

example :
    let first := (ofInterval ⟨10⟩ : RateLimited Bool).sample ⟨99⟩ ⟨0⟩ false
    first.2 = .polled false ∧
      (first.1.sample ⟨99⟩ ⟨9⟩ true).2 = .cached false ∧
      (first.1.sample ⟨99⟩ ⟨10⟩ true).2 = .polled true := by
  decide

end RateLimited

end JobProgress
