import JobProgress.RateLimited
import Mathlib.Data.List.Induction

/-! A sampler asks its query only when the answer it keeps is out of date. Which answer that
is can be read off a `SampleRecord` of all that the sampler was used for: going back from the
end, it is the answer of the first poll that is met, unless a reset is met before. -/

namespace JobProgress

def Sample.map {β γ : Type} (view : β → γ) : Sample β → Sample γ
  | .cached value => .cached (view value)
  | .polled value => .polled (view value)
  | .overflowed => .overflowed

structure PollWindow (β : Type) where
  deadline : Instant
  value : β
  deriving DecidableEq, Repr

namespace RateLimited

variable {β γ : Type} {limiter : RateLimited β} {limit now : Instant}

/-- The window of the last poll, until it is forgotten. -/
def window (limiter : RateLimited β) : Option (PollWindow β) :=
  match limiter.nextPoll, limiter.last with
  | some deadline, some value => some ⟨deadline, value⟩
  | _, _ => none

theorem nextPoll_eq_of_window {window : PollWindow β} (opened : limiter.window = some window) :
    limiter.nextPoll = some window.deadline ∧ limiter.last = some window.value := by
  rcases limiter with ⟨interval, nextPoll, last⟩
  cases nextPoll <;> cases last <;> cases opened
  exact ⟨rfl, rfl⟩

theorem isDue_eq (limiter : RateLimited β) (now : Instant) :
    limiter.isDue now = limiter.window.all fun window => window.deadline ≤ now := by
  rcases limiter with ⟨interval, nextPoll, last⟩
  cases nextPoll <;> cases last <;> rfl

theorem sample_of_due (due : limiter.isDue now = true) (fresh : β) :
    limiter.sample limit now fresh = limiter.poll limit now fresh := by
  rcases limiter with ⟨interval, nextPoll, last⟩
  cases nextPoll with
  | none => rfl
  | some deadline =>
      cases last with
      | none => rfl
      | some value =>
          have closed : deadline ≤ now := of_decide_eq_true due
          exact if_neg (Nat.not_lt_of_le closed)

theorem sample_of_not_due (early : limiter.isDue now = false) :
    ∃ window, limiter.window = some window ∧ now < window.deadline ∧
      ∀ fresh, limiter.sample limit now fresh = (limiter, .cached window.value) := by
  rcases limiter with ⟨interval, nextPoll, last⟩
  cases nextPoll with
  | none => cases early
  | some deadline =>
      cases last with
      | none => cases early
      | some value =>
          have inside : now < deadline := Nat.lt_of_not_le (of_decide_eq_false early)
          exact ⟨⟨deadline, value⟩, rfl, inside, fun _ => if_pos inside⟩

theorem poll_didPoll (limiter : RateLimited β) (limit now : Instant) (fresh : β) :
    (limiter.poll limit now fresh).2.didPoll = true := by
  rw [poll]
  split <;> rfl

theorem sample_didPoll (limiter : RateLimited β) (limit now : Instant) (fresh : β) :
    (limiter.sample limit now fresh).2.didPoll = limiter.isDue now := by
  cases due : limiter.isDue now with
  | true => rw [sample_of_due due, poll_didPoll]
  | false =>
      rcases sample_of_not_due due with ⟨window, _, _, cached⟩
      rw [cached]
      rfl

theorem poll_of_overflow (beyond : ¬ now.after limiter.interval ≤ limit) (fresh : β) :
    limiter.poll limit now fresh = (limiter, .overflowed) := by
  rw [poll, Instant.add?, if_neg beyond]

theorem poll_of_fits (fits : now.after limiter.interval ≤ limit) (fresh : β) :
    limiter.poll limit now fresh =
      (⟨limiter.interval, some (now.after limiter.interval), some fresh⟩, .polled fresh) := by
  rw [poll, Instant.add?, if_pos fits]

/-! ## Answers in another form -/

def map (view : β → γ) (limiter : RateLimited β) : RateLimited γ where
  interval := limiter.interval
  nextPoll := limiter.nextPoll
  last := limiter.last.map view

@[simp] theorem map_id (limiter : RateLimited β) : limiter.map id = limiter := by
  rw [map, Option.map_id, id]

theorem isDue_map (view : β → γ) : (limiter.map view).isDue now = limiter.isDue now := by
  rcases limiter with ⟨interval, nextPoll, last⟩
  cases nextPoll <;> cases last <;> rfl

theorem poll_map (view : β → γ) (fresh : β) :
    (limiter.map view).poll limit now (view fresh) =
      ((limiter.poll limit now fresh).1.map view,
        (limiter.poll limit now fresh).2.map view) := by
  rw [poll, poll, map]
  cases now.add? limit limiter.interval <;> rfl

theorem sample_map (view : β → γ) (fresh : β) :
    (limiter.map view).sample limit now (view fresh) =
      ((limiter.sample limit now fresh).1.map view,
        (limiter.sample limit now fresh).2.map view) := by
  cases due : limiter.isDue now with
  | true =>
      rw [sample_of_due ((isDue_map view).trans due), sample_of_due due, poll_map]
  | false =>
      rcases sample_of_not_due due with ⟨window, opened, inside, cached⟩
      rcases nextPoll_eq_of_window opened with ⟨deadline, value⟩
      rw [cached, sample, map, deadline, value]
      exact if_pos inside

end RateLimited

/-! ## Records

A record goes from use to use, and keeps an event for each. -/

inductive SamplerUse (β : Type) where
  | sample (now : Instant) (fresh : β)
  | reset
  deriving DecidableEq, Repr

inductive SamplerEvent (β : Type) where
  | sampled (now : Instant) (sample : Sample β)
  | reset
  deriving DecidableEq, Repr

structure CachedPoll (β : Type) where
  instant : Instant
  value : β
  deriving DecidableEq, Repr

namespace SamplerEvent

variable {β : Type}

/-- The poll that is cached from this event on, which is none after a reset. An event that
polls nothing, or whose poll is not cached, settles nothing. -/
def settles? : SamplerEvent β → Option (Option (CachedPoll β))
  | .sampled now (.polled value) => some (some ⟨now, value⟩)
  | .reset => some none
  | .sampled _ (.cached _) | .sampled _ .overflowed => none

def latestPoll (events : List (SamplerEvent β)) : Option (CachedPoll β) :=
  (events.reverse.findSome? settles?).join

example :
    latestPoll [.reset, .sampled ⟨3⟩ (.polled 'a'), .sampled ⟨4⟩ (.cached 'a'),
      .sampled ⟨9⟩ .overflowed] = some ⟨⟨3⟩, 'a'⟩ := by
  decide

variable {events between : List (SamplerEvent β)} {event : SamplerEvent β}

theorem latestPoll_concat (events : List (SamplerEvent β)) (event : SamplerEvent β) :
    latestPoll (events ++ [event]) = event.settles?.getD (latestPoll events) := by
  rw [latestPoll, List.reverse_concat, List.findSome?_cons, latestPoll]
  cases event.settles? <;> rfl

theorem latestPoll_append (unsettled : ∀ event ∈ between, event.settles? = none) :
    latestPoll (events ++ between) = latestPoll events := by
  have passed : between.reverse.findSome? settles? = none :=
    List.findSome?_eq_none_iff.mpr fun event member =>
      unsettled event (List.mem_reverse.mp member)
  rw [latestPoll, List.reverse_append, List.findSome?_append, passed, Option.none_or, latestPoll]

end SamplerEvent

open SamplerEvent

structure SampleRecord (β : Type) where
  limiter : RateLimited β
  events : List (SamplerEvent β)

namespace SampleRecord

variable {β : Type} {limit : Instant} {interval : Duration} {record : SampleRecord β}

def start (interval : Duration) : SampleRecord β := ⟨.ofInterval interval, []⟩

def add (limit : Instant) (record : SampleRecord β) : SamplerUse β → SampleRecord β
  | .sample now fresh =>
      let (limiter, sample) := record.limiter.sample limit now fresh
      ⟨limiter, record.events ++ [.sampled now sample]⟩
  | .reset => ⟨record.limiter.reset, record.events ++ [.reset]⟩

def ofUses (limit : Instant) (interval : Duration) (uses : List (SamplerUse β)) :
    SampleRecord β :=
  uses.foldl (add limit) (start interval)

theorem ofUses_concat (limit : Instant) (interval : Duration) (uses : List (SamplerUse β))
    (use : SamplerUse β) :
    ofUses limit interval (uses ++ [use]) = (ofUses limit interval uses).add limit use := by
  rw [ofUses, List.foldl_append]
  rfl

/-- What the sampler keeps is the latest cached poll: its answer, and the end of its window. -/
structure Kept (interval : Duration) (record : SampleRecord β) : Prop where
  interval_eq : record.limiter.interval = interval
  nextPoll_eq :
    record.limiter.nextPoll = (latestPoll record.events).map (·.instant.after interval)
  last_eq : record.limiter.last = (latestPoll record.events).map (·.value)

namespace Kept

theorem window_eq (kept : Kept interval record) :
    record.limiter.window = (latestPoll record.events).map fun poll =>
      ⟨poll.instant.after interval, poll.value⟩ := by
  rw [RateLimited.window, kept.nextPoll_eq, kept.last_eq]
  cases latestPoll record.events <;> rfl

theorem due_iff (kept : Kept interval record) (now : Instant) :
    record.limiter.isDue now = true ↔
      latestPoll record.events = none ∨
        ∃ poll, latestPoll record.events = some poll ∧ poll.instant.after interval ≤ now := by
  rw [RateLimited.isDue_eq, kept.window_eq]
  cases latestPoll record.events <;> simp

theorem cached_of_not_due (kept : Kept interval record) {now : Instant}
    (early : record.limiter.isDue now = false) :
    ∃ poll, latestPoll record.events = some poll ∧
      ∀ fresh, record.limiter.sample limit now fresh =
        (record.limiter, .cached poll.value) := by
  rcases RateLimited.sample_of_not_due early with ⟨window, opened, _, cached⟩
  rcases Option.map_eq_some_iff.mp (kept.window_eq.symm.trans opened) with ⟨poll, latest, rfl⟩
  exact ⟨poll, latest, cached⟩

theorem reset (kept : Kept interval record) : Kept interval (record.add limit .reset) := by
  have forgotten : latestPoll (record.add limit .reset).events = none :=
    latestPoll_concat record.events .reset
  refine ⟨kept.interval_eq, ?_, ?_⟩ <;> rw [forgotten] <;> rfl

theorem sample (kept : Kept interval record) (now : Instant) (fresh : β) :
    Kept interval (record.add limit (.sample now fresh)) := by
  have unsettled {sample : Sample β} (none : SamplerEvent.settles? (.sampled now sample) = none) :
      Kept interval ⟨record.limiter, record.events ++ [.sampled now sample]⟩ := by
    have same : latestPoll (record.events ++ [.sampled now sample]) =
        latestPoll record.events := by
      rw [latestPoll_concat, none, Option.getD_none]
    exact ⟨kept.interval_eq, same ▸ kept.nextPoll_eq, same ▸ kept.last_eq⟩
  rw [add]
  cases due : record.limiter.isDue now with
  | false =>
      rcases RateLimited.sample_of_not_due due with ⟨window, _, _, cached⟩
      rw [cached]
      exact unsettled rfl
  | true =>
      rw [RateLimited.sample_of_due due]
      by_cases fits : now.after record.limiter.interval ≤ limit
      · rw [RateLimited.poll_of_fits fits, kept.interval_eq]
        have latest : latestPoll (record.events ++ [.sampled now (.polled fresh)]) =
            some ⟨now, fresh⟩ := latestPoll_concat ..
        refine ⟨rfl, ?_, ?_⟩ <;> rw [latest] <;> rfl
      · rw [RateLimited.poll_of_overflow fits]
        exact unsettled rfl

end Kept

theorem kept_ofUses (limit : Instant) (interval : Duration) (uses : List (SamplerUse β)) :
    Kept interval (ofUses limit interval uses) := by
  induction uses using List.reverseRecOn with
  | nil => exact ⟨rfl, rfl, rfl⟩
  | append_singleton uses use induction =>
      rw [ofUses_concat]
      cases use with
      | sample now fresh => exact induction.sample now fresh
      | reset => exact induction.reset

theorem Kept.spaced {first second : Instant} {before after : β} (kept : Kept interval record)
    (cached : latestPoll record.events = some ⟨first, before⟩) {use : SamplerUse β}
    (polls : (record.add limit use).events = record.events ++ [.sampled second (.polled after)]) :
    first.after interval ≤ second := by
  cases use with
  | reset => cases List.append_cancel_left polls
  | sample now fresh =>
      have sampled : SamplerEvent.sampled now (record.limiter.sample limit now fresh).2 =
          .sampled second (.polled after) :=
        List.head_eq_of_cons_eq (List.append_cancel_left polls)
      injection sampled with now_eq polled
      have due : record.limiter.isDue now = true := by
        rw [← RateLimited.sample_didPoll record.limiter limit now fresh, polled]
        rfl
      rw [← now_eq]
      rcases (kept.due_iff now).mp due with none | ⟨poll, latest, late⟩
      · cases cached.symm.trans none
      · cases cached.symm.trans latest
        exact late

theorem add_events (limit : Instant) (record : SampleRecord β) (use : SamplerUse β) :
    ∃ event, (record.add limit use).events = record.events ++ [event] := by
  cases use <;> exact ⟨_, rfl⟩

theorem polls_spaced (limit : Instant) (interval : Duration) (uses : List (SamplerUse β))
    {earlier between later : List (SamplerEvent β)} {first second : Instant} {before after : β}
    (events : (ofUses limit interval uses).events =
      earlier ++ [.sampled first (.polled before)] ++ between ++
        .sampled second (.polled after) :: later)
    (unsettled : ∀ event ∈ between, event.settles? = none) :
    first.after interval ≤ second := by
  induction uses using List.reverseRecOn generalizing later with
  | nil => simp [ofUses, start] at events
  | append_singleton uses use induction =>
      rcases (ofUses limit interval uses).add_events limit use with ⟨event, added⟩
      rw [ofUses_concat, added] at events
      rcases List.eq_nil_or_concat later with rfl | ⟨rest, final, rfl⟩
      · -- The second poll is the use that was added last.
        rcases List.append_inj' events rfl with ⟨past, polled⟩
        have cached : latestPoll (ofUses limit interval uses).events = some ⟨first, before⟩ := by
          rw [past, latestPoll_append unsettled, latestPoll_concat]
          rfl
        exact (kept_ofUses limit interval uses).spaced cached (polled ▸ added)
      · rw [List.concat_eq_append, ← List.cons_append, ← List.append_assoc] at events
        exact induction (List.append_inj' events rfl).1

/-- A sampler asks its query when nothing is cached since it was made or reset, or when the
poll whose answer is cached is an interval ago. Else it gives that answer, which is the one it
gave last. A poll whose window would end beyond the clock changes nothing, so that the
answer and the end of its window stay; and without a reset the cached polls are an interval
apart, also where time goes backwards. -/
theorem sampled_once_per_interval (limit : Instant) (interval : Duration)
    (uses : List (SamplerUse β)) :
    let record := ofUses limit interval uses
    record.limiter.last = (latestPoll record.events).map (·.value) ∧
      record.limiter.nextPoll = (latestPoll record.events).map (·.instant.after interval) ∧
      (∀ now fresh,
        let sampled := record.limiter.sample limit now fresh
        let after := record.add limit (.sample now fresh)
        (sampled.2.didPoll = true ↔
          latestPoll record.events = none ∨
            ∃ poll, latestPoll record.events = some poll ∧
              poll.instant.after interval ≤ now) ∧
        record.limiter.isDue now = sampled.2.didPoll ∧
        (sampled.2.didPoll = false → ∃ poll, latestPoll record.events = some poll ∧
          sampled = (record.limiter, .cached poll.value)) ∧
        (sampled.2.didPoll = true → now.after interval ≤ limit →
          sampled.2 = .polled fresh) ∧
        (sampled.2.didPoll = true → ¬ now.after interval ≤ limit →
          sampled = (record.limiter, .overflowed)) ∧
        (sampled.2 ≠ .overflowed → ∃ poll, latestPoll after.events = some poll ∧
          sampled.2.value? = some poll.value ∧ after.limiter.last = some poll.value)) ∧
      ∀ earlier between later first second before after,
        record.events =
            earlier ++ [.sampled first (.polled before)] ++ between ++
              .sampled second (.polled after) :: later →
          (∀ event ∈ between, event.settles? = none) → first.after interval ≤ second := by
  intro record
  have kept : Kept interval record := kept_ofUses limit interval uses
  refine ⟨kept.last_eq, kept.nextPoll_eq, fun now fresh => ?_, fun _ _ _ _ _ _ _ =>
    polls_spaced limit interval uses⟩
  intro sampled after
  have last : after.limiter.last = (latestPoll after.events).map (·.value) :=
    (kept.sample now fresh).last_eq
  have added : latestPoll after.events =
      (SamplerEvent.sampled now sampled.2).settles?.getD (latestPoll record.events) :=
    latestPoll_concat record.events _
  have didPoll : sampled.2.didPoll = record.limiter.isDue now :=
    RateLimited.sample_didPoll record.limiter limit now fresh
  rw [last, added, ← kept.due_iff, didPoll, ← kept.interval_eq]
  refine ⟨Iff.rfl, rfl, ?_⟩
  cases due : record.limiter.isDue now with
  | false =>
      rcases kept.cached_of_not_due due with ⟨poll, latest, cached⟩
      have cached : sampled = (record.limiter, .cached poll.value) := cached fresh
      rw [cached]
      exact ⟨fun _ => ⟨poll, latest, rfl⟩, nofun, nofun, fun _ =>
        ⟨poll, latest, rfl, congrArg (Option.map _) latest⟩⟩
  | true =>
      have polls : sampled = record.limiter.poll limit now fresh :=
        RateLimited.sample_of_due due fresh
      refine ⟨nofun, fun _ fits => ?_, fun _ beyond => ?_, ?_⟩
      · rw [polls, RateLimited.poll_of_fits fits]
      · rw [polls, RateLimited.poll_of_overflow beyond]
      · by_cases fits : now.after record.limiter.interval ≤ limit
        · rw [polls, RateLimited.poll_of_fits fits]
          exact fun _ => ⟨⟨now, fresh⟩, rfl, rfl, rfl⟩
        · rw [polls, RateLimited.poll_of_overflow fits]
          exact fun gives => absurd rfl gives

/-- The second sample is from a clock that was set back, and the last one near the end of
the clock. -/
theorem sampled_once_per_interval_of_clock_set_back :
    let uses : List (SamplerUse Char) :=
      [.sample ⟨5⟩ 'a', .sample ⟨3⟩ 'b', .sample ⟨15⟩ 'c', .sample ⟨20⟩ 'd']
    let limit : Instant := ⟨99⟩
    let record := ofUses limit ⟨10⟩ uses
    record.events = [.sampled ⟨5⟩ (.polled 'a'), .sampled ⟨3⟩ (.cached 'a'),
        .sampled ⟨15⟩ (.polled 'c'), .sampled ⟨20⟩ (.cached 'c')] ∧
      record.limiter.last = some 'c' ∧
      (⟨5⟩ : Instant).after ⟨10⟩ ≤ ⟨15⟩ ∧
      record.limiter.sample limit ⟨90⟩ 'e' = (record.limiter, .overflowed) := by
  intro uses limit record
  have events : record.events = [.sampled ⟨5⟩ (.polled 'a'), .sampled ⟨3⟩ (.cached 'a'),
      .sampled ⟨15⟩ (.polled 'c'), .sampled ⟨20⟩ (.cached 'c')] := by decide
  rcases sampled_once_per_interval limit ⟨10⟩ uses with ⟨latest, _, samples, spaced⟩
  rcases samples ⟨90⟩ 'e' with ⟨_, _, _, _, overflowed, _⟩
  refine ⟨events, latest, ?_, overflowed (by decide) (by decide)⟩
  exact spaced [] [.sampled ⟨3⟩ (.cached 'a')] [.sampled ⟨20⟩ (.cached 'c')] ⟨5⟩ ⟨15⟩ 'a' 'c'
    events (by decide)

end SampleRecord

end JobProgress
