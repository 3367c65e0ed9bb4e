import JobProgress.Proofs.Asks
import JobProgress.Sink.Polled

/-! Cancellation is noticed in time, and at a bounded cost. The sink is asked at most
once per interval, so what is answered may be out of date, but never for longer than one
interval; and where the flag of a sink stays up once it is, so does the answer. -/

namespace JobProgress

/-- Times between `start` and `finish`, each at least `gap` after the one before. -/
theorem length_mul_le_of_spaced (start finish : Nat) {gap : Nat} {times : List Nat}
    (spaced : times.Pairwise (fun earlier later => earlier + gap ≤ later))
    (within : ∀ time ∈ times, start ≤ time ∧ time ≤ finish) (order : start ≤ finish + gap) :
    start + times.length * gap ≤ finish + gap := by
  induction times generalizing start with
  | nil => simpa using order
  | cons time times induction =>
      rcases List.pairwise_cons.mp spaced with ⟨gaps, rest⟩
      rcases List.forall_mem_cons.mp within with ⟨⟨afterStart, inTime⟩, restWithin⟩
      have counted := induction (time + gap) rest
        (fun later member => ⟨gaps later member, (restWithin later member).2⟩)
        (Nat.add_le_add_right inTime gap)
      rw [List.length_cons, Nat.succ_mul]
      omega

/-- Checks of a sampler one after another, from the window that stands at first. -/
inductive Samples (interval : Duration) : Option (PollWindow Bool) → List Check → Prop
  | nil (last) : Samples interval last []
  | cached {window : PollWindow Bool} {reading checks} :
      reading.now < window.deadline →
      Samples interval (some window) checks →
      Samples interval (some window) (⟨reading, some window.value, false⟩ :: checks)
  | polled {last : Option (PollWindow Bool)} {reading checks} :
      (∀ window ∈ last, window.deadline ≤ reading.now) →
      Samples interval (some ⟨reading.now.after interval, reading.canceled⟩) checks →
      Samples interval last (⟨reading, some reading.canceled, true⟩ :: checks)

theorem RateLimited.checks_samples (limiter : RateLimited Bool) {readings : List Reading}
    (inTime : ∀ reading ∈ readings,
      reading.now.after limiter.interval ≤ reading.clock.limit) :
    Samples limiter.interval limiter.window (limiter.checks readings) := by
  induction readings generalizing limiter with
  | nil => exact .nil _
  | cons reading readings induction =>
      rcases List.forall_mem_cons.mp inTime with ⟨fits, rest⟩
      rw [checks, sampleAt]
      cases due : limiter.isDue reading.now with
      | false =>
          rcases sample_of_not_due due with ⟨window, standing, inside, cached⟩
          rw [cached, standing]
          exact .cached inside (standing ▸ induction limiter rest)
      | true =>
          rw [sample_of_due due, poll_of_fits fits]
          have next := induction
            ⟨limiter.interval, some (reading.now.after limiter.interval), some reading.canceled⟩
            rest
          refine .polled (fun window standing => ?_) next
          simpa [isDue_eq, Option.mem_def.mp standing] using due

namespace Samples

variable {interval : Duration} {last : Option (PollWindow Bool)} {checks : List Check}

theorem all_true (samples : Samples interval last checks)
    (standing : ∀ window ∈ last, window.value = true)
    (raised : ∀ check ∈ checks, check.reading.canceled = true) :
    ∀ check ∈ checks, check.answer = some true := by
  induction samples with
  | nil => exact fun _ member => absurd member List.not_mem_nil
  | cached inside _ induction =>
      refine List.forall_mem_cons.mpr ⟨congrArg some (standing _ rfl), ?_⟩
      exact induction standing (List.forall_mem_cons.mp raised).2
  | polled closed _ induction =>
      rcases List.forall_mem_cons.mp raised with ⟨first, rest⟩
      refine List.forall_mem_cons.mpr ⟨congrArg some first, induction ?_ rest⟩
      rintro _ ⟨⟩
      exact first

theorem calm (samples : Samples interval last checks)
    (standing : ∀ window ∈ last, window.value = true →
      ∀ check ∈ checks, check.reading.canceled = true)
    (sticky : checks.Pairwise fun earlier later =>
      earlier.reading.canceled = true → later.reading.canceled = true) :
    ∀ check ∈ checks, check.reading.canceled = false → check.answer = some false := by
  induction samples with
  | nil => exact fun _ member => absurd member List.not_mem_nil
  | @cached window reading checks inside _ induction =>
      have rest := induction
        (fun other same up check member =>
          standing other same up check (List.mem_cons_of_mem _ member))
        (List.pairwise_cons.mp sticky).2
      refine List.forall_mem_cons.mpr ⟨fun down => ?_, rest⟩
      cases value : window.value with
      | false => rfl
      | true =>
          have up := standing window rfl value _ List.mem_cons_self
          cases down.symm.trans up
  | polled closed _ induction =>
      rcases List.pairwise_cons.mp sticky with ⟨fromFirst, rest⟩
      refine List.forall_mem_cons.mpr ⟨fun down => congrArg some down, induction ?_ rest⟩
      rintro _ ⟨⟩ up check member
      exact fromFirst check member up

theorem stays (samples : Samples interval last checks)
    (standing : ∀ window ∈ last, window.value = true →
      ∀ check ∈ checks, check.reading.canceled = true)
    (sticky : checks.Pairwise fun earlier later =>
      earlier.reading.canceled = true → later.reading.canceled = true) :
    checks.Pairwise fun earlier later =>
      earlier.answer = some true → later.answer = some true := by
  induction samples with
  | nil => exact .nil
  | @cached window reading checks inside rest induction =>
      have standingLater : ∀ other ∈ some window, other.value = true →
          ∀ check ∈ checks, check.reading.canceled = true :=
        fun other same up check member =>
          standing other same up check (List.mem_cons_of_mem _ member)
      refine List.pairwise_cons.mpr
        ⟨fun later member answered => ?_, induction standingLater (List.pairwise_cons.mp sticky).2⟩
      have up : window.value = true := Option.some.inj answered
      refine rest.all_true ?_ (standingLater window rfl up) later member
      rintro _ ⟨⟩
      exact up
  | @polled last reading checks closed rest induction =>
      rcases List.pairwise_cons.mp sticky with ⟨fromFirst, stickyLater⟩
      have standingLater : ∀ other ∈ some (PollWindow.mk (reading.now.after interval)
          reading.canceled), other.value = true →
          ∀ check ∈ checks, check.reading.canceled = true := by
        rintro _ ⟨⟩ up check member
        exact fromFirst check member up
      refine List.pairwise_cons.mpr
        ⟨fun later member answered => ?_, induction standingLater stickyLater⟩
      have up : reading.canceled = true := Option.some.inj answered
      refine rest.all_true ?_ (standingLater _ rfl up) later member
      rintro _ ⟨⟩
      exact up

/-- An answer that is out of date does not stand beyond `limit`, if no flag was seen down
later than an interval before. -/
theorem in_time (limit : Instant) (samples : Samples interval last checks)
    (standing : ∀ window ∈ last, window.value = false → window.deadline ≤ limit)
    (down : ∀ check ∈ checks, check.reading.canceled = false →
      check.reading.now.after interval ≤ limit) :
    ∀ check ∈ checks, check.reading.canceled = true → limit ≤ check.reading.now →
      check.answer = some true := by
  induction samples with
  | nil => exact fun _ member => absurd member List.not_mem_nil
  | @cached window reading checks inside _ induction =>
      refine List.forall_mem_cons.mpr
        ⟨fun _ late => ?_, induction standing (List.forall_mem_cons.mp down).2⟩
      cases value : window.value with
      | true => rfl
      | false =>
          -- The window of an outdated answer has closed by now, so the sink would be asked.
          have closed : window.deadline ≤ reading.now :=
            Nat.le_trans (standing window rfl value) late
          exact absurd inside (Nat.not_lt_of_le closed)
  | polled closed _ induction =>
      rcases List.forall_mem_cons.mp down with ⟨first, rest⟩
      refine List.forall_mem_cons.mpr ⟨fun up _ => congrArg some up, induction ?_ rest⟩
      rintro _ ⟨⟩ value
      exact first value

theorem deadline_le (samples : Samples interval last checks) :
    ∀ window ∈ last, ∀ check ∈ checks, check.polled = true →
      window.deadline ≤ check.reading.now := by
  induction samples with
  | nil => exact fun _ _ _ member => absurd member List.not_mem_nil
  | cached inside _ induction =>
      exact fun window standing => List.forall_mem_cons.mpr
        ⟨fun asked => (Bool.false_ne_true asked).elim, induction window standing⟩
  | @polled last reading checks closed _ induction =>
      refine fun window standing => List.forall_mem_cons.mpr
        ⟨fun _ => closed window standing, fun later member asked => ?_⟩
      have next : reading.now.after interval ≤ later.reading.now :=
        induction _ rfl later member asked
      exact Nat.le_trans (closed window standing)
        (Nat.le_trans (Nat.le_add_right _ interval.nanoseconds) next)

theorem spaced (samples : Samples interval last checks) :
    checks.Pairwise fun earlier later => earlier.polled = true → later.polled = true →
      earlier.reading.now.after interval ≤ later.reading.now := by
  induction samples with
  | nil => exact .nil
  | cached _ _ induction =>
      exact List.pairwise_cons.mpr
        ⟨fun _ _ asked => (Bool.false_ne_true asked).elim, induction⟩
  | polled _ rest induction =>
      exact List.pairwise_cons.mpr
        ⟨fun later member _ asked => rest.deadline_le _ rfl later member asked, induction⟩

end Samples

theorem Samples.polls_le {interval : Duration} {last : Option (PollWindow Bool)}
    {checks : List Check} (samples : Samples interval last checks)
    (positive : 0 < interval.nanoseconds) (start : Instant) (length : Duration) :
    (checks.filter (·.polledWithin start length)).length ≤
      length.nanoseconds / interval.nanoseconds + 1 := by
  have within : ∀ check ∈ checks.filter (·.polledWithin start length),
      check.polled = true ∧ start ≤ check.reading.now ∧
        check.reading.now ≤ start.after length := by
    intro check member
    have passed := (List.mem_filter.mp member).2
    simp only [Check.polledWithin, Bool.and_eq_true, decide_eq_true_eq] at passed
    exact ⟨passed.1.1, passed.1.2, passed.2⟩
  have apart : ((checks.filter (·.polledWithin start length)).map
      (·.reading.now.nanoseconds)).Pairwise
        (fun earlier later => earlier + interval.nanoseconds ≤ later) := by
    refine List.pairwise_map.mpr ((samples.spaced.filter _).imp_of_mem ?_)
    intro earlier later earlierIn laterIn gap
    exact gap (within earlier earlierIn).1 (within later laterIn).1
  have counted := length_mul_le_of_spaced start.nanoseconds
    (start.nanoseconds + length.nanoseconds) apart
    (fun time member => by
      rcases List.mem_map.mp member with ⟨check, passed, rfl⟩
      exact (within check passed).2)
    (by omega)
  rw [List.length_map] at counted
  rw [← Nat.add_div_right _ positive]
  apply (Nat.le_div_iff_mul_le positive).mpr
  omega

namespace Session

variable {σ ω α : Type} [ProgressSink σ] [Amount α] {session final : Session σ ω α}
  {occurrences : List (Occurrence σ ω α)}

namespace Unfolds

theorem befores_prefix (unfolds : Unfolds session occurrences final) :
    occurrences.map (·.before) <+: session :: occurrences.map (·.after.session) := by
  induction unfolds with
  | nil => exact List.nil_prefix
  | cons _ _ induction => exact List.cons_prefix_cons.mpr ⟨rfl, induction⟩

theorem now_pairwise (unfolds : Unfolds session occurrences final) :
    (session :: occurrences.map (·.after.session)).Pairwise fun earlier later =>
      earlier.now ≤ later.now := by
  induction unfolds with
  | nil session => exact List.pairwise_singleton ..
  | @cons occurrence occurrences final occurs _ induction =>
      refine List.pairwise_cons.mpr ⟨fun later member => ?_, induction⟩
      rcases List.mem_cons.mp member with rfl | member
      · exact occurs.now_le
      · exact Nat.le_trans occurs.now_le ((List.pairwise_cons.mp induction).1 later member)

omit [Amount α] in
theorem readings_sublist (occurrences : List (Occurrence σ ω α)) :
    ((occurrences.filterMap (·.check?)).map (·.reading)).Sublist
      (occurrences.map (·.before.present)) := by
  induction occurrences with
  | nil => exact .slnil
  | cons occurrence occurrences induction =>
      cases checked : occurrence.check? with
      | none =>
          rw [List.filterMap_cons_none checked]
          exact induction.cons _
      | some check =>
          rw [List.filterMap_cons_some checked, List.map_cons, List.map_cons,
            Occurrence.check?_reading checked]
          exact induction.cons_cons _

theorem reading_shown (unfolds : Unfolds session occurrences final) {check : Check}
    (member : check ∈ occurrences.filterMap (·.check?)) :
    ∃ shown ∈ session :: occurrences.map (·.after.session), shown.present = check.reading := by
  rcases List.mem_filterMap.mp member with ⟨occurrence, occurred, checked⟩
  have before := List.mem_map_of_mem (f := (·.before)) occurred
  exact ⟨_, unfolds.befores_prefix.subset before, (Occurrence.check?_reading checked).symm⟩

theorem samples {interval : Duration} (unfolds : Unfolds session occurrences final)
    (new : session.monitor.cancelPoll = .ofInterval interval)
    (inTime : ∀ check ∈ occurrences.filterMap (·.check?),
      check.reading.now.after interval ≤ check.reading.clock.limit) :
    Samples interval none (occurrences.filterMap (·.check?)) := by
  rw [unfolds.checks_eq, new]
  refine RateLimited.checks_samples (.ofInterval interval) fun reading member => ?_
  rcases List.mem_map.mp member with ⟨check, checked, rfl⟩
  exact inTime check checked

section Sticky

variable (unfolds : Unfolds session occurrences final)
  (sticky : (session :: occurrences.map (·.after.session)).Pairwise fun earlier later =>
    earlier.flag = true → later.flag = true)

include unfolds sticky

theorem checks_sticky :
    (occurrences.filterMap (·.check?)).Pairwise fun earlier later =>
      earlier.reading.canceled = true → later.reading.canceled = true := by
  have before := sticky.sublist unfolds.befores_prefix.sublist
  have shown : (occurrences.map (·.before.present)).Pairwise fun earlier later =>
      earlier.canceled = true → later.canceled = true :=
    List.pairwise_map.mpr (List.pairwise_map.mp before)
  exact List.pairwise_map.mp (shown.sublist (readings_sublist occurrences))

theorem down_before_up {up down : Session σ ω α}
    (upIn : up ∈ session :: occurrences.map (·.after.session))
    (downIn : down ∈ session :: occurrences.map (·.after.session))
    (raised : up.flag = true) (lowered : down.flag = false) : down.now ≤ up.now := by
  rcases List.getElem_of_mem upIn with ⟨upAt, upBound, rfl⟩
  rcases List.getElem_of_mem downIn with ⟨downAt, downBound, rfl⟩
  rcases Nat.lt_trichotomy downAt upAt with before | rfl | after
  · exact List.pairwise_iff_getElem.mp unfolds.now_pairwise _ _ downBound upBound before
  · exact Nat.le_refl _
  · have stays := List.pairwise_iff_getElem.mp sticky _ _ upBound downBound after raised
    cases lowered.symm.trans stays

end Sticky

end Unfolds

variable [WarningSink ω]

/-- Let the flag of a sink stay up once it is, whatever is done in between, and let no poll
come too late for the clock. Then no check before that is answered with yes. Every check
after it is, once an interval has passed since any moment with the flag up. Every check
after one that was answered with yes is as well. A check that polls asks the sink
itself, which may take notice; by any other the sink is left alone, and what is no check only
hands calls on. So a counter of the questions that a sink is asked goes up with the checks
that poll, and in a stretch of time at most once for every interval that fits in, and once
more. -/
theorem cancellation_noticed (config : Config) (sink : σ) (warnings : ω) (clock : Clock)
    (script : List (Script σ)) :
    let start : Session σ ω α := ofConfig config sink warnings clock
    let course := start.course script
    let sessions := start :: course.map (·.after.session)
    let checks := course.filterMap (·.check?)
    let interval := config.cancelPollInterval
    sessions.Pairwise (fun earlier later => earlier.flag = true → later.flag = true) →
    (∀ check ∈ checks, check.reading.now.after interval ≤ check.reading.clock.limit) →
      (∀ check ∈ checks, check.reading.canceled = false → check.answer = some false) ∧
      (∀ check ∈ checks, check.reading.canceled = true →
        ∀ session ∈ sessions, session.flag = true →
          session.now.after interval ≤ check.reading.now → check.answer = some true) ∧
      checks.Pairwise (fun earlier later =>
        earlier.answer = some true → later.answer = some true) ∧
      (0 < interval.nanoseconds → ∀ since length,
        (checks.filter (·.polledWithin since length)).length ≤
          length.nanoseconds / interval.nanoseconds + 1) ∧
      (∀ occurrence ∈ course, ∀ check, occurrence.check? = some check →
        occurrence.after.session.sink =
          if check.polled then (ProgressSink.ask occurrence.before.sink).1
          else occurrence.before.sink) ∧
      (∀ occurrence ∈ course, occurrence.check? = none →
        occurrence.HandsOn ∨ ∃ change ∈ Script.changesOf script,
          occurrence.after.session.sink = change occurrence.before.sink) ∧
      ∀ count : σ → Nat, CountsAsks count →
        (∀ change ∈ Script.changesOf script, ∀ sink, count (change sink) = count sink) →
        (∀ occurrence ∈ course, count occurrence.after.session.sink =
          count occurrence.before.sink + if occurrence.polls then 1 else 0) ∧
        (0 < interval.nanoseconds → ∀ since length,
          ((course.filter (·.within since length)).map (·.counted count)).sum ≤
            length.nanoseconds / interval.nanoseconds + 1) := by
  intro start course sessions checks interval sticky inTime
  have unfolds : Unfolds start course (start.runAll script).2 := start.course_unfolds script
  have samples : Samples interval none checks := unfolds.samples rfl inTime
  have checksSticky := unfolds.checks_sticky sticky
  have fresh : ∀ window ∈ (none : Option (PollWindow Bool)), window.value = true →
      ∀ check ∈ checks, check.reading.canceled = true := by
    rintro _ ⟨⟩
  refine ⟨samples.calm fresh checksSticky, ?_, samples.stays fresh checksSticky,
    samples.polls_le, ?_, ?_, ?_⟩
  · intro check member up session shown raised
    refine samples.in_time (session.now.after interval) ?_ ?_ check member up
    · rintro _ ⟨⟩
    · intro other otherIn down
      rcases unfolds.reading_shown otherIn with ⟨seen, seenIn, reads⟩
      rw [← reads] at down ⊢
      exact Nat.add_le_add_right
        (unfolds.down_before_up sticky shown seenIn raised down) interval.nanoseconds
  · intro occurrence member check checked
    exact ((unfolds.occurs_of_mem member).cancelPoll_of_some checked).2.2
  · intro occurrence member
    exact start.course_handsOn script member
  · intro count counts alone
    have goesUp : ∀ occurrence ∈ course, count occurrence.after.session.sink =
        count occurrence.before.sink + if occurrence.polls then 1 else 0 :=
      fun occurrence => counts.goes_up start alone
    refine ⟨goesUp, fun positive since length => ?_⟩
    rw [Occurrence.sum_counted goesUp]
    exact samples.polls_le positive since length

/-- The flag is raised right after a check, so that its answer stands for an interval. Closing
the job takes time as well. -/
theorem cancellation_noticed_after_interval :
    let config : Config := { Config.default with cancelPollInterval := ⟨10⟩ }
    let clock : Clock := ⟨.zero, ⟨99⟩, [⟨4⟩]⟩
    let start : Session (PolledSink NullSink) IgnoredWarnings Rat :=
      ofConfig config (.ofSink ⟨⟩) ⟨⟩ clock
    let script : List (Script (PolledSink NullSink)) :=
      [.call (.checkCanceled "plan"), .touch (·.setCanceled true), .wait ⟨9⟩,
        .job "build" 1 4
          [.call (.checkCanceled "fetch"), .direct .done, .wait ⟨1⟩,
            .call (.checkCanceled "parse"), .call .closeAll] ⟨true, none⟩,
        .wait ⟨5⟩, .call (.checkCanceled "link")]
    let course := start.course script
    let checks := course.filterMap (·.check?)
    checks.map (fun check =>
          (check.reading.now, check.reading.canceled, check.answer, check.polled)) =
        [(⟨0⟩, false, some false, true), (⟨9⟩, true, some false, false),
          (⟨10⟩, true, some true, true), (⟨19⟩, true, some true, false)] ∧
      (∀ check ∈ checks, check.reading.canceled = true → ⟨10⟩ ≤ check.reading.now →
        check.answer = some true) ∧
      ((course.filter (·.within ⟨0⟩ ⟨10⟩)).map (·.counted (·.polls))).sum ≤ 10 / 10 + 1 := by
  intro config clock start script course checks
  have made : checks.map (fun check =>
        (check.reading.now, check.reading.canceled, check.answer, check.polled)) =
      [(⟨0⟩, false, some false, true), (⟨9⟩, true, some false, false),
        (⟨10⟩, true, some true, true), (⟨19⟩, true, some true, false)] := by
    decide +kernel +zetaReduce
  let sessions := start :: course.map (·.after.session)
  have sticky : sessions.Pairwise fun earlier later =>
      earlier.flag = true → later.flag = true := by
    decide +kernel +zetaReduce
  have raised : ∃ session ∈ sessions, session.flag = true ∧ session.now = ⟨0⟩ := by
    decide +kernel +zetaReduce
  have inTime : ∀ check ∈ checks,
      check.reading.now.after config.cancelPollInterval ≤ check.reading.clock.limit := by
    decide +kernel +zetaReduce
  have counts : CountsAsks (fun sink : PolledSink NullSink => sink.polls) := by
    refine ⟨fun _ _ => rfl, fun sink => ?_⟩
    cases up : sink.canceled <;> simp [ProgressSink.ask, up]
  have alone : ∀ change ∈ Script.changesOf script, ∀ sink : PolledSink NullSink,
      (change sink).polls = sink.polls := by
    simp [script, Script.changesOf, Script.changes, PolledSink.setCanceled]
  rcases cancellation_noticed config _ _ clock script sticky inTime with
    ⟨_, noticed, _, _, _, _, counted⟩
  rcases raised with ⟨session, shown, flag, now⟩
  refine ⟨made, fun check member up late => ?_,
    (counted _ counts alone).2 (by decide) ⟨0⟩ ⟨10⟩⟩
  apply noticed check member up session shown flag
  rw [now]
  exact late

end Session

end JobProgress
