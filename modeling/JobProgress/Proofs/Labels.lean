import JobProgress.Proofs.Guise

/-! No number that a monitor gives or sends out hangs on a name. Two scripts that differ in
names only do the same in numbers, and two that differ only in labels that are logged do
the same altogether. -/

namespace JobProgress

def nameless : String → String := fun _ => ""

def Script.unlabelled {σ : Type} (script : List (Script σ)) : List (Script σ) :=
  Veil.plain.lines id script

namespace Session

variable {σ ω τ υ α : Type} [ProgressSink σ] [WarningSink ω] [ProgressSink τ] [WarningSink υ]
  [Amount α]

theorem course_unlabelled (session : Session σ ω α) (script : List (Script σ)) :
    (session.course (Script.unlabelled script)).map (·.sight) =
        (session.course script).map (·.sight) ∧
      (session.runAll (Script.unlabelled script)).2 = (session.runAll script).2 := by
  have seen := (Guise.plain : Guise .plain σ ω σ ω).course_sight session script
  have final := (Guise.plain : Guise .plain σ ω σ ω).runAll_session session script
  rw [Guise.plain_session] at seen final
  rw [Guise.plain_session] at final
  rw [List.map_congr_left fun occurrence _ => Guise.plain_sight occurrence] at seen
  exact ⟨seen, final⟩

/-- Where two sinks would answer the same, checks against them do, too. -/
theorem checks_of_readings (config : Config) (sink : σ) (warnings : ω) (clock : Clock)
    (otherSink : τ) (otherWarnings : υ) (otherClock : Clock) (first : List (Script σ))
    (second : List (Script τ)) :
    let course := (ofConfig config sink warnings clock : Session σ ω α).course first
    let other := (ofConfig config otherSink otherWarnings otherClock : Session τ υ α).course second
    (course.filterMap (·.check?)).map (·.reading) = (other.filterMap (·.check?)).map (·.reading) →
      course.filterMap (·.check?) = other.filterMap (·.check?) := by
  intro course other readings
  have checks :=
    ((ofConfig config sink warnings clock : Session σ ω α).course_unfolds first).checks_eq
  have others :=
    ((ofConfig config otherSink otherWarnings otherClock : Session τ υ α).course_unfolds
      second).checks_eq
  rw [← readings] at others
  exact checks.trans others.symm

/-- In two runs that differ in names and in labels only, what is returned and what the sinks
are told is the same but for names, and as many jobs are open after each call. If the
sinks would answer the same whenever cancellation is checked, the checks answer the same.
Where no names differ, but only labels that are logged, the runs are the same. -/
theorem labels_never_count (config : Config) (sink : σ) (warnings : ω) (clock : Clock)
    (first : List (Script σ)) :
    let session : Session σ ω α := ofConfig config sink warnings clock
    let course := session.course first
    (∀ (otherSink : τ) (otherWarnings : υ) (second : List (Script τ)),
      Script.alone nameless first = Script.alone nameless second →
        let other := (ofConfig config otherSink otherWarnings clock : Session τ υ α).course second
        course.map (·.figures nameless) = other.map (·.figures nameless) ∧
          ((course.filterMap (·.check?)).map (·.reading) =
              (other.filterMap (·.check?)).map (·.reading) →
            course.filterMap (·.check?) = other.filterMap (·.check?))) ∧
      ∀ second : List (Script σ), Script.unlabelled first = Script.unlabelled second →
        course.map (·.sight) = (session.course second).map (·.sight) ∧
          (session.runAll first).2 = (session.runAll second).2 := by
  intro session course
  refine ⟨fun otherSink otherWarnings second same => ?_, fun second same => ⟨?_, ?_⟩⟩
  · exact ⟨figures_of_alone nameless config sink warnings clock otherSink otherWarnings same,
      checks_of_readings config sink warnings clock otherSink otherWarnings clock first second⟩
  · rw [← (session.course_unlabelled first).1, same, (session.course_unlabelled second).1]
  · rw [← (session.course_unlabelled first).2, same, (session.course_unlabelled second).2]

/-- The body of a job is refused a share, and a job is closed by another name. -/
theorem labels_never_count_of_renamed_build :
    let config := { Config.default with sharePolicy := .reject }
    let clock : Clock := .frozen .zero (.after .zero config.cancelPollInterval)
    let session : Session NullSink IgnoredWarnings Rat := ofConfig config ⟨⟩ ⟨⟩ clock
    let first : List (Script NullSink) :=
      [.call (.openJob "build" 1 10),
        .job "compile" 4 3 [.call (.step "parse" "main" 2), .call (.openJob "check" 7 1)]
          ⟨true, none⟩,
        .call (.checkCanceled "build"), .call (.closeJob "build" true)]
    let renamed : List (Script NullSink) :=
      [.call (.openJob "deploy" 1 10),
        .job "" 4 3 [.call (.step "copy" "" 2), .call (.openJob "verify" 7 1)] ⟨true, none⟩,
        .call (.checkCanceled "copy"), .call (.closeJob "build" false)]
    let relabelled : List (Script NullSink) :=
      [.call (.openJob "build" 1 10),
        .job "compile" 4 3 [.call (.step "parse" "" 2), .call (.openJob "check" 7 1)]
          ⟨true, none⟩,
        .call (.checkCanceled ""), .call (.closeJob "compile" false)]
    (session.course first).map (·.result) =
        [.ok .nothing, .ok .nothing, .ok .nothing,
          .error (.call (.shareExceedsRemaining "check" 7 3)),
          .error (.call (.shareExceedsRemaining "check" 7 3)), .ok (.answer false),
          .ok (.units 4)] ∧
      (session.course first).map (·.figures nameless) =
        (session.course renamed).map (·.figures nameless) ∧
      (session.course first).filterMap (·.check?) =
        (session.course renamed).filterMap (·.check?) ∧
      (session.runAll first).2 = (session.runAll relabelled).2 := by
  intro config clock session first renamed relabelled
  have results : (session.course first).map (·.result) =
      [.ok .nothing, .ok .nothing, .ok .nothing,
        .error (.call (.shareExceedsRemaining "check" 7 3)),
        .error (.call (.shareExceedsRemaining "check" 7 3)), .ok (.answer false),
        .ok (.units 4)] := by
    decide +kernel +zetaReduce
  have readings : ((session.course first).filterMap (·.check?)).map (·.reading) =
      ((session.course renamed).filterMap (·.check?)).map (·.reading) := by
    decide +kernel +zetaReduce
  rcases labels_never_count (τ := NullSink) (υ := IgnoredWarnings) (α := Rat) config
    (⟨⟩ : NullSink) (⟨⟩ : IgnoredWarnings) clock first with ⟨unnamed, unlabelled⟩
  rcases unnamed ⟨⟩ ⟨⟩ renamed rfl with ⟨figures, checks⟩
  exact ⟨results, figures, checks readings, (unlabelled relabelled rfl).2⟩

end Session

end JobProgress
