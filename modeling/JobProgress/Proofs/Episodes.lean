import JobProgress.Sink.Call

/-! A sink hears of one task after another. An `Episode` is what it hears of a
single one, from the name that announces the task to the top name that is shown
when it is done. A `Chronicle` is what it has heard so far: whole episodes, and
perhaps one that is still open. -/

namespace JobProgress

namespace SinkCall

def IsWithinTask : SinkCall → Prop
  | .worked _ | .workRemaining _ | .subTask _ | .taskName _ => True
  | .beginTask _ _ | .done => False

def firstBegun (calls : List SinkCall) : Option String :=
  calls.findSome? fun
    | .beginTask name _ => some name
    | _ => none

theorem firstBegun_append (first second : List SinkCall) :
    firstBegun (first ++ second) = (firstBegun first).or (firstBegun second) :=
  List.findSome?_append

theorem firstBegun_of_within {calls : List SinkCall} (within : ∀ call ∈ calls, call.IsWithinTask) :
    firstBegun calls = none := by
  apply List.findSome?_eq_none_iff.mpr
  intro call member
  cases call with
  | beginTask name total => exact (within _ member).elim
  | _ => rfl

/-- No more than `count` reports, and nothing else. -/
def Reports (count : Nat) (calls : List SinkCall) : Prop :=
  ∃ units : List Nat, units.length ≤ count ∧ calls = units.map .worked

theorem Reports.nil (count : Nat) : Reports count [] := ⟨[], Nat.zero_le count, rfl⟩

theorem reports_report (units : Nat) : Reports 1 (report units) := by
  cases units with
  | zero => exact .nil 1
  | succ units => exact ⟨[units + 1], Nat.le_refl 1, rfl⟩

theorem Reports.append {first second : Nat} {earlier later : List SinkCall}
    (left : Reports first earlier) (right : Reports second later) :
    Reports (first + second) (earlier ++ later) := by
  rcases left with ⟨leftUnits, leftFew, rfl⟩
  rcases right with ⟨rightUnits, rightFew, rfl⟩
  refine ⟨leftUnits ++ rightUnits, ?_, by simp⟩
  rw [List.length_append]
  omega

theorem Reports.within {count : Nat} {calls : List SinkCall} (reports : Reports count calls) :
    ∀ call ∈ calls, call.IsWithinTask := by
  rcases reports with ⟨units, _, rfl⟩
  intro call member
  rcases List.mem_map.mp member with ⟨count, _, rfl⟩
  trivial

end SinkCall

open SinkCall

structure Episode where
  name : String
  total : Nat
  during : List SinkCall

namespace Episode

def begun (episode : Episode) : List SinkCall :=
  .taskName episode.name :: .beginTask episode.name episode.total :: episode.during

def whole (top : String) (episode : Episode) : List SinkCall :=
  episode.begun ++ [.done, .taskName top]

def Orderly (episode : Episode) : Prop := ∀ call ∈ episode.during, call.IsWithinTask

end Episode

/-- Tasks that are done, one after another, and the one that is open, if there is
one. -/
structure Chronicle where
  /-- The name shown whenever a task is done. -/
  top : String
  past : List Episode
  current : Option Episode

namespace Chronicle

def episodes (chronicle : Chronicle) : List Episode :=
  chronicle.past ++ chronicle.current.toList

def calls (chronicle : Chronicle) : List SinkCall :=
  chronicle.past.flatMap (·.whole chronicle.top) ++ chronicle.current.toList.flatMap (·.begun)

theorem calls_isPrefix (chronicle : Chronicle) :
    chronicle.calls <+: chronicle.episodes.flatMap (·.whole chronicle.top) := by
  rcases chronicle with ⟨top, past, current⟩
  cases current with
  | none => simp [calls, episodes]
  | some episode => simp [calls, episodes, Episode.whole]

/-! ## Writing a chronicle -/

/-- Another task begins. If it is the first, its name is the top name. -/
def start (chronicle : Chronicle) (name : String) (total : Nat) : Chronicle where
  top := if chronicle.past.isEmpty then name else chronicle.top
  past := chronicle.past
  current := some ⟨name, total, []⟩

def tell (chronicle : Chronicle) (calls : List SinkCall) : Chronicle :=
  { chronicle with
    current := chronicle.current.map fun episode =>
      { episode with during := episode.during ++ calls } }

def finish (chronicle : Chronicle) : Chronicle :=
  { chronicle with past := chronicle.episodes, current := none }

/-- A chronicle of all that was sent: its tasks are orderly, and the top name is
that of the first. -/
structure Records (chronicle : Chronicle) (sent : List SinkCall) : Prop where
  calls_eq : sent = chronicle.calls
  orderly : ∀ episode ∈ chronicle.episodes, episode.Orderly
  top_eq : ∀ top, firstBegun sent = some top → chronicle.top = top

namespace Records

variable {chronicle : Chronicle} {sent calls : List SinkCall} {episode : Episode}

theorem empty : Records ⟨"", [], none⟩ [] where
  calls_eq := rfl
  orderly := fun _ member => nomatch member
  top_eq := fun _ begun => nomatch begun

theorem firstBegun_eq_top (records : chronicle.Records sent) (begun : chronicle.episodes ≠ []) :
    firstBegun sent = some chronicle.top := by
  cases first : firstBegun sent with
  | some top => rw [records.top_eq top first]
  | none =>
      rw [records.calls_eq] at first
      rcases chronicle with ⟨top, _ | ⟨earliest, past⟩, _ | current⟩
      · exact absurd rfl begun
      all_goals simp [calls, Episode.whole, Episode.begun, firstBegun] at first

theorem start (records : chronicle.Records sent) (closed : chronicle.current = none)
    (name : String) (total : Nat) :
    (chronicle.start name total).Records (sent ++ [.taskName name, .beginTask name total]) := by
  rcases chronicle with ⟨top, past, current⟩
  subst closed
  have orderly : ∀ episode ∈ past ++ [⟨name, total, []⟩], episode.Orderly := by
    intro episode member
    rcases List.mem_append.mp member with earlier | new
    · exact records.orderly episode (List.mem_append_left _ earlier)
    · rw [List.mem_singleton.mp new]
      exact fun call member => nomatch member
  cases past with
  | nil =>
      have nothing : sent = [] := records.calls_eq
      subst nothing
      refine ⟨rfl, orderly, ?_⟩
      intro other first
      exact Option.some.inj first
  | cons earliest past =>
      have known := records.firstBegun_eq_top (List.cons_ne_nil _ _)
      refine ⟨?_, orderly, ?_⟩
      · rw [records.calls_eq]
        simp [calls, Chronicle.start, Episode.begun]
      · intro other first
        rw [firstBegun_append, known] at first
        exact Option.some.inj first

theorem tell (records : chronicle.Records sent) (opened : chronicle.current = some episode)
    (within : ∀ call ∈ calls, call.IsWithinTask) :
    (chronicle.tell calls).Records (sent ++ calls) := by
  rcases chronicle with ⟨top, past, current⟩
  subst opened
  refine ⟨?_, ?_, ?_⟩
  · rw [records.calls_eq]
    simp [Chronicle.calls, Chronicle.tell, Episode.begun]
  · intro other member
    rcases List.mem_append.mp member with earlier | same
    · exact records.orderly other (List.mem_append_left _ earlier)
    · rw [List.mem_singleton.mp same]
      have before := records.orderly episode (List.mem_append_right _ (List.mem_singleton.mpr rfl))
      exact List.forall_mem_append.mpr ⟨before, within⟩
  · intro other first
    rw [firstBegun_append, firstBegun_of_within within, Option.or_none] at first
    exact records.top_eq other first

theorem finish (records : chronicle.Records sent) (opened : chronicle.current = some episode) :
    chronicle.finish.Records (sent ++ [.done, .taskName chronicle.top]) := by
  rcases chronicle with ⟨top, past, current⟩
  subst opened
  refine ⟨?_, ?_, ?_⟩
  · rw [records.calls_eq]
    simp [Chronicle.calls, Chronicle.finish, episodes, Episode.whole]
  · intro other member
    exact records.orderly other (by simpa [episodes, Chronicle.finish] using member)
  · intro other first
    rw [firstBegun_append] at first
    exact records.top_eq other (by simpa [firstBegun] using first)

end Records

end Chronicle

end JobProgress
