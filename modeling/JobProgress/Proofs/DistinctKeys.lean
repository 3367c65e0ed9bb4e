import JobProgress.Toml.Document

/-! No key of a document is given a value twice. Statements only add keys that a table does not
have, so the keys at the top stay apart from one another whatever table a statement adds to. -/

namespace JobProgress.Toml

namespace OpenTable

variable {table : OpenTable} {change : OpenTable → Option OpenTable} {key : Key}
  {value : Located Value} {name : String}

def names (table : OpenTable) : List String := table.entries.map (·.1.value)

theorem notMem_names_of_find? (unused : table.find? name = none) : name ∉ table.names := by
  intro member
  rcases List.mem_map.mp member with ⟨entry, listed, same⟩
  exact List.find?_eq_none.mp unused entry listed (decide_eq_true same)

theorem notMem_names_drop (table : OpenTable) (name : String) : name ∉ (table.drop name).names := by
  intro member
  rcases List.mem_map.mp member with ⟨entry, listed, same⟩
  exact of_decide_eq_true (List.mem_filter.mp listed).2 same

theorem names_replace (table : OpenTable) (name : String) (value : Located Value) :
    (table.replace name value).names = table.names := by
  rw [names, replace, List.map_map]
  apply List.map_congr_left
  intro entry _
  dsimp only [Function.comp]
  split <;> rfl

def Distinct (table : OpenTable) : Prop := table.names.Nodup

theorem Distinct.add (distinct : table.Distinct) (unused : key.value ∉ table.names) :
    (table.add key value).Distinct := by
  have names : (table.add key value).names = table.names ++ [key.value] := List.map_append
  rw [Distinct, names]
  refine List.nodup_append.mpr ⟨distinct, by simp, fun used member other single same => ?_⟩
  rw [same, List.mem_singleton.mp single] at member
  exact unused member

theorem Distinct.drop (distinct : table.Distinct) (name : String) : (table.drop name).Distinct :=
  distinct.sublist (List.filter_sublist.map _)

theorem Distinct.replace (distinct : table.Distinct) (name : String) (value : Located Value) :
    (table.replace name value).Distinct := by
  rw [Distinct, names_replace]
  exact distinct

/-! ## Statements -/

def KeepsDistinct (change : OpenTable → Option OpenTable) : Prop :=
  ∀ ⦃table changed⦄, change table = some changed → table.Distinct → changed.Distinct

/-- Below the top only the value of one key is another one. -/
theorem changeAt_keepsDistinct (dotted : Bool) (keeps : KeepsDistinct change) (path : List Key) :
    KeepsDistinct (changeAt dotted change path) := by
  intro table changed run distinct
  cases path with
  | nil => exact keeps run distinct
  | cons key path =>
      rw [changeAt] at run
      split at run
      · next unused =>
          rcases Option.map_eq_some_iff.mp run with ⟨made, _, rfl⟩
          exact distinct.add (notMem_names_of_find? unused)
      · rcases Option.map_eq_some_iff.mp run with ⟨elements, _, rfl⟩
        exact distinct.replace key.value _
      · rcases Option.map_eq_some_iff.mp run with ⟨value, _, rfl⟩
        exact distinct.replace key.value _

theorem assignKey_keepsDistinct (direct : Bool) (key : Key) (value : Located Value) :
    KeepsDistinct (assignKey direct key value) := by
  intro table changed run distinct
  rw [assignKey] at run
  split at run
  · cases run
  · next unused =>
      split at run
      · cases run
        exact distinct.add (notMem_names_of_find? (by simpa using unused))
      · cases run

theorem assign_keepsDistinct (assignment : Assignment) : KeepsDistinct (·.assign assignment) := by
  intro table changed run distinct
  dsimp only [assign] at run
  split at run
  · cases run
  · exact changeAt_keepsDistinct true (assignKey_keepsDistinct ..) _ run distinct

theorem openTable_keepsDistinct (key : Key) (span : ByteSpan) :
    KeepsDistinct (openTable key span) := by
  intro table changed run distinct
  rw [openTable] at run
  split at run
  · next unused =>
      cases run
      exact distinct.add (notMem_names_of_find? unused)
  · cases run
    exact (distinct.drop key.value).add (notMem_names_drop table key.value)
  · cases run

theorem openElement_keepsDistinct (key : Key) (span : ByteSpan) :
    KeepsDistinct (openElement key span) := by
  intro table changed run distinct
  rw [openElement] at run
  split at run
  · next unused =>
      cases run
      exact distinct.add (notMem_names_of_find? unused)
  · cases run
    exact distinct.replace key.value _
  · cases run

theorem openHeader_keepsDistinct (header : Header) : KeepsDistinct (·.openHeader header) := by
  intro table changed run distinct
  dsimp only [openHeader] at run
  split at run
  · cases run
  · refine changeAt_keepsDistinct false ?_ _ run distinct
    cases header.kind with
    | table => exact openTable_keepsDistinct ..
    | element => exact openElement_keepsDistinct ..

end OpenTable

open OpenTable

theorem Draft.run_distinct {draft next : Draft} {statement : Statement}
    (run : draft.run statement = some next) (distinct : draft.top.Distinct) :
    next.top.Distinct := by
  cases statement with
  | assignment assignment =>
      rcases Option.map_eq_some_iff.mp run with ⟨top, changed, rfl⟩
      exact changeAt_keepsDistinct false (assign_keepsDistinct assignment) _ changed distinct
  | header header =>
      rcases Option.map_eq_some_iff.mp run with ⟨top, changed, rfl⟩
      exact openHeader_keepsDistinct header changed distinct

theorem Draft.runAll_distinct {draft last : Draft} {statements : List Statement}
    (run : statements.foldlM Draft.run draft = some last) (distinct : draft.top.Distinct) :
    last.top.Distinct := by
  induction statements generalizing draft with
  | nil =>
      cases run
      exact distinct
  | cons statement statements induction =>
      rw [List.foldlM_cons] at run
      rcases Option.bind_eq_some_iff.mp run with ⟨next, first, rest⟩
      exact induction rest (Draft.run_distinct first distinct)

theorem parse?_distinct {text : String} {entries : List Entry}
    (parsed : parse? text = some entries) : (entries.map (·.1.value)).Nodup := by
  rcases Option.bind_eq_some_iff.mp parsed with ⟨statements, _, parsed⟩
  rcases Option.bind_eq_some_iff.mp parsed with ⟨draft, run, last⟩
  cases last
  exact Draft.runAll_distinct run List.nodup_nil

end JobProgress.Toml
