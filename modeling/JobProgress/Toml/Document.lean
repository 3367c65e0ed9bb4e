import JobProgress.Toml.Grammar

namespace JobProgress.Toml

/-! The statements of a document are carried out one after the other. A header
says which table the assignments after it add to. -/

/-- A document as far as it is carried out: its top table, and the keys that
lead to the table that is open. -/
structure Draft where
  top : OpenTable
  here : List Key

namespace Draft

def empty : Draft := ⟨⟨.headed, []⟩, []⟩

def run (draft : Draft) : Statement → Option Draft
  | .assignment assignment =>
      (draft.top.changeAt false (·.assign assignment) draft.here).map fun top =>
        { draft with top }
  | .header header =>
      (draft.top.openHeader header).map fun top => ⟨top, header.path⟩

end Draft

def parse? (text : String) : Option (List Entry) := do
  let statements ← statements? text
  let draft ← statements.foldlM Draft.run .empty
  return draft.top.entries

def topNames (text : String) : Option (List String) :=
  (parse? text).map (·.map (·.1.value))

example : topNames "a = 1\n[b.c]\nd.e = 'x' # note\n" = some ["a", "b"] := by
  decide +kernel

example : topNames "a = 1\na = 2" = none := by decide +kernel

/-- Dotted keys make each table on their way their own, so that it gets no header
any more. -/
example : topNames "[a.b.c.d]\n[a]\nb.c.x = 1\n[a.b]" = none := by decide +kernel

end JobProgress.Toml
