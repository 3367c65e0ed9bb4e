import JobProgress.Toml.Value

namespace JobProgress.Toml

/-! Statements add to tables. No key of a table can be given a value twice, and
what a table was written as decides what can be added to it later: inline
tables are closed, tables with a header take no dotted keys from outside, and
tables made by dotted keys get no header. -/

/-- The entries of a table in the order they were added, and how the table was
written. -/
structure OpenTable where
  form : TableForm
  entries : List Entry

namespace OpenTable

def find? (table : OpenTable) (name : String) : Option Entry :=
  table.entries.find? (·.1.value = name)

def add (table : OpenTable) (key : Key) (value : Located Value) : OpenTable :=
  { table with entries := table.entries ++ [(key, value)] }

def drop (table : OpenTable) (name : String) : OpenTable :=
  { table with entries := table.entries.filter (·.1.value ≠ name) }

def replace (table : OpenTable) (name : String) (value : Located Value) : OpenTable :=
  { table with
    entries := table.entries.map fun entry =>
      if entry.1.value = name then (entry.1, value) else entry }

/-! ## Finding the way -/

/-- Change the table that a value is, unless tables of its form are closed. -/
def changeInside (closed : TableForm → Bool) (change : OpenTable → Option OpenTable)
    (value : Located Value) : Option (Located Value) :=
  match value.value with
  | .table form entries =>
      if closed form then
        none
      else
        (change ⟨form, entries⟩).map fun table =>
          ⟨value.span, .table table.form table.entries⟩
  | _ => none

def changeLast {β : Type} (change : β → Option β) : List β → Option (List β)
  | [] => none
  | [last] => (change last).map ([·])
  | first :: rest => (changeLast change rest).map (first :: ·)

def isClosedTo (dotted : Bool) (form : TableForm) : Bool :=
  form == .inline || (dotted && form == .headed)

/-- A table on the way of keys. If they are dotted, a table that headers have only
passed through is made by dotted keys from now on. -/
def passedBy (dotted : Bool) (table : OpenTable) : OpenTable :=
  if dotted && table.form == .passed then { table with form := .dotted } else table

/-- Change the table that keys lead to. Missing tables on the way are made, and
an array of tables leads to the last of them. -/
def changeAt (dotted : Bool) (change : OpenTable → Option OpenTable) :
    List Key → OpenTable → Option OpenTable
  | [], table => change table
  | key :: path, table =>
      match table.find? key.value with
      | none =>
          (changeAt dotted change path ⟨if dotted then .dotted else .passed, []⟩).map
            fun made => table.add key ⟨key.span, .table made.form made.entries⟩
      | some (_, ⟨span, .array .headed elements⟩) =>
          (changeLast (changeInside (fun _ => false) (changeAt dotted change path))
            elements).map fun elements =>
              table.replace key.value ⟨span, .array .headed elements⟩
      | some (_, value) =>
          let changeNext (next : OpenTable) := changeAt dotted change path (next.passedBy dotted)
          (changeInside (isClosedTo dotted) changeNext value).map (table.replace key.value)

end OpenTable

/-! ## Assignments -/

structure Assignment where
  path : List Key
  value : Located Value
  deriving Repr

namespace OpenTable

/-- Give a new key a value. `direct` tells that no dotted keys led to the
table. A table they did lead to must be made by such keys. -/
def assignKey (direct : Bool) (key : Key) (value : Located Value) (table : OpenTable) :
    Option OpenTable :=
  if (table.find? key.value).isSome then none
  else if direct || table.form == .dotted then some (table.add key value)
  else none

def assign (table : OpenTable) (assignment : Assignment) : Option OpenTable :=
  match assignment.path.getLast? with
  | none => none
  | some key =>
      let path := assignment.path.dropLast
      table.changeAt true (assignKey path.isEmpty key assignment.value) path

end OpenTable

def inlineTable? (assignments : List Assignment) : Option Value :=
  (assignments.foldlM OpenTable.assign ⟨.headed, []⟩).map fun table =>
    .table .inline table.entries

/-! ## Headers -/

inductive HeaderKind where
  | table
  | element
  deriving DecidableEq, Repr

structure Header where
  kind : HeaderKind
  path : List Key
  span : ByteSpan
  deriving Repr

namespace OpenTable

/-- Open a table. It is new, or was only passed through so far. -/
def openTable (key : Key) (span : ByteSpan) (table : OpenTable) : Option OpenTable :=
  match table.find? key.value with
  | none => some (table.add key ⟨span, .table .headed []⟩)
  | some (_, ⟨_, .table .passed entries⟩) =>
      some ((table.drop key.value).add key ⟨span, .table .headed entries⟩)
  | some _ => none

/-- Open one more table of an array. The array is new, or was only written one
table at a time so far. -/
def openElement (key : Key) (span : ByteSpan) (table : OpenTable) : Option OpenTable :=
  let element : Located Value := ⟨span, .table .headed []⟩
  match table.find? key.value with
  | none => some (table.add key ⟨span, .array .headed [element]⟩)
  | some (_, ⟨first, .array .headed elements⟩) =>
      some (table.replace key.value ⟨first, .array .headed (elements ++ [element])⟩)
  | some _ => none

def openHeader (table : OpenTable) (header : Header) : Option OpenTable :=
  match header.path.getLast? with
  | none => none
  | some key =>
      let opened :=
        match header.kind with
        | .table => openTable key header.span
        | .element => openElement key header.span
      table.changeAt false opened header.path.dropLast

end OpenTable

end JobProgress.Toml
