import JobProgress.Toml.Scalar
import JobProgress.Toml.Table

namespace JobProgress.Toml

/-! A document is a sequence of statements: keys with their values, and headers
that open tables. Arrays and inline tables are read with a bound on how deep
they nest; within that bound the statements of every document are found. -/

/-! ## Keys -/

def isBareKeyChar (c : Char) : Bool := c.isAlphanum || c == '-' || c == '_'

def readKey : Reader Key := fun cursor => do
  let (text, after) ←
    match cursor.rest with
    | '"' :: _ => readQuoted .basic cursor
    | '\'' :: _ => readQuoted .literal cursor
    | rest =>
        let name := rest.takeWhile isBareKeyChar
        if name.isEmpty then none
        else some (String.ofList name, cursor.moveTo (rest.dropWhile isBareKeyChar))
  return (⟨cursor.spanTo after, text⟩, after)

/-- Read keys separated by dots, with blanks around them. At most `count` more
keys are read after the first. -/
def readPath : Nat → Reader (List Key)
  | count, cursor => do
      let (key, after) ← readKey (skipBlanks cursor)
      let after := skipBlanks after
      match after.rest, count with
      | '.' :: _, count + 1 =>
          let (keys, after) ← readPath count (after.skip 1)
          return (key :: keys, after)
      | _, _ => return ([key], after)

def maxKeys : Nat := 80

def readKeys : Reader (List Key) := readPath (maxKeys - 1)

/-! ## Values -/

/-- Read items up to a closing character, with commas between them and, if one
likes, behind the last. Items can be spread over lines. At most `count` items
are read. -/
def readItems {β : Type} (item : Reader β) (close : Char) : Nat → Reader (List β)
  | 0, _ => none
  | count + 1, cursor => do
      let cursor ← skipGap cursor
      match cursor.rest with
      | [] => none
      | c :: _ =>
          if c = close then
            return ([], cursor.skip 1)
          else
            let (first, cursor) ← item cursor
            let cursor ← skipGap cursor
            match cursor.rest with
            | [] => none
            | c :: _ =>
                if c = close then
                  return ([first], cursor.skip 1)
                else if c = ',' then
                  let (more, cursor) ← readItems item close count (cursor.skip 1)
                  return (first :: more, cursor)
                else
                  none

def readBetween {β : Type} (item : Reader β) (close : Char) : Reader (List β) :=
  fun cursor => readItems item close (cursor.rest.length + 1) (cursor.skip 1)

/-- Read keys, an equals sign and a value. What may stand on either side of the
equals sign is skipped by `skipSpace`. -/
def readAssignment (skipSpace : Cursor → Option Cursor)
    (value : Reader (Located Value)) : Reader Assignment :=
  fun cursor => do
    let (path, cursor) ← readKeys cursor
    let cursor ← skipSpace cursor
    match cursor.rest with
    | '=' :: _ =>
        let (value, cursor) ← value (← skipSpace (cursor.skip 1))
        return (⟨path, value⟩, cursor)
    | _ => none

def readValue : Nat → Reader (Located Value)
  | depth, cursor => do
      let (value, after) ←
        match cursor.rest, depth with
        | '"' :: _, _ =>
            (readString .basic cursor).map fun (text, after) => (.string text, after)
        | '\'' :: _, _ =>
            (readString .literal cursor).map fun (text, after) => (.string text, after)
        | '[' :: _, depth + 1 =>
            (readBetween (readValue depth) ']' cursor).map fun (elements, after) =>
              (.array .inline elements, after)
        | '{' :: _, depth + 1 =>
            (readBetween (readAssignment skipGap (readValue depth)) '}' cursor).bind
              fun (assignments, after) =>
                (inlineTable? assignments).map fun table => (table, after)
        | _, _ => readScalar cursor
      return (⟨cursor.spanTo after, value⟩, after)

def maxDepth : Nat := 80

/-! ## Statements -/

inductive Statement where
  | assignment (assignment : Assignment)
  | header (header : Header)
  deriving Repr

/-- Read a header: keys between brackets for a table, and between two pairs of
brackets for one more table of an array. -/
def readHeader : Reader Header := fun cursor =>
  match cursor.rest with
  | '[' :: '[' :: _ => do
      let (path, after) ← readKeys (cursor.skip 2)
      match after.rest with
      | ']' :: ']' :: _ => return (⟨.element, path, cursor.spanTo (after.skip 2)⟩, after.skip 2)
      | _ => none
  | '[' :: _ => do
      let (path, after) ← readKeys (cursor.skip 1)
      match after.rest with
      | ']' :: _ => return (⟨.table, path, cursor.spanTo (after.skip 1)⟩, after.skip 1)
      | _ => none
  | _ => none

def readStatement : Reader Statement := fun cursor => do
  let (statement, after) ←
    match cursor.rest with
    | '[' :: _ =>
        (readHeader cursor).map fun (header, after) => (.header header, after)
    | _ =>
        (readAssignment (some ∘ skipBlanks) (readValue maxDepth) cursor).map
          fun (assignment, after) => (.assignment assignment, after)
  return (statement, ← skipLineEnd after)

def readStatements : Nat → Cursor → Option (List Statement)
  | 0, _ => none
  | count + 1, cursor => do
      let cursor ← skipGap cursor
      if cursor.rest.isEmpty then
        return []
      else
        let (statement, after) ← readStatement cursor
        return statement :: (← readStatements count after)

/-- The cursor before the first statement, behind a byte order mark if the text
starts with one. -/
def Cursor.ofDocument (text : List Char) : Cursor :=
  match text with
  | '\uFEFF' :: _ => (Cursor.ofText text).skip 1
  | _ => .ofText text

def statements? (text : String) : Option (List Statement) :=
  readStatements (text.length + 1) (.ofDocument text.toList)

end JobProgress.Toml
