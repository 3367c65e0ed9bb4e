import JobProgress.Toml.Value

namespace JobProgress.Toml

/-! Documents are read from left to right by a cursor, which knows how many
bytes lie before it. -/

/-- The characters still to be read, and the number of bytes before them. -/
structure Cursor where
  rest : List Char
  offset : Nat
  deriving DecidableEq, Repr

abbrev Reader (β : Type) := Cursor → Option (β × Cursor)

def byteCount (text : List Char) : Nat :=
  text.foldr (fun c count => c.utf8Size + count) 0

namespace Cursor

def ofText (text : List Char) : Cursor := ⟨text, 0⟩

def moveTo (cursor : Cursor) (rest : List Char) : Cursor :=
  ⟨rest, cursor.offset + byteCount (cursor.rest.take (cursor.rest.length - rest.length))⟩

def skip (cursor : Cursor) (count : Nat) : Cursor :=
  cursor.moveTo (cursor.rest.drop count)

def spanTo (start stop : Cursor) : ByteSpan := ⟨start.offset, stop.offset⟩

end Cursor

/-! ## Blanks, comments and ends of lines -/

def isBlank (c : Char) : Bool := c == ' ' || c == '\t'

/-- Characters that text may hold within a line: all but controls, of which
only the tab is let in. -/
def isLineChar (c : Char) : Bool := c == '\t' || (' ' ≤ c && c != '\x7f')

def skipBlanks (cursor : Cursor) : Cursor :=
  cursor.moveTo (cursor.rest.dropWhile isBlank)

def afterNewline : List Char → Option (List Char)
  | '\n' :: rest => some rest
  | '\r' :: '\n' :: rest => some rest
  | _ => none

def dropComment : List Char → List Char
  | '#' :: rest => rest.dropWhile isLineChar
  | rest => rest

def skipLineEnd (cursor : Cursor) : Option Cursor :=
  match dropComment (skipBlanks cursor).rest with
  | [] => some (cursor.moveTo [])
  | rest => (afterNewline rest).map cursor.moveTo

/-- The text after blanks, comments and ends of lines. Inside a comment only
what a line may hold is let in. -/
def dropGap (inComment : Bool) : List Char → Option (List Char)
  | [] => some []
  | '\n' :: rest => dropGap false rest
  | '\r' :: '\n' :: rest => dropGap false rest
  | c :: rest =>
      if inComment then
        if isLineChar c then dropGap true rest else none
      else if isBlank c then
        dropGap false rest
      else if c = '#' then
        dropGap true rest
      else
        some (c :: rest)

def skipGap (cursor : Cursor) : Option Cursor :=
  (dropGap false cursor.rest).map cursor.moveTo

example : dropGap false "  # note\n\n x".toList = some ['x'] := by decide +kernel

end JobProgress.Toml
