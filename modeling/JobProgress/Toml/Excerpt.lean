import JobProgress.Toml.Cursor

namespace JobProgress.Toml

/-! A fault in a document is shown by the line it is on, with the bytes that
are at fault marked below. Lines and columns count from one. -/

def splitAtByte : Nat → List Char → List Char × List Char
  | _, [] => ([], [])
  | 0, rest => ([], rest)
  | bytes, c :: rest =>
      let (before, after) := splitAtByte (bytes - c.utf8Size) rest
      (c :: before, after)

structure Position where
  lines : Nat
  column : Nat
  line : List Char
  deriving DecidableEq, Repr

def positionOf (text : List Char) (byte : Nat) : Position :=
  let (before, after) := splitAtByte byte text
  let start := (before.reverse.takeWhile (· != '\n')).reverse
  ⟨before.count '\n', start.length, start ++ after.takeWhile (· != '\n')⟩

/-- How many marks stand below a span: one for each of its bytes that its line
has room for, and at least one. -/
def markCount (position : Position) (span : ByteSpan) : Nat :=
  max 1 (min (span.stop - span.start) (byteCount position.line - position.column))

def excerpt (text : String) (span : ByteSpan) : String :=
  let position := positionOf text.toList span.start
  let number := toString (position.lines + 1)
  let spaces (count : Nat) := String.ofList (List.replicate count ' ')
  let gutter := spaces (number.length + 1) ++ "|"
  "TOML parse error at line " ++ number ++ ", column " ++
    toString (position.column + 1) ++ "\n" ++
  gutter ++ "\n" ++
  number ++ " | " ++ String.ofList position.line ++ "\n" ++
  gutter ++ spaces (position.column + 1) ++
    String.ofList (List.replicate (markCount position span) '^') ++ "\n"

example :
    excerpt "a = 1\nbad = 2\n" ⟨6, 9⟩ =
      "TOML parse error at line 2, column 1\n  |\n2 | bad = 2\n  | ^^^\n" := by
  decide +kernel

end JobProgress.Toml
