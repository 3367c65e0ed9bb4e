import JobProgress.Warning.Basic

namespace JobProgress

/-! Warnings can be written to an output one line each. Output can run full in
the middle of a line: what fits is written and the rest is lost. A line goes
out in pieces, and the first piece that does not fit ends it. -/

structure ByteOutput where
  limit : Option Nat
  bytes : List UInt8
  flushes : Nat
  deriving DecidableEq, Repr

namespace ByteOutput

def ofLimit (limit : Option Nat) : ByteOutput := ⟨limit, [], 0⟩

def accepted (output : ByteOutput) (piece : List UInt8) : List UInt8 :=
  match output.limit with
  | none => piece
  | some limit => piece.take (limit - output.bytes.length)

/-- Write one piece as far as it fits; whether it fit in full is told. -/
def write (output : ByteOutput) (piece : List UInt8) : ByteOutput × Bool :=
  let accepted := output.accepted piece
  ({ output with bytes := output.bytes ++ accepted }, accepted.length = piece.length)

def writeAll (output : ByteOutput) : List (List UInt8) → ByteOutput × Bool
  | [] => (output, true)
  | piece :: pieces =>
      match output.write piece with
      | (output, true) => output.writeAll pieces
      | (output, false) => (output, false)

def flush (output : ByteOutput) : ByteOutput :=
  { output with flushes := output.flushes + 1 }

def decode? (bytes : List UInt8) : Option String := String.fromUTF8? ⟨bytes.toArray⟩

/-- What was written, read as text. A character that was cut off at the end is
shown as U+FFFD. -/
def text (output : ByteOutput) : String :=
  match decode? output.bytes with
  | some text => text
  | none =>
      let whole := [1, 2, 3].findSome? fun cut =>
        decode? (output.bytes.take (output.bytes.length - cut))
      whole.getD "" ++ "\uFFFD"

end ByteOutput

structure WrittenWarnings where
  output : ByteOutput
  deriving DecidableEq, Repr

namespace WrittenWarnings

def linePieces (message : String) (location : SourceLocation) : List (List UInt8) :=
  [location.text, ": ", message, "\n"].map (·.toUTF8.toList)

/-- Write the line of a warning, and flush the output once the line is written
in full. Nobody is told about a line that is not. -/
def warn (sink : WrittenWarnings) (message : String) (location : SourceLocation) :
    WrittenWarnings :=
  match sink.output.writeAll (linePieces message location) with
  | (output, true) => ⟨output.flush⟩
  | (output, false) => ⟨output⟩

instance : WarningSink WrittenWarnings where
  warn sink message location := (sink.warn message location, [])

end WrittenWarnings

end JobProgress
