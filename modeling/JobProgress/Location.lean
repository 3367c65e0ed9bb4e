import JobProgress.Uri.Basic

namespace JobProgress

/-! A warning points at a place in a resource. The text of a place is its
identifier between bars, followed in parentheses by the span inside the
resource and, where they are known, by the positions at which the span begins
and ends. -/

/-- A position in a text: lines count from one, columns from zero. -/
structure LineColumn where
  line : Nat
  column : Nat
  deriving DecidableEq, Repr

structure CharacterSpan where
  offset : Nat
  length : Nat
  deriving DecidableEq, Repr

structure LineRange where
  start : LineColumn
  stop : LineColumn
  deriving DecidableEq, Repr

structure SourceLocation where
  uri : Uri
  span : Option CharacterSpan
  lines : Option LineRange
  deriving DecidableEq, Repr

namespace SourceLocation

def ofUri (uri : Uri) : SourceLocation := ⟨uri, none, none⟩

def withSpan (location : SourceLocation) (span : CharacterSpan) : SourceLocation :=
  { location with span := some span }

/-- Add the positions of a span. They are shown only beside a span. -/
def withLines (location : SourceLocation) (lines : LineRange) : SourceLocation :=
  { location with lines := some lines }

end SourceLocation

def LineColumn.text (position : LineColumn) : String :=
  "<" ++ toString position.line ++ "," ++ toString position.column ++ ">"

def CharacterSpan.text (span : CharacterSpan) : String :=
  toString span.offset ++ "," ++ toString span.length

namespace SourceLocation

/-- What follows the identifier in the text of a location. -/
def detailText (location : SourceLocation) : String :=
  match location.span, location.lines with
  | none, _ => ""
  | some span, none => "(" ++ span.text ++ ")"
  | some span, some lines =>
      "(" ++ span.text ++ "," ++ lines.start.text ++ "," ++ lines.stop.text ++ ")"

def text (location : SourceLocation) : String :=
  "|" ++ location.uri.text ++ "|" ++ location.detailText

example : (ofUri ⟨"project://demo/Main"⟩).text = "|project://demo/Main|" := by
  decide

example :
    (((ofUri ⟨"a:b"⟩).withSpan ⟨4, 2⟩).withLines ⟨⟨1, 4⟩, ⟨1, 6⟩⟩).text =
      "|a:b|(4,2,<1,4>,<1,6>)" := by
  decide +kernel

end SourceLocation

end JobProgress
