import JobProgress.Text.Combining
import JobProgress.Text.Printable

namespace JobProgress.Text

/-! A name inside a message is quoted, so that its end is seen and nothing in it
is invisible: quotes and backslashes get a backslash, and what cannot be shown
is written by its name or its code point. -/

def codePointEscape (c : Char) : List Char :=
  ['\\', 'u', '\x7b'] ++ Nat.toDigits 16 c.toNat ++ ['\x7d']

def escape (c : Char) : List Char :=
  match c with
  | '"' => ['\\', '"']
  | '\\' => ['\\', '\\']
  | '\t' => ['\\', 't']
  | '\r' => ['\\', 'r']
  | '\n' => ['\\', 'n']
  | '\x00' => ['\\', '0']
  | c => if isPrintable c && !isCombining c then [c] else codePointEscape c

def quoted (text : String) : String :=
  String.ofList (['"'] ++ text.toList.flatMap escape ++ ['"'])

example : quoted "say \"é\"\n" = "\"say \\\"é\\\"\\n\"" := by
  decide +kernel

example : quoted "\x1B" = "\"\\u\x7b1b\x7d\"" := by
  decide +kernel

end JobProgress.Text
