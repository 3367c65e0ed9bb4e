import JobProgress.Config.Decode
import JobProgress.FileTree
import JobProgress.Toml.Document
import JobProgress.Toml.Excerpt

namespace JobProgress

/-! Settings are read from a text or from a file. -/

inductive ConfigError where
  | notADocument
  | content (text : String) (fault : Toml.Located ConfigFault)
  | unreadable (path : String) (cause : ReadError)

namespace ConfigError

def message : ConfigError → String
  | .notADocument => "config parse error: not a TOML document"
  | .content text fault =>
      "config parse error: " ++ Toml.excerpt text fault.span ++ fault.value.message ++ "\n"
  | .unreadable path cause => "I/O error reading " ++ path ++ ": " ++ cause.message

end ConfigError

namespace Config

def ofText (text : String) : Except ConfigError Config :=
  match Toml.parse? text with
  | none => .error .notADocument
  | some entries => (decode entries).mapError (.content text)

def load (tree : FileTree) (path : String) : Except ConfigError Config :=
  match tree.readText path with
  | .ok text => ofText text
  | .error cause => .error (.unreadable path cause)

end Config

end JobProgress
