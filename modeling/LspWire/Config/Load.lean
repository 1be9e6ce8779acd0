import LspWire.Config.Reader
import LspWire.Toml.Reader

/-! Settings of a run from the file in its directory and from those given on top.
The defaults are the lowest layer, then the file, if there is one, and then the overrides. -/

namespace LspWire

/-- Why there are no settings. Of a file that is not TOML its text is kept. -/
inductive ConfigError where
  | unreadable (path reason : String)
  | malformed (path text : String)
  | invalid (fault : ConfigFault)

namespace ConfigError

def kind : ConfigError → String
  | unreadable .. => "Read"
  | malformed .. => "Parse"
  | invalid _ => "Invalid"

/-- What lies behind an error, where `refusal` is what is said of a text that is not TOML. -/
def cause (refusal : String → String) : ConfigError → String
  | unreadable _ reason => reason
  | malformed _ text => refusal text
  | invalid fault => fault.message

def message (refusal : String → String) (error : ConfigError) : String :=
  (match error with
    | unreadable path _ => "Failed to read config " ++ Text.quoted path
    | malformed path _ => "Failed to parse config " ++ Text.quoted path
    | invalid _ => "Invalid merged config") ++
    ": " ++ error.cause refusal

/-- The message with all that lies behind it, which is then told twice. -/
def chain (refusal : String → String) (error : ConfigError) : String :=
  error.message refusal ++ ": " ++ error.cause refusal

end ConfigError

namespace Config

def fileName : String := "lsp-conformance.toml"

def readFile (path : String) : FileTree → Except ConfigError Json
  | .directory _ => .error (.unreadable path ReadFault.isDirectory.text)
  | .file content =>
    match Text.decode? content with
    | none => .error (.unreadable path "stream did not contain valid UTF-8")
    | some text =>
      match Toml.parse text with
      | some document => .ok document
      | none => .error (.malformed path text)

def ofLayers (layers : List Json) : Except ConfigFault Config :=
  ofJson (layers.foldl Json.stack initial.toJson)

def load (root : String) (file : Option FileTree) (overrides : Option Json) :
    Except ConfigError Config := do
  let document ← file.mapM (readFile (joinPath root fileName))
  (ofLayers (document.toList ++ overrides.toList)).mapError .invalid

end Config

end LspWire
