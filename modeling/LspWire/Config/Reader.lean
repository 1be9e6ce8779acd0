import LspWire.Config.Basic
import LspWire.Config.Layer
import LspWire.Json.Printer
import LspWire.Text.Quoted

/-! Settings read from a document.
A section is an object, whose unknown keys are passed over, or an array that gives the settings
of the section in their order and may stop early. What is not given keeps its default. -/

namespace LspWire

inductive ConfigFault where
  | invalidType (found : Json) (expected : String)
  | negative (value : Int) (expected : String)
  | tooLong (length : Nat)

namespace ConfigFault

def describe : Json → String
  | .null => "null"
  | .bool b => "boolean `" ++ (if b then "true" else "false") ++ "`"
  | .number (.integer n) => "integer `" ++ toString n ++ "`"
  | .number (.float x) => "floating point `" ++ (Number.float x).text ++ "`"
  | .string s => "string " ++ Text.quoted s
  | .array _ => "sequence"
  | .object _ => "map"

def message : ConfigFault → String
  | invalidType found expected => "invalid type: " ++ describe found ++ ", expected " ++ expected
  | negative value expected =>
    "invalid value: integer `" ++ toString value ++ "`, expected " ++ expected
  | tooLong length =>
    "invalid length " ++ toString length ++ ", expected fewer elements in array"

end ConfigFault

namespace Config

def readString (expected : String) : Json → Except ConfigFault String
  | .string s => .ok s
  | other => .error (.invalidType other expected)

def readBool : Json → Except ConfigFault Bool
  | .bool b => .ok b
  | other => .error (.invalidType other "a boolean")

def readStrings : Json → Except ConfigFault (List String)
  | .array items => items.mapM (readString "a string")
  | other => .error (.invalidType other "a sequence")

def readCount : Json → Except ConfigFault (Option Nat)
  | .null => .ok none
  | .number (.integer (.ofNat n)) => .ok (some n)
  | .number (.integer n) => .error (.negative n "usize")
  | other => .error (.invalidType other "usize")

/-- One setting of a section: its key, and how a value changes the section. -/
structure Setting (σ : Type) where
  key : String
  set : σ → Json → Except ConfigFault σ

def setMembers {σ : Type} (settings : List (Setting σ)) (held : σ) :
    Members → Except ConfigFault σ
  | [] => .ok held
  | (name, value) :: rest => do
    match settings.find? fun setting => setting.key == name with
    | some setting => setMembers settings (← setting.set held value) rest
    | none => setMembers settings held rest

def setItems {σ : Type} : (settings : List (Setting σ)) → σ → List Json → Except ConfigFault σ
  | setting :: settings, held, value :: rest => do
    setItems settings (← setting.set held value) rest
  | _, held, _ => .ok held

/-- Reads a section over its defaults; `name` is what messages call it. -/
def readSection {σ : Type} (name : String) (settings : List (Setting σ)) (initial : σ) :
    Json → Except ConfigFault σ
  | .object members => setMembers settings initial members
  | .array items => do
    let read ← setItems settings initial items
    if items.length ≤ settings.length then return read else throw (.tooLong items.length)
  | other => .error (.invalidType other ("struct " ++ name))

def fixtureSettings : List (Setting FixtureSettings) :=
  [⟨"dir", fun s value => do return { s with dir := ← readString "path string" value }⟩,
   ⟨"recursive", fun s value => do return { s with recursive := ← readBool value }⟩,
   ⟨"include", fun s value => do return { s with patterns := ← readStrings value }⟩]

def decodeSettings : List (Setting DecodeSettings) :=
  [⟨"reject_unknown_fields", fun s value => do
    return { s with rejectUnknownFields := ← readBool value }⟩]

def runSettings : List (Setting RunSettings) :=
  [⟨"parallelism", fun s value => do return { s with parallelism := ← readCount value }⟩,
   ⟨"round_trip", fun s value => do return { s with roundTrip := ← readBool value }⟩]

def sections : List (Setting Config) :=
  [⟨"fixtures", fun c value => do
      return { c with fixtures := ← readSection "FixturesConfig" fixtureSettings .initial value }⟩,
   ⟨"decode", fun c value => do
      return { c with decode := ← readSection "DecodeConfig" decodeSettings .initial value }⟩,
   ⟨"harness", fun c value => do
      return { c with run := ← readSection "RunConfig" runSettings .initial value }⟩]

def ofJson : Json → Except ConfigFault Config := readSection "HarnessConfig" sections .initial

def toJson (config : Config) : Json :=
  .object
    [("decode", .object [("reject_unknown_fields", .bool config.decode.rejectUnknownFields)]),
     ("fixtures", .object
       [("dir", .string config.fixtures.dir),
        ("include", .array (config.fixtures.patterns.map .string)),
        ("recursive", .bool config.fixtures.recursive)]),
     ("harness", .object
       [("parallelism", match config.run.parallelism with
          | some count => .number (.integer count)
          | none => .null),
        ("round_trip", .bool config.run.roundTrip)])]

end Config

end LspWire
