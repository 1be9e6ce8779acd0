import LspWire.Decoder.Basic
import LspWire.Decoder.Presence

/-! Reading the fields of an object.
A reader remembers which keys it was asked for and found. Each access answers from the object
alone, whatever was read before; only `finish` looks at the keys remembered. -/

namespace LspWire

/-- What is read of a field: its value, if the object has it, and the object's place are given. -/
abbrev FieldReader (α : Type) := Option Json → Context → Except DecodeError α

namespace FieldReader

variable {α : Type}

def raw : FieldReader (Option Json) := fun value _ => .ok value

def required (d : Decoder α) (name : String) : FieldReader α
  | some value, cx => d.decode value (cx.field name)
  | none, cx => d.absent name cx

def optional (d : Decoder α) (name : String) : FieldReader (Option α)
  | some value, cx => (d.decode value (cx.field name)).map some
  | none, _ => .ok none

def nullable (d : Decoder α) (name : String) : FieldReader (Nullable α)
  | some .null, _ => .ok .null
  | some value, cx => (d.decode value (cx.field name)).map .value
  | none, cx => .error (cx.missing name)

def optionalNullable (d : Decoder α) (name : String) : FieldReader (Presence α)
  | some .null, _ => .ok .null
  | some value, cx => (d.decode value (cx.field name)).map .value
  | none, _ => .ok .absent

def literal (name expected : String) : FieldReader Unit
  | some (.string found), cx =>
    if found = expected then .ok ()
    else .error (.literalMismatch (cx.field name).path expected found)
  | some other, cx => .error ((cx.field name).mismatch "string" other)
  | none, cx => .error (cx.missing name)

end FieldReader

structure ObjectReader where
  members : Members
  context : Context
  consumed : List String

/-- A run over a reader; the keys asked for stay remembered when it fails. -/
abbrev Reading (α : Type) := ExceptT DecodeError (StateM ObjectReader) α

namespace ObjectReader

def ofJson (value : Json) (cx : Context) : Except DecodeError ObjectReader :=
  match value with
  | .object members => .ok ⟨members, cx, []⟩
  | other => .error (cx.mismatch "object" other)

/-- Whether the object has a key, which is not thereby read. -/
def contains (reader : ObjectReader) (name : String) : Bool := reader.members.contains name

def consume (reader : ObjectReader) (name : String) : ObjectReader :=
  if reader.contains name then { reader with consumed := name :: reader.consumed } else reader

/-- The first key, in the order of the members, that was not read. -/
def unread? (reader : ObjectReader) : Option String :=
  reader.members.names.find? fun name => !reader.consumed.contains name

end ObjectReader

namespace Reading

variable {α : Type}

def run (reading : Reading α) (reader : ObjectReader) : Except DecodeError α × ObjectReader :=
  StateT.run (ExceptT.run reading) reader

def access (name : String) (read : FieldReader α) : Reading α :=
  ExceptT.mk fun reader =>
    (read (reader.members.get? name) reader.context, reader.consume name)

def raw (name : String) : Reading (Option Json) := access name .raw

def required (d : Decoder α) (name : String) : Reading α := access name (.required d name)

def optional (d : Decoder α) (name : String) : Reading (Option α) := access name (.optional d name)

def nullable (d : Decoder α) (name : String) : Reading (Nullable α) :=
  access name (.nullable d name)

def optionalNullable (d : Decoder α) (name : String) : Reading (Presence α) :=
  access name (.optionalNullable d name)

def literal (name expected : String) : Reading Unit := access name (.literal name expected)

/-- Refuses a key that was not read, unless such keys are ignored. -/
def finish : Reading Unit :=
  ExceptT.mk fun reader =>
    (if reader.context.options.rejectUnknownFields then
      match reader.unread? with
      | some name => .error (.unknownField reader.context.path name)
      | none => .ok ()
    else .ok (), reader)

def decode (reading : Reading α) (value : Json) (cx : Context) : Except DecodeError α := do
  let reader ← ObjectReader.ofJson value cx
  (Reading.run (do let a ← reading; finish; return a) reader).1

end Reading

def Json.marker (value : Json) (name : String) : Option String :=
  (value.get? name).bind Json.string?

end LspWire
