import LspWire.Decoder.Error
import LspWire.Json.Printer

/-! Decoders: how a value of some type is read from JSON.
A decoder is given the place where it reads and whether keys that no record declares are refused,
and it also says what a required field of its type is when the key is not there. -/

namespace LspWire

structure DecodeOptions where
  rejectUnknownFields : Bool
deriving DecidableEq

def DecodeOptions.strict : DecodeOptions := ⟨true⟩

def DecodeOptions.permissive : DecodeOptions := ⟨false⟩

/-- The place of the value being read and the options in force there. -/
structure Context where
  path : Path
  options : DecodeOptions
deriving DecidableEq

namespace Context

def root (options : DecodeOptions) : Context := ⟨.payload, options⟩

def step (cx : Context) (s : PathStep) : Context := { cx with path := cx.path.step s }

def field (cx : Context) (name : String) : Context := cx.step (.field name)

def index (cx : Context) (position : Nat) : Context := cx.step (.index position)

def entry (cx : Context) (key : String) : Context := cx.step (.entry key)

def strict (cx : Context) : Context := { cx with options := .strict }

def mismatch (cx : Context) (expected : String) (found : Json) : DecodeError :=
  .typeMismatch cx.path expected found.kind

def missing (cx : Context) (field : String) : DecodeError := .missingRequiredField cx.path field

@[simp] theorem options_step (cx : Context) (s : PathStep) : (cx.step s).options = cx.options := rfl

@[simp] theorem path_strict (cx : Context) : cx.strict.path = cx.path := rfl

@[simp] theorem options_strict (cx : Context) : cx.strict.options = .strict := rfl

end Context

/-- Reads a value, and answers for a field that is absent from its object. -/
structure Decoder (α : Type) where
  decode : Json → Context → Except DecodeError α
  absent : String → Context → Except DecodeError α

namespace Decoder

/-- A decoder that refuses an absent field, at the object that lacks it. -/
def present {α : Type} (decode : Json → Context → Except DecodeError α) : Decoder α :=
  ⟨decode, fun field cx => .error (cx.missing field)⟩

end Decoder

end LspWire
