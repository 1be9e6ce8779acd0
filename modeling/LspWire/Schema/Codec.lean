import LspWire.Json.Reader
import LspWire.Schema.Decode
import LspWire.Schema.Same
import LspWire.Schema.Show

/-! What is known of a type: how its values are read, written, shown and compared. -/

namespace LspWire

/-- Writing may fail; a document written keeps the order of declaration. -/
structure Codec (α : Type) extends Decoder α where
  write : α → Except String Json
  render : α → String
  same : α → α → Bool

namespace Codec

variable {α : Type}

def encode (c : Codec α) (a : α) : Except String Json := (c.write a).map Json.sorted

def decodeText (c : Codec α) (text : Text.Octets) (options : DecodeOptions) :
    Except DecodeError α :=
  match Json.parse text with
  | .ok value => c.decode value (.root options)
  | .error fault => .error (.syntaxFault (fault.message text))

end Codec

def Schema.codec (s : Schema) : Codec s.Val where
  toDecoder := s.decoder
  write x := .ok (s.write x)
  render := s.render
  same := s.same

@[simp] theorem Schema.encode_codec (s : Schema) (x : s.Val) :
    s.codec.encode x = .ok (s.encode x) :=
  rfl

end LspWire
