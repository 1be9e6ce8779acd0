import LspWire.Decoder.Alternative
import LspWire.Schema.Encode

/-! Values read from JSON.
A record reads its fields in the order they are declared and then refuses keys it does not declare;
a union without a marker is matched by shape; a marked one goes by the word its marker holds. -/

namespace LspWire

def FieldMode.reader {α : Type} (d : Decoder α) (key : String) :
    (mode : FieldMode) → FieldReader (mode.Of α)
  | .required => .required d key
  | .optional => .optional d key
  | .nullable => .nullable d key
  | .optionalNullable => .optionalNullable d key

namespace Decoder

def integerEnum (e : IntegerEnum) : Decoder (Fin e.members.length) := present fun value cx => do
  let n ← uinteger.decode value cx
  match e.ofValue? n.toNat with
  | some i => return i
  | none => throw (.invalidEnumValue cx.path e.name (toString n.toNat))

def wordEnum (e : WordEnum) : Decoder (Fin e.members.length) := present fun value cx => do
  let word ← string.decode value cx
  match e.ofWord? word with
  | some i => return i
  | none => throw (.invalidEnumValue cx.path e.name word)

def openEnum (e : WordEnum) : Decoder (OpenWord e) := present fun value cx => do
  return .ofWord e (← string.decode value cx)

/-- Goes by the word under `key`: none when the key is absent, and no variant when it holds
something else. -/
def marked {α : Type} (name key : String)
    (select : Option String → Option (Json → Context → Except DecodeError α)) : Decoder α :=
  present fun value cx =>
    let word? := match value.get? key with
      | none => some none
      | some (.string word) => some (some word)
      | some _ => none
    match word?.bind select with
    | some decode => decode value cx
    | none => .error (.unionNoMatch cx.path name)

end Decoder

mutual

def Schema.decoder : (s : Schema) → Decoder s.Val
  | .boolean => .boolean
  | .string => .string
  | .integer => .integer
  | .uinteger => .uinteger
  | .decimal => .decimal
  | .any => .any
  | .object => .object
  | .null => .null
  | .noParams => .noParams
  | .numberOrString => .numberOrString
  | .literal _ word => .literal word
  | .integerEnum e => .integerEnum e
  | .wordEnum e => .wordEnum e
  | .openEnum e => .openEnum e
  | .list item => item.decoder.list
  | .map item => item.decoder.map
  | .nullable item => item.decoder.nullable
  | .record _ fields => .present fields.read.decode
  | .union name variants =>
    .present (Union.decode name (fun x => some (variants.encode x)) variants.alternatives)
  | .marked name key variants => .marked name key variants.select

def Fields.read : (fields : Fields) → Reading fields.Val
  | .nil => pure ()
  | .cons form type rest => do
    let value ← Reading.access form.key (form.mode.reader type.decoder form.key)
    let values ← rest.read
    return (value, values)

def Variants.alternatives : (variants : Variants) → List (Alternative variants.Val)
  | .nil => []
  | .cons name _ _ type rest =>
    ⟨name, fun value cx => (type.decoder.decode value cx).map Sum.inl⟩ ::
      rest.alternatives.map (Alternative.map Sum.inr)

def Variants.select : (variants : Variants) → Option String →
    Option (Json → Context → Except DecodeError variants.Val)
  | .nil, _ => none
  | .cons _ _ mark type rest, word =>
    if mark = word then some fun value cx => (type.decoder.decode value cx).map Sum.inl
    else (rest.select word).map fun decode value cx => (decode value cx).map Sum.inr

end

def Schema.decode (s : Schema) (value : Json) (cx : Context) : Except DecodeError s.Val :=
  s.decoder.decode value cx

end LspWire
