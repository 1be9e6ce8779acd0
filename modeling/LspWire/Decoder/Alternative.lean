import LspWire.Decoder.Basic

/-! Values that are told apart by their shape.
Every alternative is tried with unknown keys refused. Where the caller ignores unknown keys, an
alternative that fails so is tried again on the caller's terms, but such a match counts only when
no alternative matches strictly. Several matches are one value if they encode alike. -/

namespace LspWire

structure Alternative (U : Type) where
  name : String
  decode : Json → Context → Except DecodeError U

def Alternative.map {U V : Type} (f : U → V) (a : Alternative U) : Alternative V :=
  ⟨a.name, fun value cx => (a.decode value cx).map f⟩

namespace Union

variable {U : Type}

abbrev Matches (U : Type) := List (String × U)

def strictMatch? (value : Json) (cx : Context) (a : Alternative U) : Option (String × U) :=
  match a.decode value cx.strict with
  | .ok u => some (a.name, u)
  | .error _ => none

/-- A match that only the caller's options allow. -/
def lenientMatch? (value : Json) (cx : Context) (a : Alternative U) : Option (String × U) :=
  if cx.options.rejectUnknownFields || (strictMatch? value cx a).isSome then none
  else match a.decode value cx with
    | .ok u => some (a.name, u)
    | .error _ => none

def candidates (alternatives : List (Alternative U)) (value : Json) (cx : Context) : Matches U :=
  match alternatives.filterMap (strictMatch? value cx) with
  | [] => alternatives.filterMap (lenientMatch? value cx)
  | found => found

def agree (encodings : List (Option Json)) : Bool :=
  match encodings with
  | some first :: _ => encodings.all fun encoding =>
    match encoding with
    | some other => first.same other
    | none => false
  | _ => false

/-- The one match, or the first of several that encode alike. -/
def choose (union : String) (encode : U → Option Json) (path : Path) :
    Matches U → Except DecodeError U
  | [] => .error (.unionNoMatch path union)
  | [(_, u)] => .ok u
  | (name, u) :: rest =>
    if agree (((name, u) :: rest).map fun found => encode found.2) then .ok u
    else .error (.unionAmbiguous path union (((name, u) :: rest).map (·.1)))

def decode (union : String) (encode : U → Option Json) (alternatives : List (Alternative U))
    (value : Json) (cx : Context) : Except DecodeError U :=
  choose union encode cx.path (candidates alternatives value cx)

end Union

end LspWire
