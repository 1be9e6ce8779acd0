import LspWire.Proofs.BaseReading
import LspWire.Proofs.ErrorTruth
import LspWire.Schema.Codec
import LspWire.Server.Convert

/-! Values of a server read by the protocol.
A server numbers lines and characters by words of 32 bits, the protocol by numbers of one bit less.
What a server holds can always be converted and written, but it is read back only when all of its
numbers are in the range of the protocol; otherwise the first number beyond is refused. -/

namespace LspWire.Server

/-- Numbers of a value with the steps to each, in the order in which they are read. -/
abbrev Words := List (List PathStep × UInt32)

namespace Words

def under (key : String) (words : Words) : Words :=
  words.map fun word => (.field key :: word.1, word.2)

def beyond (word : List PathStep × UInt32) : Bool := !IntegerRange.uinteger.contains word.2.toNat

def read {α : Type} (words : Words) (x : α) (cx : Context) : Except DecodeError α :=
  match words.find? beyond with
  | none => .ok x
  | some (steps, n) => .error (.fieldOutOfRange (cx.within steps).path "uinteger" (toString n.toNat))

variable {α β : Type}

theorem read_under (key : String) (words : Words) (x : α) (cx : Context) :
    (words.under key).read x cx = words.read x (cx.field key) := by
  have hfind : (words.under key).find? beyond =
      (words.find? beyond).map fun word => (.field key :: word.1, word.2) := List.find?_map
  rw [read, read, hfind]
  cases words.find? beyond with
  | none => rfl
  | some word =>
    obtain ⟨steps, n⟩ := word
    simp [Context.field]

theorem read_append (words others : Words) (x : α) (y : β) (cx : Context) :
    (words ++ others).read y cx = words.read x cx >>= fun _ => others.read y cx := by
  rw [read, read, List.find?_append]
  cases words.find? beyond with
  | none => rfl
  | some word => rfl

theorem beyond_eq_false_iff {word : List PathStep × UInt32} :
    beyond word = false ↔ word.2.toNat ≤ 2147483647 := by
  rw [beyond, Bool.not_eq_false', IntegerRange.contains_iff]
  dsimp only [IntegerRange.uinteger]
  omega

theorem read_eq_ok_iff {words : Words} {x : α} {cx : Context} :
    words.read x cx = .ok x ↔ ∀ word ∈ words, word.2.toNat ≤ 2147483647 := by
  have hfits : words.find? beyond = none ↔ ∀ word ∈ words, word.2.toNat ≤ 2147483647 := by
    simp only [List.find?_eq_none, Bool.not_eq_true, beyond_eq_false_iff]
  rw [← hfits, read]
  cases words.find? beyond <;> simp

theorem read_eq_error_iff {words : Words} {x : α} {cx : Context} {e : DecodeError} :
    words.read x cx = .error e ↔ ∃ steps n, words.find? beyond = some (steps, n) ∧
      e = .fieldOutOfRange (cx.within steps).path "uinteger" (toString n.toNat) := by
  rw [read]
  cases words.find? beyond with
  | none => simp
  | some word =>
    obtain ⟨steps, n⟩ := word
    simp [eq_comm]

end Words

/-- The value is written as the document, which is read as the value again unless one of these
numbers is beyond the range. -/
structure ReadAs (s : Schema) (document : Json) (x : s.Val) (words : Words) : Prop where
  encode_eq : s.encode x = document
  decode_eq (cx : Context) : s.decoder.decode document cx = words.read x cx

theorem readAs_word (n : UInt32) : ReadAs .uinteger (word n) n [([], n)] := by
  refine ⟨rfl, fun cx => ?_⟩
  change (if IntegerRange.uinteger.contains n.toNat then Except.ok (n.toNat : Int) else
    .error (.fieldOutOfRange cx.path "uinteger" (toString (n.toNat : Int)))).map
      (fun i : Int => UInt32.ofNat i.toNat) = Words.read [([], n)] n cx
  rw [Words.read, List.find?_singleton, Words.beyond]
  split
  · next hfits =>
    rw [hfits]
    exact congrArg Except.ok UInt32.ofNat_toNat
  · next hbeyond =>
    rw [Bool.eq_false_of_not_eq_true hbeyond]
    exact congrArg (fun place : Context => Except.error
      (DecodeError.fieldOutOfRange place.path "uinteger" (toString n.toNat))) cx.within_nil.symm

theorem readAs_string (text : String) : ReadAs .string (.string text) text [] :=
  ⟨rfl, fun _ => rfl⟩

theorem sorted_pair {key key' : String} (hless : key' < key) (left right : Json) :
    Json.sorted (.object [(key, left), (key', right)]) =
      .object [(key', right.sorted), (key, left.sorted)] := by
  simp [Json.sorted, Json.sortedMembers, Members.ordered, Members.insert, hless]

theorem ReadAs.record {a b : Schema} {left right : Json} {x : a.Val} {y : b.Val}
    {words others : Words} (hx : ReadAs a left x words) (hy : ReadAs b right y others)
    (name : String) {key key' : String} (hless : key' < key) :
    ReadAs (.recordOf name [Schema.required key key a, Schema.required key' key' b])
      (.object [(key', right), (key, left)]) (x, y, ())
      (words.under key ++ others.under key') := by
  refine ⟨(sorted_pair hless (a.write x) (b.write y)).trans ?_, fun cx => ?_⟩
  · rw [← hx.encode_eq, ← hy.encode_eq]
    rfl
  have hkeys : key' ≠ key := fun h => String.lt_irrefl _ (h ▸ hless)
  let members : Members := [(key', right), (key, left)]
  have hleft : members.get? key = some left := by simp [members, Members.get?, hkeys]
  have hright : members.get? key' = some right := by simp [members, Members.get?]
  have hclosing : Reading.closing [key, key'] members cx = .ok () :=
    (Reading.closing_eq_ok_iff _ _ _).mpr fun _ => by simp [members, Members.names]
  -- With both keys there, the calls are the readings of the two parts at their own places.
  have hparts : (FieldReader.required a.decoder key (members.get? key) cx >>= fun x =>
      (FieldReader.required b.decoder key' (members.get? key') cx >>= fun y => .ok (y, ())) >>=
        fun rest => .ok (x, rest)) = (words.under key ++ others.under key').read (x, y, ()) cx := by
    rw [hleft, hright, Words.read_append _ _ x, Words.read_under, Words.read_under,
      FieldReader.required, FieldReader.required, hx.decode_eq, hy.decode_eq]
    rw [Words.read, Words.read, Words.read]
    cases words.find? Words.beyond with
    | none => cases others.find? Words.beyond <;> rfl
    | some word => rfl
  refine (Reading.decode_object (Fields.gives_read _) members cx).trans ?_
  refine (congrArg (fun parts : Except DecodeError (a.Val × b.Val × Unit) => parts >>= fun values =>
    Reading.closing [key, key'] members cx >>= fun _ => .ok values) hparts).trans ?_
  rw [hclosing]
  exact bind_pure _

def Position.words (p : Position) : Words :=
  [([.field "line"], p.line), ([.field "character"], p.character)]

def Range.words (r : Range) : Words := r.start.words.under "start" ++ r.stop.words.under "end"

def Location.words (l : Location) : Words := l.range.words.under "range"

theorem Position.readAs (p : Position) :
    ReadAs Protocol.position p.toJson p.toProtocol p.words :=
  .record (readAs_word p.line) (readAs_word p.character) "Position" (by decide +kernel)

theorem Range.readAs (r : Range) : ReadAs Protocol.range r.toJson r.toProtocol r.words :=
  .record r.start.readAs r.stop.readAs "Range" (by decide +kernel)

theorem Location.readAs (l : Location) :
    ReadAs Protocol.location l.toJson l.toProtocol l.words :=
  .record (readAs_string l.uri.text) l.range.readAs "Location" (by decide +kernel)

/-- The value is written as the document, which is read as the value exactly if none of the numbers
is beyond the range of the protocol; otherwise the first one beyond is refused at its place. -/
structure ReadBack (s : Schema) (document : Json) (x : s.Val) (words : Words) : Prop where
  written : s.codec.encode x = .ok document
  accepted_iff (cx : Context) :
    s.codec.decode document cx = .ok x ↔ ∀ word ∈ words, word.2.toNat ≤ 2147483647
  refused_iff (cx : Context) (e : DecodeError) :
    s.codec.decode document cx = .error e ↔
      ∃ steps n, words.find? Words.beyond = some (steps, n) ∧
        e = .fieldOutOfRange (cx.within steps).path "uinteger" (toString n.toNat)

theorem ReadAs.readBack {s : Schema} {document : Json} {x : s.Val} {words : Words}
    (h : ReadAs s document x words) : ReadBack s document x words where
  written := h.encode_eq ▸ s.encode_codec x
  accepted_iff cx := by
    rw [← Words.read_eq_ok_iff, ← h.decode_eq cx]
    exact Iff.rfl
  refused_iff cx e := by
    rw [← Words.read_eq_error_iff, ← h.decode_eq cx]
    exact Iff.rfl

/-- What a server holds is converted and written as the server's own type writes it, and read back
exactly if all lines and characters are in the range of the protocol. -/
theorem server_value_read_back :
    (∀ p : Position, ReadBack Protocol.position p.toJson p.toProtocol p.words) ∧
    (∀ r : Range, ReadBack Protocol.range r.toJson r.toProtocol r.words) ∧
    ∀ l : Location, ReadBack Protocol.location l.toJson l.toProtocol l.words :=
  ⟨fun p => p.readAs.readBack, fun r => r.readAs.readBack, fun l => l.readAs.readBack⟩

/-- The first line beyond the range is converted and written, but not read, on any terms. -/
theorem server_line_refused :
    Protocol.position.codec.encode (Position.toProtocol ⟨2147483648, 0⟩) =
      .ok (.object [("character", .number (.integer 0)), ("line", .number (.integer 2147483648))]) ∧
    Protocol.position.codec.decode
        (.object [("character", .number (.integer 0)), ("line", .number (.integer 2147483648))])
        (.root .strict) =
      .error (.fieldOutOfRange ⟨"$", [.field "line"]⟩ "uinteger" "2147483648") ∧
    Protocol.position.codec.decode
        (.object [("character", .number (.integer 0)), ("line", .number (.integer 2147483648))])
        (.root .permissive) =
      .error (.fieldOutOfRange ⟨"$", [.field "line"]⟩ "uinteger" "2147483648") :=
  ⟨rfl, rfl, rfl⟩

end LspWire.Server
