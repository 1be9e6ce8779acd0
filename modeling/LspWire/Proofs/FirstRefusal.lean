import LspWire.Proofs.PartsInOrder
import LspWire.Proofs.TypePart
import LspWire.Protocol.Document

/-! Which of several refusals is told.
A list, a map or a record may be refused in several of its parts at once. It is refused as the first
of them: the least index, the least key, the first field as declared. A key that a record does not
declare comes behind all of its fields. Without a refusal everything is kept. -/

namespace LspWire

section

variable {α : Type} (d : Decoder α) (cx : Context) {items : List Json}

theorem Decoder.list_eq_ok_iff {xs : List α} : d.list.decode (.array items) cx = .ok xs ↔
    xs.length = items.length ∧ ∀ (i : Nat) item, items[i]? = some item →
      ∃ x, xs[i]? = some x ∧ d.decode item (cx.index i) = .ok x := by
  refine decodeItems_eq_ok_iff.trans ?_
  simp only [Nat.zero_add]

theorem Decoder.exists_list_eq_ok_iff : (∃ xs, d.list.decode (.array items) cx = .ok xs) ↔
    ∀ (i : Nat) item, items[i]? = some item → ∃ x, d.decode item (cx.index i) = .ok x := by
  refine exists_decodeItems_eq_ok_iff.trans ?_
  simp only [Nat.zero_add]

theorem Decoder.list_eq_error_iff {e : DecodeError} :
    d.list.decode (.array items) cx = .error e ↔ ∃ (i : Nat) (item : Json),
      items[i]? = some item ∧ d.decode item (cx.index i) = .error e ∧
        ∀ j < i, ∀ other, items[j]? = some other →
          ∃ x, d.decode other (cx.index j) = .ok x := by
  refine decodeItems_eq_error_iff.trans ?_
  simp only [Nat.zero_add]

end

theorem Ascending.lt_iff {α : Type} {entries : List (String × α)} (h : Ascending entries)
    {i j : Nat} {a b : String × α} (ha : entries[i]? = some a) (hb : entries[j]? = some b) :
    i < j ↔ a.1 < b.1 := by
  obtain ⟨hi, rfl⟩ := List.getElem?_eq_some_iff.mp ha
  obtain ⟨hj, rfl⟩ := List.getElem?_eq_some_iff.mp hb
  have hpairwise := List.pairwise_iff_getElem.mp h
  refine ⟨hpairwise i j hi hj, fun hlt => ?_⟩
  by_contra hle
  rcases Nat.lt_or_eq_of_le (Nat.le_of_not_lt hle) with hji | rfl
  · exact String.lt_asymm hlt (hpairwise j i hj hi hji)
  · exact String.lt_irrefl _ hlt

section

variable {α : Type} (d : Decoder α) (cx : Context)

theorem Decoder.map_eq_error_iff {members : Members} (hmembers : Ascending members)
    {e : DecodeError} : d.map.decode (.object members) cx = .error e ↔
      ∃ key held, members.get? key = some held ∧ d.decode held (cx.entry key) = .error e ∧
        ∀ other < key, ∀ value, members.get? other = some value →
          ∃ x, d.decode value (cx.entry other) = .ok x := by
  refine decodeEntries_eq_error_iff.trans ?_
  simp only [Members.get?_eq_some_iff hmembers, List.mem_iff_getElem?]
  constructor
  · rintro ⟨i, key, held, hheld, hfails, hbefore⟩
    refine ⟨key, held, ⟨i, hheld⟩, hfails, ?_⟩
    rintro other hless value ⟨j, hvalue⟩
    exact hbefore j ((hmembers.lt_iff hvalue hheld).mpr hless) other value hvalue
  · rintro ⟨key, held, ⟨i, hheld⟩, hfails, hbefore⟩
    refine ⟨i, key, held, hheld, hfails, fun j hj other value hvalue => ?_⟩
    exact hbefore other ((hmembers.lt_iff hvalue hheld).mp hj) value ⟨j, hvalue⟩

end

section

variable {name : String} {fields : Fields} {members : Members} {cx : Context}

theorem Schema.record_eq_ok_iff {values : fields.Val} :
    (Schema.record name fields).decoder.decode (.object members) cx = .ok values ↔
      fields.Holds members cx values ∧
        (cx.options.rejectUnknownFields = true → ∀ key ∈ members.names, key ∈ fields.keys) := by
  refine fields.gives_read.decode_eq_ok_iff.trans ?_
  rw [← Fields.collect_eq_ok_iff]
  constructor
  · rintro ⟨_, h, hread⟩
    cases h
    exact hread
  · exact fun hread => ⟨members, rfl, hread⟩

theorem Schema.exists_record_eq_ok_iff :
    (∃ values, (Schema.record name fields).decoder.decode (.object members) cx = .ok values) ↔
      (∀ entry ∈ fields.readings, ∃ a, members.answer cx entry = .ok a) ∧
        (cx.options.rejectUnknownFields = true → ∀ key ∈ members.names, key ∈ fields.keys) := by
  rw [← Fields.exists_collect_eq_ok_iff, ← exists_and_right]
  refine exists_congr fun values => ?_
  exact Schema.record_eq_ok_iff.trans (and_congr_left fun _ => Fields.collect_eq_ok_iff.symm)

theorem Schema.record_eq_error_iff (hmembers : Ascending members) {e : DecodeError} :
    (Schema.record name fields).decoder.decode (.object members) cx = .error e ↔
      (∃ (i : Nat) (entry : String × FieldMode × Schema),
        fields.readings[i]? = some entry ∧ members.answer cx entry = .error e ∧
          ∀ j < i, ∀ other, fields.readings[j]? = some other →
            ∃ a, members.answer cx other = .ok a) ∨
      (∀ entry ∈ fields.readings, ∃ a, members.answer cx entry = .ok a) ∧
        cx.options.rejectUnknownFields = true ∧ ∃ key ∈ members.names, key ∉ fields.keys ∧
          (∀ other ∈ members.names, other ∉ fields.keys → key ≤ other) ∧
            e = .unknownField cx.path key := by
  rw [← Fields.collect_eq_error_iff, ← Fields.exists_collect_eq_ok_iff,
    ← Reading.closing_eq_error_iff hmembers]
  exact fields.gives_read.decode_eq_error_iff

end

/-- Containers and records are read part by part, in order. A list is read exactly if every item is,
at its own index, and then holds what was read of each; otherwise it is refused as its first item
that is refused. A map is read exactly if every entry is, at its own key, under the same keys;
otherwise it is refused as the entry with the least key among those refused. A record refuses an
object as the first of its fields, as declared, whose call fails; if none does, strict terms refuse
the least key that it does not declare, and otherwise it holds the answers to all calls. -/
theorem reads_parts_in_order :
    (∀ {α : Type} (d : Decoder α) (cx : Context) (items : List Json),
      ((∃ xs, d.list.decode (.array items) cx = .ok xs) ↔
        ∀ (i : Nat) item, items[i]? = some item →
          ∃ x, d.decode item (cx.index i) = .ok x) ∧
      (∀ xs, d.list.decode (.array items) cx = .ok xs → xs.length = items.length ∧
        ∀ (i : Nat) item, items[i]? = some item →
          ∃ x, xs[i]? = some x ∧ d.decode item (cx.index i) = .ok x) ∧
      ∀ e, d.list.decode (.array items) cx = .error e ↔
        ∃ (i : Nat) (item : Json), items[i]? = some item ∧
          d.decode item (cx.index i) = .error e ∧
            ∀ j < i, ∀ other, items[j]? = some other →
              ∃ x, d.decode other (cx.index j) = .ok x) ∧
    (∀ {α : Type} (d : Decoder α) (cx : Context) (members : Members), Ascending members →
      ((∃ entries, d.map.decode (.object members) cx = .ok entries) ↔
        ∀ key held, members.get? key = some held →
          ∃ x, d.decode held (cx.entry key) = .ok x) ∧
      (∀ entries, d.map.decode (.object members) cx = .ok entries →
        entries.map (·.1) = members.names ∧ ∀ key held, members.get? key = some held →
          ∃ x, (key, x) ∈ entries ∧ d.decode held (cx.entry key) = .ok x) ∧
      ∀ e, d.map.decode (.object members) cx = .error e ↔
        ∃ key held, members.get? key = some held ∧ d.decode held (cx.entry key) = .error e ∧
          ∀ other < key, ∀ value, members.get? other = some value →
            ∃ x, d.decode value (cx.entry other) = .ok x) ∧
    ∀ (name : String) (fields : Fields) (cx : Context) (members : Members), Ascending members →
      ((∃ values, (Schema.record name fields).decoder.decode (.object members) cx = .ok values) ↔
        (∀ entry ∈ fields.readings, ∃ a, members.answer cx entry = .ok a) ∧
          (cx.options.rejectUnknownFields = true → ∀ key ∈ members.names, key ∈ fields.keys)) ∧
      (∀ values, (Schema.record name fields).decoder.decode (.object members) cx = .ok values →
        fields.Holds members cx values) ∧
      ∀ e, (Schema.record name fields).decoder.decode (.object members) cx = .error e ↔
        (∃ (i : Nat) (entry : String × FieldMode × Schema),
          fields.readings[i]? = some entry ∧ members.answer cx entry = .error e ∧
            ∀ j < i, ∀ other, fields.readings[j]? = some other →
              ∃ a, members.answer cx other = .ok a) ∨
        (∀ entry ∈ fields.readings, ∃ a, members.answer cx entry = .ok a) ∧
          cx.options.rejectUnknownFields = true ∧ ∃ key ∈ members.names, key ∉ fields.keys ∧
            (∀ other ∈ members.names, other ∉ fields.keys → key ≤ other) ∧
              e = .unknownField cx.path key := by
  refine ⟨fun d cx items => ⟨?_, fun xs h => ?_, fun e => ?_⟩,
    fun d cx members hmembers => ⟨?_, fun entries h => ?_, fun e => ?_⟩,
    fun name fields cx members hmembers => ⟨Schema.exists_record_eq_ok_iff, fun values h => ?_,
      fun e => Schema.record_eq_error_iff hmembers⟩⟩
  · exact d.exists_list_eq_ok_iff cx
  · exact (d.list_eq_ok_iff cx).mp h
  · exact d.list_eq_error_iff cx
  · simp only [Members.get?_eq_some_iff hmembers]
    refine Decoder.exists_decodeEntries_eq_ok_iff.trans ?_
    exact Prod.forall
  · refine ⟨Decoder.names_of_decodeEntries h, fun key held hheld => ?_⟩
    obtain ⟨i, hi⟩ := List.mem_iff_getElem?.mp ((Members.get?_eq_some_iff hmembers).mp hheld)
    obtain ⟨x, hx, hread⟩ := (Decoder.decodeEntries_eq_ok_iff.mp h).2 i key held hi
    exact ⟨x, List.mem_of_getElem? hx, hread⟩
  · exact d.map_eq_error_iff cx hmembers
  · exact (Schema.record_eq_ok_iff.mp h).1

theorem reads_parts_in_order_position :
    Ascending [("character", Json.bool true), ("line", Json.null), ("mark", Json.null)] ∧
    Protocol.position.decoder.decode
        (.object [("character", .bool true), ("line", .null), ("mark", .null)]) (.root .strict) =
      .error (.typeMismatch ⟨"$", [.field "line"]⟩ "uinteger" "null") ∧
    Ascending [("a", Json.bool true), ("b", Json.null), ("c", Json.null)] ∧
    Decoder.boolean.map.decode
        (.object [("a", .bool true), ("b", .null), ("c", .null)]) (.root .permissive) =
      .error (.typeMismatch ⟨"$", [.entry "b"]⟩ "boolean" "null") := by
  have hplace : Ascending [("character", Json.bool true), ("line", Json.null),
    ("mark", Json.null)] := by decide +kernel
  have hmap : Ascending [("a", Json.bool true), ("b", Json.null), ("c", Json.null)] := by
    decide +kernel
  refine ⟨hplace, ?_, hmap, ?_⟩
  · refine ((reads_parts_in_order.2.2 _ _ _ _ hplace).2.2 _).mpr (.inl ⟨0, _, rfl, rfl, ?_⟩)
    exact fun j hj => absurd hj j.not_lt_zero
  · refine ((reads_parts_in_order.2.1 _ _ _ hmap).2.2 _).mpr ⟨"b", .null, rfl, rfl, ?_⟩
    intro other hless value hvalue
    -- Only the first entry has a lesser key.
    rw [Members.get?_eq_some_iff hmap] at hvalue
    rcases List.mem_cons.mp hvalue with h | hvalue
    · obtain ⟨rfl, rfl⟩ := Prod.mk.inj h
      exact ⟨true, rfl⟩
    · have hbehind : ∀ entry ∈ [("b", Json.null), ("c", Json.null)], ¬ entry.1 < "b" := by
        decide +kernel
      exact absurd hless (hbehind _ hvalue)

end LspWire
