import LspWire.Proofs.ReadingRun

/-! Runs of calls to a reader.
A call answers from the object and its place alone, so neither earlier calls nor the way they ended
change an answer. What stays of a call is the key that it read, if the object has that key; the end
of a run therefore refuses the first key that no call has read. -/

namespace LspWire

inductive ReaderCall : Type 1 where
  | contains (name : String)
  | raw (name : String)
  | required {α : Type} (d : Decoder α) (name : String)
  | optional {α : Type} (d : Decoder α) (name : String)
  | nullable {α : Type} (d : Decoder α) (name : String)
  | optionalNullable {α : Type} (d : Decoder α) (name : String)
  | literal (name expected : String)

namespace ReaderCall

def Answer : ReaderCall → Type
  | contains _ => Bool
  | raw _ => Except DecodeError (Option Json)
  | @required α _ _ => Except DecodeError α
  | @optional α _ _ => Except DecodeError (Option α)
  | @nullable α _ _ => Except DecodeError (Nullable α)
  | @optionalNullable α _ _ => Except DecodeError (Presence α)
  | literal _ _ => Except DecodeError Unit

def run : (call : ReaderCall) → ObjectReader → call.Answer × ObjectReader
  | contains name, reader => (reader.contains name, reader)
  | raw name, reader => (Reading.raw name).run reader
  | required d name, reader => (Reading.required d name).run reader
  | optional d name, reader => (Reading.optional d name).run reader
  | nullable d name, reader => (Reading.nullable d name).run reader
  | optionalNullable d name, reader => (Reading.optionalNullable d name).run reader
  | literal name expected, reader => (Reading.literal name expected).run reader

/-- The key that a call reads. To ask whether a key is there is not to read it. -/
def key? : ReaderCall → Option String
  | contains _ => none
  | raw name | required _ name | optional _ name | nullable _ name | optionalNullable _ name
  | literal name _ => some name

theorem run_answer (call : ReaderCall) (reader : ObjectReader) :
    (call.run reader).1 = (call.run ⟨reader.members, reader.context, []⟩).1 := by
  cases call <;> rfl

theorem run_reader (call : ReaderCall) (reader : ObjectReader) :
    (call.run reader).2 = call.key?.elim reader reader.consume := by
  cases call <;> rfl

@[simp] theorem members_run (call : ReaderCall) (reader : ObjectReader) :
    (call.run reader).2.members = reader.members := by
  rw [run_reader]
  cases call.key? with
  | none => rfl
  | some name => rw [Option.elim_some, reader.consume_eq]

@[simp] theorem context_run (call : ReaderCall) (reader : ObjectReader) :
    (call.run reader).2.context = reader.context := by
  rw [run_reader]
  cases call.key? with
  | none => rfl
  | some name => rw [Option.elim_some, reader.consume_eq]

theorem mem_consumed_run_iff (call : ReaderCall) (reader : ObjectReader) (name : String) :
    name ∈ (call.run reader).2.consumed ↔
      name ∈ reader.consumed ∨ call.key? = some name ∧ reader.contains name = true := by
  rw [run_reader]
  cases call.key? with
  | none => simp
  | some key =>
    rw [Option.elim_some, reader.mem_consumed_consume_iff, Option.some_inj, eq_comm]

def runAll : List ReaderCall → ObjectReader →
    List ((call : ReaderCall) × call.Answer) × ObjectReader
  | [], reader => ([], reader)
  | call :: rest, reader =>
    let (answer, next) := call.run reader
    let (answers, last) := runAll rest next
    (⟨call, answer⟩ :: answers, last)

@[simp] theorem members_runAll (calls : List ReaderCall) (reader : ObjectReader) :
    (runAll calls reader).2.members = reader.members := by
  induction calls generalizing reader with
  | nil => rfl
  | cons call rest ih => exact (ih (call.run reader).2).trans (call.members_run reader)

@[simp] theorem context_runAll (calls : List ReaderCall) (reader : ObjectReader) :
    (runAll calls reader).2.context = reader.context := by
  induction calls generalizing reader with
  | nil => rfl
  | cons call rest ih => exact (ih (call.run reader).2).trans (call.context_run reader)

theorem runAll_answers (calls : List ReaderCall) (reader : ObjectReader) :
    (runAll calls reader).1 =
      calls.map fun call => ⟨call, (call.run ⟨reader.members, reader.context, []⟩).1⟩ := by
  induction calls generalizing reader with
  | nil => rfl
  | cons call rest ih =>
    have hrest := ih (call.run reader).2
    rw [members_run, context_run] at hrest
    rw [List.map_cons, ← run_answer, ← hrest]
    rfl

def keysRead (calls : List ReaderCall) : List String := calls.filterMap key?

theorem mem_consumed_runAll_iff (calls : List ReaderCall) (reader : ObjectReader) (name : String) :
    name ∈ (runAll calls reader).2.consumed ↔
      name ∈ reader.consumed ∨ name ∈ keysRead calls ∧ reader.contains name = true := by
  induction calls generalizing reader with
  | nil => simp [runAll, keysRead]
  | cons call rest ih =>
    change name ∈ (runAll rest (call.run reader).2).2.consumed ↔ _
    have hkeys : name ∈ keysRead (call :: rest) ↔ call.key? = some name ∨ name ∈ keysRead rest := by
      simp only [keysRead, List.mem_filterMap, List.exists_mem_cons_iff]
    rw [ih, mem_consumed_run_iff, hkeys]
    simp only [ObjectReader.contains, members_run]
    tauto

theorem finish_runAll (calls : List ReaderCall) (members : Members) (cx : Context) :
    (Reading.finish.run (runAll calls ⟨members, cx, []⟩).2).1 =
      Reading.closing (keysRead calls) members cx := by
  have hunread : (runAll calls ⟨members, cx, []⟩).2.unread? =
      Reading.stray? (keysRead calls) (runAll calls ⟨members, cx, []⟩).2.members := by
    refine Reading.unread?_eq_stray? fun name => ?_
    rw [mem_consumed_runAll_iff]
    simp [ObjectReader.contains]
  rw [Reading.run_finish, hunread, members_runAll, context_runAll]
  rfl

/-- Whatever is called on a reader of an object, and however the calls end, each of them answers
what it answers on a fresh reader. The end of the run accepts the object where unknown keys are
ignored; where they are refused it accepts it once some call has read each key, and otherwise names
the least key that none has read, at the object's own place. -/
theorem run_as_fresh {members : Members} (hmembers : (Json.object members).WellFormed)
    (cx : Context) (calls : List ReaderCall) :
    ∃ fresh, ObjectReader.ofJson (.object members) cx = .ok fresh ∧
      (runAll calls fresh).1 = calls.map (fun call => ⟨call, (call.run fresh).1⟩) ∧
      (cx.options = .permissive → (Reading.finish.run (runAll calls fresh).2).1 = .ok ()) ∧
      (cx.options = .strict →
        (∀ key ∈ members.names, key ∈ keysRead calls) ∧
            (Reading.finish.run (runAll calls fresh).2).1 = .ok () ∨
          ∃ key ∈ members.names, key ∉ keysRead calls ∧
            (∀ other ∈ members.names, other ∉ keysRead calls → key ≤ other) ∧
            (Reading.finish.run (runAll calls fresh).2).1 =
              .error (.unknownField cx.path key)) := by
  refine ⟨⟨members, cx, []⟩, rfl, runAll_answers calls _, fun hcx => ?_, fun hcx => ?_⟩
  · rw [finish_runAll, Reading.closing, hcx]
    rfl
  · have hascending := ((Json.wellFormed_object_iff members).mp hmembers).1
    rw [finish_runAll, Reading.closing, hcx]
    cases hstray : Reading.stray? (keysRead calls) members with
    | none => exact .inl ⟨(Reading.stray?_eq_none_iff _ members).mp hstray, rfl⟩
    | some key =>
      obtain ⟨hkey, hunread, hleast⟩ := (Reading.stray?_eq_some_iff hascending).mp hstray
      exact .inr ⟨key, hkey, hunread, hleast, rfl⟩

theorem run_as_fresh_extra :
    let members : Members := [("extra", .null), ("line", .number (.integer 2))]
    let calls : List ReaderCall := [.contains "extra", .required .string "line",
      .required .uinteger "line", .optional .boolean "name"]
    (Json.object members).WellFormed ∧
      (runAll calls ⟨members, .root .strict, []⟩).1 = [⟨.contains "extra", true⟩,
        ⟨.required .string "line",
          .error (.typeMismatch (Path.payload.step (.field "line")) "string" "number")⟩,
        ⟨.required .uinteger "line", .ok 2⟩, ⟨.optional .boolean "name", .ok none⟩] ∧
      (Reading.finish.run (runAll calls ⟨members, .root .strict, []⟩).2).1 =
        .error (.unknownField .payload "extra") := by
  intro members calls
  have hmembers : (Json.object members).WellFormed := by decide
  obtain ⟨fresh, hfresh, hanswers, -, hstrict⟩ := run_as_fresh hmembers (.root .strict) calls
  cases hfresh
  refine ⟨hmembers, hanswers.trans rfl, ?_⟩
  rcases hstrict rfl with ⟨hread, -⟩ | ⟨key, hkey, hunread, -, hfinish⟩
  · exact absurd (hread "extra" (by decide)) (by decide)
  · have hextra : key = "extra" := by
      rcases List.mem_pair.mp hkey with rfl | rfl
      · rfl
      · exact absurd (by decide) hunread
    rw [hfinish, hextra]
    rfl

end ReaderCall

end LspWire
