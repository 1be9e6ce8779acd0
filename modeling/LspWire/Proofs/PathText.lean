import LspWire.Proofs.ErrorTruth
import LspWire.Proofs.MessageRecord
import LspWire.Proofs.QuotedText

/-! What the text of a path tells.
The name of a field ends where its letters end, an index and a quoted key at their closing bracket.
So the text of each step is told apart from what stands behind it, and the text of a path tells its
steps, whatever the keys of maps are. -/

namespace LspWire

def Text.lettered (name : String) : Bool := name != "" && name.toList.all Char.isAlpha

namespace PathStep

/-- A step to a field names it by letters; indexes and keys may be any. -/
def Spelled : PathStep → Prop
  | .field name => Text.lettered name = true
  | .index _ => True
  | .entry _ => True

instance : DecidablePred Spelled
  | .field name => inferInstanceAs (Decidable (Text.lettered name = true))
  | .index _ => .isTrue trivial
  | .entry _ => .isTrue trivial

theorem field_append (name : String) (rest : List Char) :
    (field name).text.toList ++ rest = '.' :: (name.toList ++ rest) := by
  simp [text]

theorem index_append (position : Nat) (rest : List Char) :
    (index position).text.toList ++ rest = '[' :: (Nat.toDigits 10 position ++ ']' :: rest) := by
  simp [text]

theorem entry_append (key : String) (rest : List Char) :
    (entry key).text.toList ++ rest = '[' :: (Text.quotedChars key.toList ++ ']' :: rest) := by
  simp [text, Text.quoted]

theorem exists_text_append (s : PathStep) (rest : List Char) :
    ∃ c chars, s.text.toList ++ rest = c :: chars ∧ c.isAlpha = false := by
  cases s with
  | field name => exact ⟨_, _, field_append name rest, by decide⟩
  | index position => exact ⟨_, _, index_append position rest, by decide⟩
  | entry key => exact ⟨_, _, entry_append key rest, by decide⟩

theorem index_inj {m n : Nat} {rest rest' : List Char}
    (h : Nat.toDigits 10 m ++ ']' :: rest = Nat.toDigits 10 n ++ ']' :: rest') :
    m = n ∧ rest = rest' := by
  have hdigits (k : Nat) : ∀ c ∈ Nat.toDigits 10 k, c.isDigit = true :=
    fun c => Nat.isDigit_of_mem_toDigits (by decide) (by decide)
  have hclose (tail : List Char) : Text.Ends Char.isDigit (']' :: tail) := by simp [Text.Ends]
  obtain ⟨hsame, htail⟩ :=
    Text.run_append_inj (hdigits m) (hdigits n) (hclose rest) (hclose rest') h
  have hvalue := congrArg (Nat.ofDigitChars 10 · 0) hsame
  exact ⟨by simpa using hvalue, (List.cons.inj htail).2⟩

theorem toDigits_append_ne_quoted (n : Nat) (key rest rest' : List Char) :
    Nat.toDigits 10 n ++ rest ≠ Text.quotedChars key ++ rest' := by
  intro h
  cases hdigits : Nat.toDigits 10 n with
  | nil => exact Nat.toDigits_ne_nil hdigits
  | cons c digits =>
    have hdigit : c.isDigit = true :=
      Nat.isDigit_of_mem_toDigits (b := 10) (n := n) (by decide) (by decide)
        (hdigits ▸ List.mem_cons_self)
    rw [hdigits] at h
    rw [(List.cons.inj h).1] at hdigit
    exact absurd hdigit (by decide)

theorem text_append_inj {s s' : PathStep} (hs : s.Spelled) (hs' : s'.Spelled)
    {rest rest' : List Char} (hrest : Text.Ends Char.isAlpha rest)
    (hrest' : Text.Ends Char.isAlpha rest')
    (h : s.text.toList ++ rest = s'.text.toList ++ rest') : s = s' ∧ rest = rest' := by
  have hletters {name : String} (hname : (field name).Spelled) :
      ∀ c ∈ name.toList, c.isAlpha = true := by
    rw [Spelled, Text.lettered, Bool.and_eq_true, List.all_eq_true] at hname
    exact hname.2
  -- A point tells a field from the others, a digit behind the bracket an index from a key.
  have hpoint : '.' ≠ '[' := by decide
  cases s with
  | field name =>
    rw [field_append] at h
    cases s' with
    | field name' =>
      rw [field_append] at h
      obtain ⟨hname, hsame⟩ :=
        Text.run_append_inj (hletters hs) (hletters hs') hrest hrest' (List.cons.inj h).2
      exact ⟨congrArg field (String.toList_inj.mp hname), hsame⟩
    | index position' =>
      rw [index_append] at h
      exact absurd (List.cons.inj h).1 hpoint
    | entry key' =>
      rw [entry_append] at h
      exact absurd (List.cons.inj h).1 hpoint
  | index position =>
    rw [index_append] at h
    cases s' with
    | field name' =>
      rw [field_append] at h
      exact absurd (List.cons.inj h).1 hpoint.symm
    | index position' =>
      rw [index_append] at h
      obtain ⟨rfl, hsame⟩ := index_inj (List.cons.inj h).2
      exact ⟨rfl, hsame⟩
    | entry key' =>
      rw [entry_append] at h
      exact absurd (List.cons.inj h).2 (toDigits_append_ne_quoted _ _ _ _)
  | entry key =>
    rw [entry_append] at h
    cases s' with
    | field name' =>
      rw [field_append] at h
      exact absurd (List.cons.inj h).1 hpoint.symm
    | index position' =>
      rw [index_append] at h
      exact absurd (List.cons.inj h).2.symm (toDigits_append_ne_quoted _ _ _ _)
    | entry key' =>
      rw [entry_append] at h
      obtain ⟨hkey, hclose⟩ := Text.quotedChars_append_inj (List.cons.inj h).2
      exact ⟨congrArg entry (String.toList_inj.mp hkey), (List.cons.inj hclose).2⟩

end PathStep

namespace Path

theorem toList_text_foldl (base : Path) (steps : List PathStep) :
    (steps.foldl step base).text.toList =
      base.text.toList ++ steps.flatMap fun s => s.text.toList := by
  induction steps generalizing base with
  | nil => simp
  | cons s steps ih =>
    rw [List.foldl_cons, ih, text_step, String.toList_append, List.append_assoc, List.flatMap_cons]

theorem ends_flatMap_text (steps : List PathStep) :
    Text.Ends Char.isAlpha (steps.flatMap fun s => s.text.toList) := by
  cases steps with
  | nil => rintro c ⟨⟩
  | cons s steps =>
    obtain ⟨c, chars, htext, hc⟩ := s.exists_text_append (steps.flatMap fun s => s.text.toList)
    rw [List.flatMap_cons, htext]
    rintro _ ⟨⟩
    exact hc

theorem flatMap_text_ne_nil (s : PathStep) (steps : List PathStep) :
    ((s :: steps).flatMap fun s => s.text.toList) ≠ [] := by
  obtain ⟨c, chars, htext, -⟩ := s.exists_text_append (steps.flatMap fun s => s.text.toList)
  rw [List.flatMap_cons, htext]
  exact List.cons_ne_nil _ _

theorem flatMap_text_inj {steps others : List PathStep} (hsteps : ∀ s ∈ steps, s.Spelled)
    (hothers : ∀ s ∈ others, s.Spelled)
    (h : (steps.flatMap fun s => s.text.toList) = others.flatMap fun s => s.text.toList) :
    steps = others := by
  induction steps generalizing others with
  | nil =>
    cases others with
    | nil => rfl
    | cons s' others => exact absurd h.symm (flatMap_text_ne_nil s' others)
  | cons s steps ih =>
    cases others with
    | nil => exact absurd h (flatMap_text_ne_nil s steps)
    | cons s' others =>
      rw [List.forall_mem_cons] at hsteps hothers
      rw [List.flatMap_cons, List.flatMap_cons] at h
      obtain ⟨rfl, hrest⟩ := PathStep.text_append_inj hsteps.1 hothers.1
        (ends_flatMap_text steps) (ends_flatMap_text others) h
      rw [ih hsteps.2 hothers.2 hrest]

end Path

mutual

def Schema.names : Schema → List String
  | .list item => item.names
  | .map item => item.names
  | .nullable item => item.names
  | .record _ fields => fields.names
  | .union _ variants => variants.names
  | .marked _ _ variants => variants.names
  | _ => []

def Fields.names : Fields → List String
  | .nil => []
  | .cons form type rest => form.key :: (type.names ++ rest.names)

def Variants.names : Variants → List String
  | .nil => []
  | .cons _ _ _ type rest => type.names ++ rest.names

end

theorem Fields.names_of_mem {key : String} {mode : FieldMode} {type : Schema} :
    ∀ {fields : Fields}, (key, mode, type) ∈ fields.readings →
      key ∈ fields.names ∧ type.names ⊆ fields.names
  | .nil, h => by cases h
  | .cons form own rest, h => by
    rw [names]
    rcases List.mem_cons.mp h with h | h
    · cases h
      exact ⟨List.mem_cons_self, fun _ hname =>
        List.mem_cons_of_mem _ (List.mem_append_left _ hname)⟩
    · obtain ⟨hkey, htype⟩ := names_of_mem h
      exact ⟨List.mem_cons_of_mem _ (List.mem_append_right _ hkey), fun _ hname =>
        List.mem_cons_of_mem _ (List.mem_append_right _ (htype hname))⟩

theorem Variants.names_of_mem {type : Schema} : ∀ {variants : Variants},
    type ∈ variants.types → type.names ⊆ variants.names
  | .nil, h => by cases h
  | .cons _ _ _ own rest, h => by
    rw [names]
    rcases List.mem_cons.mp h with rfl | h
    · exact List.subset_append_left _ _
    · exact fun _ hname => List.mem_append_right _ (names_of_mem h hname)

theorem Schema.Reaches.field_mem_names {s part : Schema} {value held : Json}
    {steps : List PathStep} (h : s.Reaches value steps part held) {name : String}
    (hname : .field name ∈ steps) : name ∈ s.names := by
  induction h with
  | here => cases hname
  | item _ _ ih => exact ih (by simpa using hname)
  | entry _ _ ih => exact ih (by simpa using hname)
  | field hfield _ _ ih =>
    obtain ⟨hkey, htype⟩ := Fields.names_of_mem hfield
    rcases List.mem_cons.mp hname with h | hname
    · cases h
      exact hkey
    · exact htype (ih hname)
  | nullable _ ih => exact ih hname
  | marked _ htype _ ih =>
    exact Variants.names_of_mem (Variants.mem_types_of_typeOf? htype) (ih hname)

theorem WireType.names_lettered : (all.all fun entry =>
    entry.2.layouts.all fun s => s.names.all Text.lettered) = true := by decide +kernel

/-- The text of a path tells its steps: from one place, steps that name fields by letters lead to
the same text only if they are the same, whatever the indexes and keys. Steps into a document of a
protocol type name fields by letters. -/
theorem path_text_tells_steps :
    (∀ (base : Path) (steps others : List PathStep), (∀ s ∈ steps, s.Spelled) →
      (∀ s ∈ others, s.Spelled) →
        ((steps.foldl Path.step base).text = (others.foldl Path.step base).text ↔
          steps = others)) ∧
    ∀ name t, (name, t) ∈ WireType.all → ∀ s ∈ t.layouts, ∀ value steps part held,
      s.Reaches value steps part held → ∀ step ∈ steps, step.Spelled := by
  refine ⟨fun base steps others hsteps hothers => ⟨fun h => ?_, fun h => h ▸ rfl⟩,
    fun name t ht s hs value steps part held hreaches step hstep => ?_⟩
  · have hchars := congrArg String.toList h
    rw [Path.toList_text_foldl, Path.toList_text_foldl] at hchars
    exact Path.flatMap_text_inj hsteps hothers (List.append_cancel_left hchars)
  · cases step with
    | field key =>
      have hall := List.all_eq_true.mp (List.all_eq_true.mp WireType.names_lettered _ ht) s hs
      exact List.all_eq_true.mp hall key (hreaches.field_mem_names hstep)
    | index _ => trivial
    | entry _ => trivial

theorem path_text_tells_steps_key :
    (∀ s ∈ [PathStep.field "changes", .entry "a\"][0].edit"], s.Spelled) ∧
    (∀ s ∈ [PathStep.field "changes", .entry "a", .index 0, .field "edit"], s.Spelled) ∧
    ([PathStep.field "changes", .entry "a\"][0].edit"].foldl Path.step .payload).text ≠
      ([PathStep.field "changes", .entry "a", .index 0, .field "edit"].foldl
        Path.step .payload).text ∧
    ("Position", WireType.plain Protocol.position) ∈ WireType.all ∧
    Protocol.position.Reaches (.object [("line", .number (.integer 1))]) [.field "line"] .uinteger
      (.number (.integer 1)) ∧
    (PathStep.field "line").Spelled := by
  have hkey : ∀ s ∈ [PathStep.field "changes", .entry "a\"][0].edit"], s.Spelled := by
    decide +kernel
  have hsteps : ∀ s ∈ [PathStep.field "changes", .entry "a", .index 0, .field "edit"],
      s.Spelled := by decide +kernel
  have hposition : ("Position", WireType.plain Protocol.position) ∈ WireType.all :=
    List.mem_of_getElem? (i := 0) rfl
  have hreaches : Protocol.position.Reaches (.object [("line", .number (.integer 1))])
      [.field "line"] .uinteger (.number (.integer 1)) :=
    .field List.mem_cons_self rfl (.here _ _)
  refine ⟨hkey, hsteps, fun h => ?_, hposition, hreaches, ?_⟩
  · have hsame := (path_text_tells_steps.1 .payload _ _ hkey hsteps).mp h
    revert hsame
    decide
  · exact path_text_tells_steps.2 _ _ hposition _ List.mem_cons_self _ _ _ _ hreaches _
      List.mem_cons_self

end LspWire
