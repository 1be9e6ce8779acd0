import LspWire.Fixture.Name

/-! How the names of fixtures are spelled.
A file name is read exactly when it is spelled as a type, an outcome and a discriminator, and what
is read spells it again. The type and the outcome have no dash, so the first two dashes end them;
the discriminator is whatever stands between the second one and the last `.json`. -/

namespace LspWire

theorem ExpectedOutcome.ofToken?_eq_some_iff {token : String} {outcome : ExpectedOutcome} :
    ofToken? token = some outcome ↔ token = outcome.token := by
  refine ⟨fun h => ?_, fun h => h ▸ ofToken?_token outcome⟩
  unfold ofToken? at h
  split at h
  · next heq => cases h; exact heq
  split at h
  · next heq => cases h; exact heq
  · cases h

namespace FixtureName

def IsLetter (c : Char) : Prop :=
  ('A' ≤ c ∧ c ≤ 'Z') ∨ ('a' ≤ c ∧ c ≤ 'z') ∨ ('0' ≤ c ∧ c ≤ '9') ∨ c = '_'

/-- The names that files can have: all but a type without letters or with other ones, and but an
empty discriminator. -/
structure Legal (name : FixtureName) : Prop where
  type_ne : name.typeName ≠ ""
  type_letters : ∀ c ∈ name.typeName.toList, IsLetter c
  discriminator_ne : name.discriminator ≠ ""

/-- The file name is spelled as the grammar says. -/
def Spells (fileName : String) (name : FixtureName) : Prop :=
  name.Legal ∧
    (name.expected = .accept ∧
        fileName = name.typeName ++ "-True-" ++ name.discriminator ++ ".json" ∨
      name.expected = .reject ∧
        fileName = name.typeName ++ "-False-" ++ name.discriminator ++ ".json")

theorem isTypeChar_iff (c : Char) : isTypeChar c = true ↔ IsLetter c := by
  unfold isTypeChar Char.isAlphanum Char.isAlpha Char.isUpper Char.isLower Char.isDigit
  simp only [IsLetter, Bool.or_eq_true, Bool.and_eq_true, decide_eq_true_eq, beq_iff_eq, or_assoc]
  rfl

theorem splitDash_eq_some_iff {cs front back : List Char} :
    splitDash cs = some (front, back) ↔ '-' ∉ front ∧ cs = front ++ '-' :: back := by
  induction cs generalizing front with
  | nil => simp [splitDash]
  | cons c rest ih =>
    rw [splitDash]
    split
    · next hdash =>
      subst hdash
      constructor
      · intro h
        cases h
        exact ⟨List.not_mem_nil, rfl⟩
      · rintro ⟨hfront, h⟩
        cases front with
        | nil => cases h; rfl
        | cons d front => cases h; exact absurd List.mem_cons_self hfront
    · next hne =>
      rw [Option.map_eq_some_iff]
      constructor
      · rintro ⟨⟨front', back'⟩, hsplit, h⟩
        cases h
        obtain ⟨hfront, rfl⟩ := ih.mp hsplit
        exact ⟨List.not_mem_cons_of_ne_of_not_mem (Ne.symm hne) hfront, rfl⟩
      · rintro ⟨hfront, h⟩
        cases front with
        | nil => cases h; exact absurd rfl hne
        | cons d front =>
          cases h
          exact ⟨(front, back), ih.mpr ⟨List.not_mem_of_not_mem_cons hfront, rfl⟩, rfl⟩

theorem stem?_eq_some_iff {cs stem : List Char} :
    stem? cs = some stem ↔ cs = stem ++ extension := by
  unfold stem?
  split
  · next h =>
    obtain ⟨front, rfl⟩ := List.isSuffixOf_iff_suffix.mp h
    simp [eq_comm]
  · next h =>
    refine ⟨fun h => (by cases h), ?_⟩
    rintro rfl
    exact absurd (List.isSuffixOf_iff_suffix.mpr ⟨stem, rfl⟩) h

theorem notMem_typeName {name : FixtureName} (h : name.Legal) : '-' ∉ name.typeName.toList := by
  intro hmem
  have hletter := (isTypeChar_iff '-').mpr (h.type_letters '-' hmem)
  exact absurd hletter (by decide)

theorem notMem_token (outcome : ExpectedOutcome) : '-' ∉ outcome.token.toList := by
  cases outcome <;> decide

theorem legal_iff (name : FixtureName) :
    name.Legal ↔ name.typeName.toList ≠ [] ∧ name.typeName.toList.all isTypeChar = true ∧
      name.discriminator.toList ≠ [] := by
  have hletters : name.typeName.toList.all isTypeChar = true ↔
      ∀ c ∈ name.typeName.toList, IsLetter c := by
    simp only [List.all_eq_true, isTypeChar_iff]
  rw [hletters, ne_eq, ne_eq, String.toList_eq_nil_iff, String.toList_eq_nil_iff]
  exact ⟨fun h => ⟨h.type_ne, h.type_letters, h.discriminator_ne⟩,
    fun h => ⟨h.1, h.2.1, h.2.2⟩⟩

theorem toList_text (name : FixtureName) :
    name.text.toList = (name.typeName.toList ++
      '-' :: (name.expected.token.toList ++ '-' :: name.discriminator.toList)) ++ extension := by
  simp [text, extension, String.toList_append]

theorem spells_of_parse? {fileName : String} {name : FixtureName}
    (h : parse? fileName = some name) : name.Legal ∧ name.text = fileName := by
  obtain ⟨stem, hstem, h⟩ := Option.bind_eq_some_iff.mp h
  obtain ⟨⟨type, rest⟩, htype, h⟩ := Option.bind_eq_some_iff.mp h
  obtain ⟨⟨token, discriminator⟩, htoken, h⟩ := Option.bind_eq_some_iff.mp h
  obtain ⟨outcome, houtcome, h⟩ := Option.bind_eq_some_iff.mp h
  split at h
  · next hlegal =>
    cases h
    refine ⟨(legal_iff _).mpr (by simpa using hlegal), String.toList_inj.mp ?_⟩
    rw [ExpectedOutcome.ofToken?_eq_some_iff] at houtcome
    rw [toList_text, stem?_eq_some_iff.mp hstem, (splitDash_eq_some_iff.mp htype).2,
      (splitDash_eq_some_iff.mp htoken).2, ← houtcome]
    simp only [String.toList_ofList]
  · cases h

theorem parse?_text_of_legal {name : FixtureName} (h : name.Legal) :
    parse? name.text = some name := by
  refine Option.bind_eq_some_iff.mpr ⟨_, stem?_eq_some_iff.mpr name.toList_text, ?_⟩
  refine Option.bind_eq_some_iff.mpr
    ⟨_, splitDash_eq_some_iff.mpr ⟨notMem_typeName h, rfl⟩, ?_⟩
  refine Option.bind_eq_some_iff.mpr
    ⟨_, splitDash_eq_some_iff.mpr ⟨notMem_token name.expected, rfl⟩, ?_⟩
  refine Option.bind_eq_some_iff.mpr ⟨name.expected, ?_, ?_⟩
  · exact ExpectedOutcome.ofToken?_eq_some_iff.mpr String.ofList_toList
  · refine (if_pos ((legal_iff name).mp h)).trans ?_
    simp only [String.ofList_toList]
    rfl

theorem spells_iff (fileName : String) (name : FixtureName) :
    Spells fileName name ↔ name.Legal ∧ name.text = fileName := by
  refine and_congr_right fun _ => ?_
  cases hexpected : name.expected <;>
    simp [text, hexpected, ExpectedOutcome.token, String.append_assoc, eq_comm]

/-- Reading accepts exactly the file names of the grammar, as the name that they spell; its text is
the file name again. Every name with such a type and discriminator is read back from its text, and
no two file names are read as one name. -/
theorem parse?_iff_spells :
    (∀ fileName name, parse? fileName = some name ↔ Spells fileName name) ∧
      (∀ fileName name, parse? fileName = some name → name.text = fileName) ∧
      (∀ name : FixtureName, name.Legal → parse? name.text = some name) ∧
      ∀ fileName other name, parse? fileName = some name → parse? other = some name →
        fileName = other := by
  refine ⟨fun fileName name => ?_, fun _ _ h => (spells_of_parse? h).2,
    fun _ => parse?_text_of_legal, fun _ _ _ h h' => ?_⟩
  · rw [spells_iff]
    refine ⟨spells_of_parse?, ?_⟩
    rintro ⟨hlegal, rfl⟩
    exact parse?_text_of_legal hlegal
  · exact (spells_of_parse? h).2.symm.trans (spells_of_parse? h').2

theorem parse?_iff_spells_dotted :
    Legal ⟨"Range", .reject, "-1.json"⟩ ∧
      parse? "Range-False--1.json.json" = some ⟨"Range", .reject, "-1.json"⟩ := by
  have hlegal : Legal ⟨"Range", .reject, "-1.json"⟩ := (legal_iff _).mpr (by decide)
  have hread := parse?_iff_spells.2.2.1 _ hlegal
  exact ⟨hlegal, hread⟩

end FixtureName

end LspWire
