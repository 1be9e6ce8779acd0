/-! Tables by name.
The names ascend, and a name entered again takes the later entry. -/

namespace LspWire

universe u

structure NameTable (β : Type u) where
  entries : List (String × β)

namespace NameTable

variable {β : Type u}

def empty : NameTable β := ⟨[]⟩

def insertInto (name : String) (entry : β) : List (String × β) → List (String × β)
  | [] => [(name, entry)]
  | (other, held) :: rest =>
    if name < other then (name, entry) :: (other, held) :: rest
    else if name = other then (name, entry) :: rest
    else (other, held) :: insertInto name entry rest

def insert (table : NameTable β) (name : String) (entry : β) : NameTable β :=
  ⟨insertInto name entry table.entries⟩

def find? : List (String × β) → String → Option β
  | [], _ => none
  | (other, held) :: rest, name => if other = name then some held else find? rest name

def get? (table : NameTable β) (name : String) : Option β := find? table.entries name

def contains (table : NameTable β) (name : String) : Bool := (table.get? name).isSome

def size (table : NameTable β) : Nat := table.entries.length

def isEmpty (table : NameTable β) : Bool := table.entries.isEmpty

def names (table : NameTable β) : List String := table.entries.map (·.1)

theorem find?_insertInto (name : String) (entry : β) (entries : List (String × β)) (key : String) :
    find? (insertInto name entry entries) key =
      if name = key then some entry else find? entries key := by
  induction entries with
  | nil => simp [insertInto, find?]
  | cons head rest ih =>
    obtain ⟨other, held⟩ := head
    simp only [insertInto]
    split
    · simp [find?]
    split
    · next h => subst h; by_cases h : name = key <;> simp [find?, h]
    · next h =>
      simp only [find?, ih]
      by_cases hk : name = key
      · subst hk; simp [Ne.symm h]
      · simp [hk]

theorem get?_insert (table : NameTable β) (name : String) (entry : β) (key : String) :
    (table.insert name entry).get? key = if name = key then some entry else table.get? key :=
  find?_insertInto name entry table.entries key

@[simp] theorem get?_empty (key : String) : (empty : NameTable β).get? key = none := rfl

end NameTable

end LspWire
