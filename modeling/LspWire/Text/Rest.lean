/-! What is left of a list that is read from its front.
A reader returns what it did not take, which is no longer than what it was given, so that a loop
over what is left comes to an end. -/

namespace LspWire

abbrev Rest {α : Type} (s : List α) := { rest : List α // rest.length ≤ s.length }

abbrev Shorter {α : Type} (s : List α) := { rest : List α // rest.length < s.length }

variable {α : Type} {s : List α}

namespace Rest

def all (s : List α) : Rest s := ⟨s, Nat.le_refl _⟩

def tail (a : α) (s : List α) : Rest (a :: s) := ⟨s, Nat.le_succ _⟩

def drop (n : Nat) (s : List α) : Rest s := ⟨s.drop n, by simp⟩

def dropWhile (p : α → Bool) (s : List α) : Rest s :=
  ⟨s.dropWhile p, (List.dropWhile_sublist p).length_le⟩

def behind (rest : Rest s) (a : α) : Rest (a :: s) := ⟨rest.1, Nat.le_succ_of_le rest.2⟩

def andThen (rest : Rest s) (next : Rest rest.1) : Rest s := ⟨next.1, Nat.le_trans next.2 rest.2⟩

def taking (rest : Rest s) (a : α) : Shorter (a :: s) := ⟨rest.1, Nat.lt_succ_of_le rest.2⟩

def andThenShorter (rest : Rest s) (next : Shorter rest.1) : Shorter s :=
  ⟨next.1, Nat.lt_of_lt_of_le next.2 rest.2⟩

end Rest

namespace Shorter

def toRest (rest : Shorter s) : Rest s := ⟨rest.1, Nat.le_of_lt rest.2⟩

def behind (rest : Shorter s) (a : α) : Shorter (a :: s) := ⟨rest.1, Nat.lt_succ_of_lt rest.2⟩

def andThen (rest : Shorter s) (next : Rest rest.1) : Shorter s :=
  ⟨next.1, Nat.lt_of_le_of_lt next.2 rest.2⟩

/-- What is left when the element in front has only been looked at. -/
def putBack (rest : Shorter s) (a : α) : Rest s := ⟨a :: rest.1, rest.2⟩

end Shorter

def firstAfter? (skip : α → Bool) : (s : List α) → Option (α × Shorter s)
  | [] => none
  | a :: s =>
    if skip a then (firstAfter? skip s).map fun (b, rest) => (b, rest.behind a)
    else some (a, (Rest.all s).taking a)

end LspWire
