import LspWire.Text.CodeTable
import LspWire.Text.Quoted

/-! Digits and quoted text read back.
The digits of a number stand for it, and the code of a character in quoted text tells the character
and where the code ends. So quoted text tells the string it was made of, whatever follows it. -/

namespace LspWire.Text

section

variable {base : Nat} (hone : 1 < base) (hsixteen : base ≤ 16)

include hone hsixteen

theorem toDigits_induction {P : Nat → List Char → Prop} (digit : ∀ d < 16, P d [d.digitChar])
    (next : ∀ front digits, ∀ d < 16, P front digits →
      P (front * base + d) (digits ++ [d.digitChar])) (n : Nat) : P n (Nat.toDigits base n) := by
  induction n using Nat.strongRecOn with
  | ind n ih =>
    rw [Nat.toDigits_eq_if hone]
    split
    · next hless => exact digit n (Nat.lt_of_lt_of_le hless hsixteen)
    · next hless =>
      have hpos : 0 < base := Nat.zero_lt_of_lt hone
      have hfront : n / base < n :=
        Nat.div_lt_self (Nat.lt_of_lt_of_le hpos (Nat.le_of_not_lt hless)) hone
      have hlast : n % base < 16 := Nat.lt_of_lt_of_le (Nat.mod_lt n hpos) hsixteen
      have hn := next (n / base) _ (n % base) hlast (ih _ hfront)
      rwa [Nat.mul_comm, Nat.div_add_mod] at hn

theorem number_toDigits (n : Nat) : number base (Nat.toDigits base n) = n := by
  have hvalue : ∀ d < 16, (if d.digitChar.isDigit then d.digitChar.toNat - '0'.toNat
      else d.digitChar.toLower.toNat - 'a'.toNat + 10) = d := by decide
  refine toDigits_induction hone hsixteen (P := fun n digits => number base digits = n)
    (fun d hd => ?_) (fun front digits d hd ih => ?_) n
  · rw [number, List.foldl_cons, List.foldl_nil, hvalue d hd, Nat.zero_mul, Nat.zero_add]
  · rw [number, List.foldl_append, List.foldl_cons, List.foldl_nil, hvalue d hd, ← number, ih]

theorem isHexDigit_of_mem_toDigits (n : Nat) :
    ∀ c ∈ Nat.toDigits base n, isHexDigit c = true := by
  have hdigit : ∀ d < 16, isHexDigit d.digitChar = true := by decide
  refine toDigits_induction hone hsixteen (P := fun _ digits => ∀ c ∈ digits, isHexDigit c = true)
    (fun d hd => ?_) (fun front digits d hd ih => ?_) n
  · exact List.forall_mem_singleton.mpr (hdigit d hd)
  · exact List.forall_mem_append.mpr ⟨ih, List.forall_mem_singleton.mpr (hdigit d hd)⟩

end

/-- What follows does not go on with characters of this kind. -/
def Ends (p : Char → Bool) (rest : List Char) : Prop := ∀ c ∈ rest.head?, p c = false

section

variable {p : Char → Bool} {run rest : List Char}

theorem takeWhile_run (hrun : ∀ c ∈ run, p c = true) (hrest : Ends p rest) :
    (run ++ rest).takeWhile p = run := by
  rw [List.takeWhile_append_of_pos hrun]
  cases rest with
  | nil => exact List.append_nil run
  | cons c rest =>
    rw [List.takeWhile_cons_of_neg (by simp [hrest c rfl]), List.append_nil]

theorem dropWhile_run (hrun : ∀ c ∈ run, p c = true) (hrest : Ends p rest) :
    (run ++ rest).dropWhile p = rest := by
  rw [List.dropWhile_append_of_pos hrun]
  cases rest with
  | nil => rfl
  | cons c rest => exact List.dropWhile_cons_of_neg (by simp [hrest c rfl])

theorem run_append_inj {run' rest' : List Char} (hrun : ∀ c ∈ run, p c = true)
    (hrun' : ∀ c ∈ run', p c = true) (hrest : Ends p rest) (hrest' : Ends p rest')
    (h : run ++ rest = run' ++ rest') : run = run' ∧ rest = rest' := by
  constructor
  · rw [← takeWhile_run hrun hrest, h, takeWhile_run hrun' hrest']
  · rw [← dropWhile_run hrun hrest, h, dropWhile_run hrun' hrest']

end

/-- The character whose code goes on like this behind a backslash, and what follows the code. -/
def unescapeMark : List Char → Option (Char × List Char)
  | '"' :: rest => some ('"', rest)
  | '\\' :: rest => some ('\\', rest)
  | 'n' :: rest => some ('\n', rest)
  | 'r' :: rest => some ('\r', rest)
  | 't' :: rest => some ('\t', rest)
  | '0' :: rest => some ('\x00', rest)
  | 'u' :: '{' :: rest =>
    some (Char.ofNat (number 16 (rest.takeWhile isHexDigit)), (rest.dropWhile isHexDigit).tail)
  | _ => none

def unescape : List Char → Option (Char × List Char)
  | [] => none
  | c :: rest =>
    if c = '"' then none
    else if c = '\\' then unescapeMark rest
    else some (c, rest)

theorem unescapeMark_toDigits (n : Nat) (rest : List Char) :
    unescapeMark ('u' :: '{' :: (Nat.toDigits 16 n ++ '}' :: rest)) = some (Char.ofNat n, rest) := by
  have hdigits : ∀ d ∈ Nat.toDigits 16 n, isHexDigit d = true :=
    isHexDigit_of_mem_toDigits (by decide) (by decide) n
  have hclose : Ends isHexDigit ('}' :: rest) := fun d hd => by
    rw [← Option.some.inj hd]
    rfl
  rw [unescapeMark, takeWhile_run hdigits hclose, dropWhile_run hdigits hclose,
    number_toDigits (by decide) (by decide), List.tail_cons]

theorem unescape_escape (c : Char) (rest : List Char) :
    unescape (escape c ++ rest) = some (c, rest) := by
  unfold escape
  split
  · next h => rw [h]; rfl
  next hquote =>
  split
  · next h => rw [h]; rfl
  next hbackslash =>
  split
  · next h => rw [h]; rfl
  split
  · next h => rw [h]; rfl
  split
  · next h => rw [h]; rfl
  split
  · next h => rw [h]; rfl
  split
  · rw [List.singleton_append, unescape, if_neg hquote, if_neg hbackslash]
  · rw [List.append_assoc, List.append_assoc]
    refine (unescapeMark_toDigits c.toNat rest).trans ?_
    rw [Char.ofNat_toNat]

theorem flatMap_escape_append_inj {s s' rest rest' : List Char}
    (h : s.flatMap escape ++ '"' :: rest = s'.flatMap escape ++ '"' :: rest') :
    s = s' ∧ rest = rest' := by
  -- No code begins with a quote, which `unescape` refuses, so both texts end at once.
  have hread := congrArg unescape h
  induction s generalizing s' with
  | nil =>
    cases s' with
    | nil => exact ⟨rfl, (List.cons.inj h).2⟩
    | cons c' s' =>
      rw [List.flatMap_cons, List.append_assoc, unescape_escape] at hread
      cases hread
  | cons c s ih =>
    rw [List.flatMap_cons, List.append_assoc, unescape_escape] at hread
    cases s' with
    | nil => cases hread
    | cons c' s' =>
      rw [List.flatMap_cons, List.append_assoc, unescape_escape] at hread
      obtain ⟨rfl, hrest⟩ := Prod.mk.inj (Option.some.inj hread)
      obtain ⟨rfl, rfl⟩ := ih hrest (congrArg unescape hrest)
      exact ⟨rfl, rfl⟩

theorem quotedChars_append_inj {s s' rest rest' : List Char}
    (h : quotedChars s ++ rest = quotedChars s' ++ rest') : s = s' ∧ rest = rest' := by
  simp only [quotedChars, List.cons_append, List.append_assoc, List.nil_append] at h
  exact flatMap_escape_append_inj (List.cons.inj h).2

end LspWire.Text
