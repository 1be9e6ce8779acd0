import LspWire.Text.Quoted

/-! Where a value stands in a payload.
A path is the name of what it starts from and the steps into it. Its text joins a field with a
point, an index in brackets, and the key of a map entry in brackets as quoted text. -/

namespace LspWire

inductive PathStep where
  | field (name : String)
  | index (position : Nat)
  | entry (key : String)
deriving DecidableEq

def PathStep.text : PathStep → String
  | .field name => "." ++ name
  | .index position => "[" ++ toString position ++ "]"
  | .entry key => "[" ++ Text.quoted key ++ "]"

/-- The steps lead from the value called `root` inwards, outermost first. -/
structure Path where
  root : String
  steps : List PathStep
deriving DecidableEq

namespace Path

def payload : Path := ⟨"$", []⟩

def step (path : Path) (s : PathStep) : Path := { path with steps := path.steps ++ [s] }

def text (path : Path) : String := path.root ++ String.join (path.steps.map PathStep.text)

@[simp] theorem root_step (path : Path) (s : PathStep) : (path.step s).root = path.root := rfl

@[simp] theorem steps_step (path : Path) (s : PathStep) :
    (path.step s).steps = path.steps ++ [s] := rfl

theorem text_step (path : Path) (s : PathStep) : (path.step s).text = path.text ++ s.text := by
  simp [text, String.join, String.append_assoc]

end Path

end LspWire
