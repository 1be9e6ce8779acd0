import LspWire.Decoder.Error
import LspWire.Fixture.Source

/-! The account of a run.
Each fixture has a verdict. A report counts them, keeps the defects in the order of the fixtures'
names, and joins the fixtures of an unknown type to one defect behind the others. -/

namespace LspWire

inductive Defect where
  | unexpectedFailure (typeName fixture : String) (error : DecodeError)
  | unexpectedSuccess (typeName fixture : String)
  | unknownType (typeName : String) (fixtures : List String)
  | unreadable (fixture error : String)
  | roundTripMismatch (typeName fixture detail : String)
  | panicked (fixture error : String)
deriving DecidableEq

namespace Defect

def kind : Defect → String
  | unexpectedFailure .. => "UnexpectedFailure"
  | unexpectedSuccess .. => "UnexpectedSuccess"
  | unknownType .. => "UnknownType"
  | unreadable .. => "Unreadable"
  | roundTripMismatch .. => "RoundTripMismatch"
  | panicked .. => "Panicked"

def message : Defect → String
  | unexpectedFailure typeName fixture error =>
    fixture ++ ": expected " ++ typeName ++ " to decode, got " ++ error.message
  | unexpectedSuccess typeName fixture =>
    fixture ++ ": expected " ++ typeName ++ " to be rejected, but it decoded"
  | unknownType typeName fixtures =>
    "no binding registered for type " ++ typeName ++ " (used by " ++
      ", ".intercalate fixtures ++ ")"
  | unreadable fixture error => fixture ++ ": unreadable: " ++ error
  | roundTripMismatch typeName fixture detail =>
    fixture ++ ": " ++ typeName ++ " does not survive re-encoding: " ++ detail
  | panicked fixture error => fixture ++ ": evaluation task failed: " ++ error

/-- Whether the defect lies in what is registered and not in a fixture. -/
def isConfiguration : Defect → Bool
  | unknownType .. => true
  | _ => false

def line (d : Defect) : String := "  [" ++ d.kind ++ "] " ++ d.message ++ "\n"

end Defect

inductive Verdict where
  | pass
  | fail (defect : Defect)
  /-- No binding is known for the type in the fixture's name. -/
  | unknownType
deriving DecidableEq

namespace Verdict

def isPass : Verdict → Bool
  | pass => true
  | _ => false

def isUnknown : Verdict → Bool
  | unknownType => true
  | _ => false

def defect? : Verdict → Option Defect
  | fail defect => some defect
  | _ => none

end Verdict

structure Report where
  source : String
  discovered : Nat
  skipped : Nat
  passed : Nat
  defects : List Defect
deriving DecidableEq

namespace Report

/-- The verdicts in order of the fixtures' names; those of one name keep theirs. -/
def inOrder (verdicts : List (Fixture × Verdict)) : List (Fixture × Verdict) :=
  verdicts.mergeSort fun a b => decide (a.1.id ≤ b.1.id)

def unknown (verdicts : List (Fixture × Verdict)) : List Fixture :=
  (verdicts.filter (·.2.isUnknown)).map (·.1)

/-- The type names of fixtures in ascending order, each once. -/
def typeNames (fixtures : List Fixture) : List String :=
  (fixtures.map (·.name.typeName)).eraseDups.mergeSort fun a b => decide (a ≤ b)

def unknownDefects (fixtures : List Fixture) : List Defect :=
  (typeNames fixtures).map fun typeName =>
    .unknownType typeName ((fixtures.filter (·.name.typeName == typeName)).map (·.id))

def ofVerdicts (source : String) (skipped : Nat) (verdicts : List (Fixture × Verdict)) : Report :=
  let ordered := inOrder verdicts
  { source, skipped
    discovered := verdicts.length
    passed := ordered.countP (·.2.isPass)
    defects := ordered.filterMap (·.2.defect?) ++ unknownDefects (unknown ordered) }

def isSuccess (r : Report) : Bool := r.defects.isEmpty

def exitCode (r : Report) : Nat := if r.isSuccess then 0 else 1

def count (r : Report) (kind : String) : Nat := r.defects.countP (·.kind == kind)

def unknownTypes (r : Report) : List String :=
  r.defects.filterMap fun
    | .unknownType typeName _ => some typeName
    | _ => none

def listed (title : String) (defects : List Defect) : String :=
  if defects.isEmpty then "" else title ++ ":\n" ++ String.join (defects.map Defect.line)

def text (r : Report) : String :=
  "Conformance run over " ++ r.source ++ "\n  " ++ toString r.discovered ++ " fixtures, " ++
    toString r.passed ++ " passed, " ++ toString (r.discovered - r.passed) ++ " failed, " ++
    toString r.skipped ++ " skipped\n" ++
    listed "Fixture defects" (r.defects.filter (!·.isConfiguration)) ++
    listed "Configuration defects" (r.defects.filter (·.isConfiguration)) ++
    (if r.isSuccess then "PASS" else "FAIL")

end Report

end LspWire
