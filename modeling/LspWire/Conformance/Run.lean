import LspWire.Config.Basic
import LspWire.Conformance.Evaluation

/-! A run over the fixtures of a source.
Each fixture is read and evaluated on its own: one that cannot be read, or whose evaluation
crashes, has a defect and leaves the others alone. Only a listing that fails ends the run. -/

namespace LspWire

structure Checker where
  registry : TypeRegistry
  config : Config

structure ListFailure where
  source : String
  error : FixtureError

/-- The failure with all that lies behind it. -/
def ListFailure.message (failure : ListFailure) : String :=
  "Failed to list fixtures in " ++ failure.source ++ ": " ++ failure.error.message ++
    (match failure.error.cause? with
      | some cause => ": " ++ cause
      | none => "")

def Attempt.verdict (fixture : Fixture) : Attempt Verdict → Verdict
  | .finished verdict => verdict
  | .crashed error => .fail (.panicked fixture.id error)

namespace Checker

def attempt (c : Checker) (source : FixtureSource) (fixture : Fixture) : Attempt Verdict := do
  match ← source.read fixture with
  | .ok content =>
    evaluate c.registry fixture content c.config.decodeOptions c.config.run.roundTrip
  | .error error => return .fail (.unreadable fixture.id error.message)

def verdict (c : Checker) (source : FixtureSource) (fixture : Fixture) : Verdict :=
  (c.attempt source fixture).verdict fixture

def run (c : Checker) (source : FixtureSource) : Except ListFailure Report :=
  match source.list with
  | .error error => .error ⟨source.describe, error⟩
  | .ok listing =>
    .ok (Report.ofVerdicts source.describe listing.skipped.length
      (listing.fixtures.map fun fixture => (fixture, c.verdict source fixture)))

end Checker

end LspWire
