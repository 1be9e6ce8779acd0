import LspWire.Config.Load
import LspWire.Conformance.Run

/-! The command: settings for a directory, a run over its fixtures, and what is printed.
The first argument, if there is one, names the fixture directory in place of the settings. -/

namespace LspWire

namespace Command

def overrides (args : List String) : Option Json :=
  args.head?.map fun dir => .object [("fixtures", .object [("dir", .string dir)])]

def settings (root : String) (file : Option FileTree) (args : List String) :
    Except ConfigError Config :=
  Config.load root file (overrides args)

/-- The fixtures that the settings speak of, in the directory that stands at their path. -/
def fixtures (root : String) (config : Config) (place : Option Place) : FixtureDirectory where
  root := config.fixtureDir root
  place := place
  recursive := config.fixtures.recursive
  patterns := config.fixtures.patterns

def report (root : String) (config : Config) (place : Option Place) :
    Except ListFailure Report :=
  (Checker.mk .protocol config).run (fixtures root config place).source

end Command

/-- What a command leaves behind: the text on its output, a complaint, and its exit code. -/
structure Outcome where
  output : String
  complaint : Option String
  exitCode : Nat

namespace Outcome

def ofReport (r : Report) : Outcome := ⟨r.text ++ "\n", none, r.exitCode⟩

def failed (message : String) : Outcome := ⟨"", some ("Conformance run failed: " ++ message), 1⟩

end Outcome

def Command.outcome (refusal : String → String) (root : String) (find : String → Option Place)
    (args : List String) : Outcome :=
  match settings root ((find (joinPath root Config.fileName)).map Place.entry) args with
  | .error error => .failed (error.chain refusal)
  | .ok config =>
    match report root config (find (config.fixtureDir root)) with
    | .error failure => .failed failure.message
    | .ok r => .ofReport r

end LspWire
