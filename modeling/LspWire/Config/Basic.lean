import LspWire.Decoder.Basic
import LspWire.Fixture.Directory

/-! Settings of a run, and what they are when nothing is said.
The number of fixtures evaluated at once has no default here: unset, it is the number of
processors. -/

namespace LspWire

structure FixtureSettings where
  dir : String
  recursive : Bool
  patterns : List String
deriving DecidableEq

structure DecodeSettings where
  rejectUnknownFields : Bool
deriving DecidableEq

structure RunSettings where
  parallelism : Option Nat
  roundTrip : Bool
deriving DecidableEq

structure Config where
  fixtures : FixtureSettings
  decode : DecodeSettings
  run : RunSettings
deriving DecidableEq

def FixtureSettings.initial : FixtureSettings := ⟨"testdata", false, ["*.json"]⟩

def DecodeSettings.initial : DecodeSettings := ⟨DecodeOptions.strict.rejectUnknownFields⟩

def RunSettings.initial : RunSettings := ⟨none, true⟩

def maxParallelism : Nat := 64

def RunSettings.effectiveParallelism (run : RunSettings) (processors : Nat) : Nat :=
  max 1 (min (run.parallelism.getD processors) maxParallelism)

theorem RunSettings.effectiveParallelism_bounds (run : RunSettings) (processors : Nat) :
    1 ≤ run.effectiveParallelism processors ∧
      run.effectiveParallelism processors ≤ maxParallelism := by
  simp only [effectiveParallelism, maxParallelism]
  omega

/-- The parts of a path that tell it from others: empty ones do not, and a dot only does at the
start of a path that is taken from somewhere. -/
def pathParts (path : String) : List String :=
  match FileTree.parts path with
  | first :: rest => first :: rest.filter fun part => part ≠ "" ∧ part ≠ "."
  | [] => []

namespace Config

def initial : Config := ⟨.initial, .initial, .initial⟩

def decodeOptions (config : Config) : DecodeOptions := ⟨config.decode.rejectUnknownFields⟩

def fixtureDir (config : Config) (root : String) : String := joinPath root config.fixtures.dir

/-- Equality of settings, with directories compared as paths. -/
def same (a b : Config) : Bool :=
  pathParts a.fixtures.dir == pathParts b.fixtures.dir &&
    decide ({ a with fixtures.dir := "" } = { b with fixtures.dir := "" })

end Config

end LspWire
