import LspWire.Conformance.Run

/-! A run as its tasks take it.
The fixtures of a listing are started in order. Each becomes a task, which holds a permit until it
ends, and the next one waits for a permit that is free. Once all are started the verdicts are
collected in the same order, each when its task has ended. Which of the moves that are possible
comes next is left open, and so is the number under which a task is started, which the error of a
crash may name. -/

namespace LspWire

/-- A fixture that was started under a number, and what came of it if its task has ended. -/
structure Task where
  fixture : Fixture
  number : Nat
  outcome? : Option (Attempt Verdict)

/-- A task holds its permit until it ends. -/
def Task.isRunning (task : Task) : Bool := task.outcome?.isNone

@[simp] theorem Task.isRunning_none (fixture : Fixture) (number : Nat) :
    Task.isRunning ⟨fixture, number, none⟩ = true :=
  rfl

@[simp] theorem Task.isRunning_some (fixture : Fixture) (number : Nat)
    (outcome : Attempt Verdict) : Task.isRunning ⟨fixture, number, some outcome⟩ = false :=
  rfl

inductive Move where
  /-- The next fixture takes a permit and is started under a number. -/
  | start (fixture : Fixture) (number : Nat)
  /-- The task at a position ends, well or in a crash, and gives its permit back. -/
  | finish (position : Nat)
  /-- The verdict of the first task is taken. -/
  | collect
deriving DecidableEq

def Move.started? : Move → Option (Fixture × Nat)
  | .start fixture number => some (fixture, number)
  | _ => none

/-- Where a run stands: the permits that are free, the fixtures to start, the tasks whose verdicts
were not yet collected, and the verdicts that were. -/
structure Schedule where
  permits : Nat
  waiting : List Fixture
  tasks : List Task
  verdicts : List (Fixture × Verdict)

namespace Schedule

def initial (permits : Nat) (fixtures : List Fixture) : Schedule := ⟨permits, fixtures, [], []⟩

/-- What a move leads to, if it is possible, given what comes of a fixture started under a
number. -/
def step (attempt : Fixture → Nat → Attempt Verdict) (s : Schedule) : Move → Option Schedule
  | .start fixture number =>
    match s.permits, s.waiting with
    | permits + 1, next :: rest =>
      if next = fixture then
        some { s with permits, waiting := rest, tasks := s.tasks ++ [⟨fixture, number, none⟩] }
      else none
    | _, _ => none
  | .finish position =>
    match s.tasks[position]? with
    | some ⟨fixture, number, none⟩ =>
      some { s with
        permits := s.permits + 1
        tasks := s.tasks.set position ⟨fixture, number, some (attempt fixture number)⟩ }
    | _ => none
  | .collect =>
    match s.waiting, s.tasks with
    | [], ⟨fixture, _, some outcome⟩ :: rest =>
      some { s with tasks := rest, verdicts := s.verdicts ++ [(fixture, outcome.verdict fixture)] }
    | _, _ => none

def after (attempt : Fixture → Nat → Attempt Verdict) (s : Schedule) (moves : List Move) :
    Option Schedule :=
  moves.foldlM (step attempt) s

def running (s : Schedule) : Nat := s.tasks.countP Task.isRunning

def isFinal (s : Schedule) : Bool := s.waiting.isEmpty && s.tasks.isEmpty

def report (s : Schedule) (source : FixtureSource) (listing : Listing) : Report :=
  .ofVerdicts source.describe listing.skipped.length s.verdicts

end Schedule

namespace Checker

def schedule (c : Checker) (processors : Nat) (listing : Listing) : Schedule :=
  .initial (c.config.run.effectiveParallelism processors) listing.fixtures

/-- What comes of a fixture started under a number, where `tell` puts the number into the error of
a crash. -/
def attemptAs (c : Checker) (source : FixtureSource) (tell : Nat → String → String)
    (fixture : Fixture) (number : Nat) : Attempt Verdict :=
  match c.attempt source fixture with
  | .finished verdict => .finished verdict
  | .crashed error => .crashed (tell number error)

end Checker

end LspWire
