import LspWire.Conformance.Schedule

/-! What a run comes to, in whatever order its tasks end.
Each move keeps the permits that are free and those that are held to their number, and keeps what
was started in two parts: collected and not. Each move is also one of three that every fixture
takes, so a run never lasts longer, and until it has lasted so long there is a move left. Then the
verdicts collected are those of the fixtures one by one, each under the number it was started
under. -/

namespace LspWire

namespace Schedule

inductive Steps (attempt : Fixture → Nat → Attempt Verdict) : Schedule → Move → Schedule → Prop
  | start {permits fixture rest tasks verdicts number} :
    Steps attempt ⟨permits + 1, fixture :: rest, tasks, verdicts⟩ (.start fixture number)
      ⟨permits, rest, tasks ++ [⟨fixture, number, none⟩], verdicts⟩
  | finish {permits waiting front fixture number back verdicts} :
    Steps attempt ⟨permits, waiting, front ++ ⟨fixture, number, none⟩ :: back, verdicts⟩
      (.finish front.length)
      ⟨permits + 1, waiting, front ++ ⟨fixture, number, some (attempt fixture number)⟩ :: back,
        verdicts⟩
  | collect {permits fixture number outcome rest verdicts} :
    Steps attempt ⟨permits, [], ⟨fixture, number, some outcome⟩ :: rest, verdicts⟩ .collect
      ⟨permits, [], rest, verdicts ++ [(fixture, outcome.verdict fixture)]⟩

inductive Runs (attempt : Fixture → Nat → Attempt Verdict) :
    Schedule → List Move → Schedule → Prop
  | nil {s} : Runs attempt s [] s
  | cons {s move next moves s'} : Steps attempt s move next → Runs attempt next moves s' →
    Runs attempt s (move :: moves) s'

variable {attempt : Fixture → Nat → Attempt Verdict} {permits : Nat}
  {started : List (Fixture × Nat)} {s s' : Schedule} {move : Move} {moves : List Move}

theorem step_eq_some_iff : s.step attempt move = some s' ↔ Steps attempt s move s' := by
  constructor
  · intro h
    obtain ⟨free, waiting, tasks, verdicts⟩ := s
    cases move with
    | start fixture number =>
      simp only [step] at h
      split at h
      · split at h
        · next heq =>
          cases h
          exact heq ▸ .start
        · cases h
      · cases h
    | finish position =>
      simp only [step] at h
      split at h
      · next fixture number hget =>
        cases h
        obtain ⟨hlt, hget⟩ := List.getElem?_eq_some_iff.mp hget
        have hlength : (tasks.take position).length = position := by
          rw [List.length_take, Nat.min_eq_left (Nat.le_of_lt hlt)]
        have htasks : tasks.take position ++ ⟨fixture, number, none⟩ :: tasks.drop (position + 1) =
            tasks := by
          rw [← hget, ← List.drop_eq_getElem_cons hlt, List.take_append_drop]
        have hfinish : Steps attempt
            ⟨free, waiting,
              tasks.take position ++ ⟨fixture, number, none⟩ :: tasks.drop (position + 1), verdicts⟩
            (.finish (tasks.take position).length) _ := .finish
        rw [htasks, hlength] at hfinish
        rw [List.set_eq_take_append_cons_drop, if_pos hlt]
        exact hfinish
      · cases h
    | collect =>
      simp only [step] at h
      split at h
      · cases h
        exact .collect
      · cases h
  · intro h
    cases h with
    | start => simp [step]
    | finish => simp [step]
    | collect => rfl

/-- How many moves are left to take: three for a fixture that waits, two for a task that runs and
one for a task that has ended. -/
def left (s : Schedule) : Nat := 3 * s.waiting.length + s.tasks.length + s.running

def entry (attempt : Fixture → Nat → Attempt Verdict) (start : Fixture × Nat) :
    Fixture × Verdict :=
  (start.1, (attempt start.1 start.2).verdict start.1)

/-- What holds of every state of a run with so many permits in all, once `started` was started. -/
structure Sound (attempt : Fixture → Nat → Attempt Verdict) (permits : Nat)
    (started : List (Fixture × Nat)) (s : Schedule) : Prop where
  permits : s.permits + s.running = permits
  outcomes : ∀ task ∈ s.tasks, ∀ outcome, task.outcome? = some outcome →
    outcome = attempt task.fixture task.number
  -- The verdicts that tasks will have stand behind those collected.
  verdicts : s.verdicts ++ s.tasks.map (fun task => entry attempt (task.fixture, task.number)) =
    started.map (entry attempt)

theorem sound_initial (attempt : Fixture → Nat → Attempt Verdict) (permits : Nat)
    (fixtures : List Fixture) : (initial permits fixtures).Sound attempt permits [] := by
  constructor <;> simp [initial, running]

theorem Sound.step (hs : s.Sound attempt permits started) (h : Steps attempt s move s') :
    s'.Sound attempt permits (started ++ move.started?.toList) := by
  obtain ⟨hpermits, houtcomes, hverdicts⟩ := hs
  cases h with
  | start =>
    constructor
    · simp [running] at hpermits ⊢
      omega
    · exact List.forall_mem_append.mpr ⟨houtcomes, by simp⟩
    · simp [Move.started?, ← hverdicts]
  | finish =>
    rw [List.forall_mem_append, List.forall_mem_cons] at houtcomes
    constructor
    · simp [running, List.countP_cons] at hpermits ⊢
      omega
    · refine List.forall_mem_append.mpr ⟨houtcomes.1, List.forall_mem_cons.mpr ⟨?_, houtcomes.2.2⟩⟩
      simp
    · simpa [Move.started?] using hverdicts
  | collect =>
    rw [List.forall_mem_cons] at houtcomes
    constructor
    · simpa [running] using hpermits
    · exact houtcomes.2
    · rw [houtcomes.1 _ rfl]
      simpa [Move.started?, entry] using hverdicts

theorem left_step (h : Steps attempt s move s') : s.left = s'.left + 1 := by
  cases h <;> simp [left, running, List.countP_cons] <;> omega

theorem started_step (h : Steps attempt s move s') :
    move.started?.toList.map (·.1) ++ s'.waiting = s.waiting := by
  cases h <;> rfl

theorem Sound.exists_step (hs : s.Sound attempt permits started) (hpermits : 0 < permits)
    (hfinal : s.isFinal = false) : ∃ move s', Steps attempt s move s' := by
  have htotal := hs.permits
  obtain ⟨free, waiting, tasks, verdicts⟩ := s
  by_cases hrunning : 0 < running ⟨free, waiting, tasks, verdicts⟩
  · obtain ⟨⟨fixture, number, outcome?⟩, htask, hrun⟩ := List.countP_pos_iff.mp hrunning
    obtain ⟨front, back, rfl⟩ := List.append_of_mem htask
    obtain rfl := Option.isNone_iff_eq_none.mp hrun
    exact ⟨_, _, .finish⟩
  -- No task holds a permit, so all of them are free and every task has ended.
  · cases waiting with
    | cons fixture rest =>
      obtain ⟨free, rfl⟩ : ∃ n, free = n + 1 := Nat.exists_eq_add_one.mpr (by simp at htotal; omega)
      exact ⟨.start fixture 0, _, .start⟩
    | nil =>
      cases tasks with
      | nil => cases hfinal
      | cons task rest =>
        obtain ⟨fixture, number, outcome?⟩ := task
        cases outcome? with
        | none => simp [running] at hrunning
        | some outcome => exact ⟨_, _, .collect⟩

theorem after_eq_some_iff : s.after attempt moves = some s' ↔ Runs attempt s moves s' := by
  constructor
  · intro h
    induction moves generalizing s with
    | nil => cases h; exact .nil
    | cons move rest ih =>
      rw [after, List.foldlM_cons] at h
      obtain ⟨next, hstep, hrest⟩ := Option.bind_eq_some_iff.mp h
      exact .cons (step_eq_some_iff.mp hstep) (ih hrest)
  · intro h
    induction h with
    | nil => rfl
    | cons hstep _ ih =>
      rw [after, List.foldlM_cons, step_eq_some_iff.mpr hstep]
      exact ih

def starts (moves : List Move) : List (Fixture × Nat) := moves.filterMap Move.started?

theorem starts_cons (move : Move) (moves : List Move) :
    starts (move :: moves) = move.started?.toList ++ starts moves := by
  cases move <;> rfl

theorem Sound.runs (hs : s.Sound attempt permits started) (h : Runs attempt s moves s') :
    s'.Sound attempt permits (started ++ starts moves) := by
  induction h generalizing started with
  | nil => simpa [starts] using hs
  | cons hstep _ ih =>
    rw [starts_cons, ← List.append_assoc]
    exact ih (hs.step hstep)

theorem left_runs (h : Runs attempt s moves s') : s.left = s'.left + moves.length := by
  induction h with
  | nil => rfl
  | cons hstep _ ih => rw [left_step hstep, ih, List.length_cons, Nat.add_assoc]

theorem starts_runs (h : Runs attempt s moves s') :
    (starts moves).map (·.1) ++ s'.waiting = s.waiting := by
  induction h with
  | nil => rfl
  | cons hstep _ ih =>
    rw [starts_cons, List.map_append, List.append_assoc, ih, started_step hstep]

theorem Sound.exists_final (hs : s.Sound attempt permits started) (hpermits : 0 < permits) :
    ∃ moves final, Runs attempt s moves final ∧ final.isFinal = true := by
  induction hleft : s.left generalizing s started with
  | zero =>
    refine ⟨[], s, .nil, ?_⟩
    simp only [left] at hleft
    have hwaiting : s.waiting.length = 0 := by omega
    have htasks : s.tasks.length = 0 := by omega
    simp [isFinal, List.eq_nil_of_length_eq_zero hwaiting, List.eq_nil_of_length_eq_zero htasks]
  | succ n ih =>
    cases hfinal : s.isFinal with
    | true => exact ⟨[], s, .nil, hfinal⟩
    | false =>
      obtain ⟨move, next, hstep⟩ := hs.exists_step hpermits hfinal
      have hnext : next.left = n := by
        have hone := left_step hstep
        omega
      obtain ⟨moves, final, hruns, hend⟩ := ih (hs.step hstep) hnext
      exact ⟨move :: moves, final, .cons hstep hruns, hend⟩

theorem isFinal_iff : s.isFinal = true ↔ s.waiting = [] ∧ s.tasks = [] := by
  simp [isFinal]

theorem Sound.verdicts_of_final (hs : s.Sound attempt permits started)
    (hfinal : s.isFinal = true) : s.verdicts = started.map (entry attempt) := by
  have hverdicts := hs.verdicts
  rwa [(isFinal_iff.mp hfinal).2, List.map_nil, List.append_nil] at hverdicts

end Schedule

namespace Checker

open Schedule (starts)

variable {source : FixtureSource} {fixture : Fixture}

theorem attemptAs_of_unreadable (c : Checker) (tell : Nat → String → String) (number : Nat)
    {error : FixtureError} (h : source.read fixture = .finished (.error error)) :
    c.attemptAs source tell fixture number =
      .finished (.fail (.unreadable fixture.id error.message)) := by
  rw [attemptAs, attempt, h]
  rfl

theorem attemptAs_of_crash (c : Checker) (tell : Nat → String → String) (number : Nat)
    {error : String} (h : c.attempt source fixture = .crashed error) :
    c.attemptAs source tell fixture number = .crashed (tell number error) := by
  rw [attemptAs, h]

theorem attemptAs_eq_attempt {c : Checker} {tell : Nat → String → String} {number : Nat}
    (h : ∀ error, c.attempt source fixture = .crashed error → tell number error = error) :
    c.attemptAs source tell fixture number = c.attempt source fixture := by
  cases hattempt : c.attempt source fixture with
  | finished verdict => rw [attemptAs, hattempt]
  | crashed error => rw [attemptAs_of_crash c tell number hattempt, h error hattempt]

theorem map_entry_attemptAs {c : Checker} {tell : Nat → String → String}
    (started : List (Fixture × Nat))
    (h : ∀ start ∈ started, ∀ error,
      c.attempt source start.1 = .crashed error → tell start.2 error = error) :
    started.map (Schedule.entry (c.attemptAs source tell)) =
      (started.map (·.1)).map fun fixture => (fixture, c.verdict source fixture) := by
  rw [List.map_map]
  refine List.map_congr_left fun start hstart => ?_
  rw [Schedule.entry, attemptAs_eq_attempt (h start hstart)]
  rfl

/-- The order in which tasks end makes no difference to a run. Never do more of them hold a permit
than fixtures may be evaluated at once, and every fixture is started once, in the order of the
listing. Until all verdicts are collected there is a move left, also after crashes; so every run can
be gone on with to its end, and none goes on for ever. The report is then that of the verdicts on
the fixtures one by one, where one that cannot be read is unreadable and one that crashes has
panicked. If the error of a crash names the task, it is the number that the fixture was started
under; of all that the moves may choose nothing else is in the report. -/
theorem report_independent_of_schedule (c : Checker) (source : FixtureSource) (processors : Nat)
    (tell : Nat → String → String) {listing : Listing} (hlist : source.list = .ok listing)
    {moves : List Move} {s : Schedule}
    (h : (c.schedule processors listing).after (c.attemptAs source tell) moves = some s) :
    s.running ≤ c.config.run.effectiveParallelism processors ∧
      (starts moves).map (·.1) ++ s.waiting = listing.fixtures ∧
      (s.isFinal = false → ∃ move, (s.step (c.attemptAs source tell) move).isSome = true) ∧
      (∃ rest final, s.after (c.attemptAs source tell) rest = some final ∧
        final.isFinal = true) ∧
      moves.length ≤ 3 * listing.fixtures.length ∧
      (s.isFinal = true →
        (starts moves).map (·.1) = listing.fixtures ∧
          s.report source listing = .ofVerdicts source.describe listing.skipped.length
            ((starts moves).map fun (fixture, number) =>
              (fixture, (c.attemptAs source tell fixture number).verdict fixture)) ∧
          ((∀ fixture ∈ listing.fixtures, ∀ number error,
              c.attempt source fixture = .crashed error → tell number error = error) →
            c.run source = .ok (s.report source listing))) ∧
      ∀ fixture ∈ listing.fixtures, ∀ number,
        (∀ verdict, c.attempt source fixture = .finished verdict →
          (c.attemptAs source tell fixture number).verdict fixture = verdict) ∧
        (∀ error, source.read fixture = .finished (.error error) →
          (c.attemptAs source tell fixture number).verdict fixture =
            .fail (.unreadable fixture.id error.message)) ∧
        ∀ error, c.attempt source fixture = .crashed error →
          (c.attemptAs source tell fixture number).verdict fixture =
            .fail (.panicked fixture.id (tell number error)) := by
  have hpos : 0 < c.config.run.effectiveParallelism processors :=
    (c.config.run.effectiveParallelism_bounds processors).1
  have hruns := Schedule.after_eq_some_iff.mp h
  have hs : s.Sound (c.attemptAs source tell) (c.config.run.effectiveParallelism processors)
      (starts moves) := (Schedule.sound_initial _ _ listing.fixtures).runs hruns
  have hstarts : (starts moves).map (·.1) ++ s.waiting = listing.fixtures :=
    Schedule.starts_runs hruns
  refine ⟨?_, hstarts, ?_, ?_, ?_, ?_, ?_⟩
  · have hpermits := hs.permits
    omega
  · intro hfinal
    obtain ⟨move, next, hstep⟩ := hs.exists_step hpos hfinal
    exact ⟨move, Option.isSome_iff_exists.mpr ⟨next, Schedule.step_eq_some_iff.mpr hstep⟩⟩
  · obtain ⟨rest, final, hrest, hend⟩ := hs.exists_final hpos
    exact ⟨rest, final, Schedule.after_eq_some_iff.mpr hrest, hend⟩
  · have hleft : 3 * listing.fixtures.length = s.left + moves.length := Schedule.left_runs hruns
    omega
  · intro hfinal
    rw [(Schedule.isFinal_iff.mp hfinal).1, List.append_nil] at hstarts
    have hreport : s.report source listing = .ofVerdicts source.describe listing.skipped.length
        ((starts moves).map (Schedule.entry (c.attemptAs source tell))) := by
      rw [Schedule.report, hs.verdicts_of_final hfinal]
    refine ⟨hstarts, hreport, fun htell => ?_⟩
    have hentries := map_entry_attemptAs (starts moves) fun start hstart =>
      htell start.1 (hstarts ▸ List.mem_map_of_mem hstart) start.2
    rw [hreport, hentries, hstarts, run, hlist]
  · intro fixture _ number
    refine ⟨fun verdict hverdict => ?_, fun error herror => ?_, fun error hcrash => ?_⟩
    · rw [attemptAs, hverdict]
      rfl
    · rw [attemptAs_of_unreadable c tell number herror]
      rfl
    · rw [attemptAs_of_crash c tell number hcrash]
      rfl

theorem report_independent_of_schedule_crash :
    let first : Fixture := ⟨"Position-True-a.json", ⟨"Position", .accept, "a"⟩⟩
    let second : Fixture := ⟨"Range-True-b.json", ⟨"Range", .accept, "b"⟩⟩
    let source : FixtureSource :=
      ⟨"two", .ok ⟨[first, second], []⟩, fun fixture =>
        if fixture = first then .crashed "lost" else .finished (.error (.notFound fixture.id))⟩
    let c : Checker := ⟨.protocol, { Config.initial with run.parallelism := some 0 }⟩
    let tell : Nat → String → String := fun number error => toString number ++ " " ++ error
    let start := c.schedule 8 ⟨[first, second], []⟩
    start.after (c.attemptAs source tell) [.start first 7, .start second 9] = none ∧
      ∃ s, start.after (c.attemptAs source tell)
          [.start first 7, .finish 0, .start second 9, .finish 1, .collect, .collect] = some s ∧
        s.isFinal = true ∧
        s.report source ⟨[first, second], []⟩ = .ofVerdicts "two" 0
          [(first, .fail (.panicked "Position-True-a.json" "7 lost")),
           (second, .fail (.unreadable "Range-True-b.json"
             "Unknown fixture: Range-True-b.json"))] := by
  intro first second source c tell start
  have hlist : source.list = .ok ⟨[first, second], []⟩ := rfl
  obtain ⟨s, hs⟩ : ∃ s, start.after (c.attemptAs source tell)
      [.start first 7, .finish 0, .start second 9, .finish 1, .collect, .collect] = some s :=
    ⟨_, rfl⟩
  have hend : s.isFinal = true := by cases hs; rfl
  obtain ⟨-, -, -, -, -, hfinal, hverdicts⟩ :=
    report_independent_of_schedule c source 8 tell hlist hs
  have hfirst : (c.attemptAs source tell first 7).verdict first = _ :=
    (hverdicts first List.mem_cons_self 7).2.2 "lost" rfl
  have hsecond : (c.attemptAs source tell second 9).verdict second = _ :=
    (hverdicts second (List.mem_cons_of_mem _ List.mem_cons_self) 9).2.1 (.notFound second.id) rfl
  refine ⟨rfl, s, hs, hend, ?_⟩
  rw [(hfinal hend).2.1]
  simp only [Schedule.starts, List.filterMap_cons, Move.started?, List.filterMap_nil,
    List.map_cons, List.map_nil, hfirst, hsecond]
  rfl

end Checker

end LspWire
