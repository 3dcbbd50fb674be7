import Ticketing.Transactional.Program

/-!
# Interleaved programs

Any number of clients run their programs against one shared engine, statement
by statement and in any order.

## Main Definitions

* `Engine` — what a shared engine does with one statement of one client
* `Thread`, `System` — clients in the middle of their programs, and the whole
* `System.step` — one action of one client
* `Step` — the same step, one constructor for each kind of action
* `Staged`, `Exclusive` — stages of clients, and claims only one of them has
* `Reaches` — the systems reached by runs whose actions meet a condition
* `Autocommit`, `AllAt` — programs whose statements are all durable at once
* `Isolation`, `Contract`, `Program.Safe` — reasoning about one client at a time

## Design Notes

A client that has to wait for a lock simply has no step.  A statement outside a
transaction is its own commit.  The `log` records the durable statements in the
order of their commits: it is what a history of a run can be read off, and no
step reads it.

`Program.Safe` walks through the text of one program and keeps track of what
its client owns; other clients do not occur in it.  `Step.safe` lifts it to any
interleaving, and `Step.publishes` says what is then left to prove about the
shared state: what one commit of one safe client does to it.
-/

namespace Transactional

/-- A shared engine.  `exec` is `none` when the client has to wait. -/
structure Engine (S : Signature) (ι I W ε : Type) where
  exec : ι → I → (stmt : S.Stmt) → W → Option (Except ε (S.Res stmt × W))
  commit : ι → W → W
  rollback : ι → W → W

/-- A client in the middle of its program, with the statements its open
transaction has executed so far. -/
structure Thread (S : Signature) (ε α : Type) where
  program : Program S ε α
  transaction : Option (List (Event S))

/-- A client about to start. -/
def Thread.start {S : Signature} {ε α : Type} (program : Program S ε α) : Thread S ε α :=
  ⟨program, none⟩

/-- The shared world, the clients, and the durable statements so far. -/
structure System (S : Signature) (ι W ε α : Type) where
  world : W
  thread : ι → Thread S ε α
  log : List (ι × Event S)

/-- Everybody about to start on `world`. -/
def System.start {S : Signature} {ι W ε α : Type} (world : W) (program : ι → Program S ε α) :
    System S ι W ε α :=
  ⟨world, fun agent => .start (program agent), []⟩

/-- One action: `agent` performs its next step with `input`, or, when `fault` is
set, is hit by that exception in front of it. -/
structure Action (ι I ε : Type) where
  agent : ι
  input : I
  fault : Option ε

section Steps

variable {S : Signature} {ι I W ε α : Type} [DecidableEq ι]

/-- Replace one client. -/
def System.setThread (system : System S ι W ε α) (agent : ι) (thread : Thread S ε α) :
    System S ι W ε α :=
  { system with thread := Function.update system.thread agent thread }

theorem System.setThread_self {system : System S ι W ε α} {agent : ι}
    {thread : Thread S ε α} : (system.setThread agent thread).thread agent = thread :=
  Function.update_self ..

theorem System.setThread_of_ne {system : System S ι W ε α} {agent : ι}
    {thread : Thread S ε α} (other : ι) (different : other ≠ agent) :
    (system.setThread agent thread).thread other = system.thread other :=
  Function.update_of_ne different ..

/-- One action of one client. -/
def System.step (engine : Engine S ι I W ε) (action : Action ι I ε) (system : System S ι W ε α) :
    Option (System S ι W ε α) :=
  let agent := action.agent
  let thread := system.thread agent
  match action.fault, thread.program with
  -- a client that has returned, or has raised already, is not hit by anything
  | _, .done _ => none
  | some _, .raise _ => none
  | some error, _ => some (system.setThread agent ⟨.raise error, thread.transaction⟩)
  | none, .raise error =>
      match thread.transaction with
      | none => none
      | some _ =>
          some { system.setThread agent ⟨.raise error, none⟩ with
            world := engine.rollback agent system.world }
  | none, .begin rest => some (system.setThread agent ⟨rest, some []⟩)
  | none, .commit rest =>
      some { system.setThread agent ⟨rest, none⟩ with
        world := engine.commit agent system.world
        log := system.log ++ (thread.transaction.getD []).map (agent, ·) }
  | none, .call stmt next =>
      match engine.exec agent action.input stmt system.world with
      | none => none
      | some (.error error) => some (system.setThread agent ⟨.raise error, thread.transaction⟩)
      | some (.ok (answer, world)) =>
          -- autocommit: without a transaction the statement is durable at once
          match thread.transaction with
          | none =>
              some { system.setThread agent ⟨next answer, none⟩ with
                world := engine.commit agent world
                log := system.log ++ [(agent, ⟨stmt, answer⟩)] }
          | some events =>
              some { system.setThread agent ⟨next answer, some (events ++ [⟨stmt, answer⟩])⟩ with
                world := world }

/-- A whole schedule of actions, as long as each passes `check`. -/
def System.runWhile (engine : Engine S ι I W ε)
    (check : System S ι W ε α → Action ι I ε → Bool) :
    List (Action ι I ε) → System S ι W ε α → Option (System S ι W ε α)
  | [], system => some system
  | action :: rest, system =>
      if check system action then
        (system.step engine action).bind (System.runWhile engine check rest)
      else none

/-- A whole schedule of actions. -/
def System.run (engine : Engine S ι I W ε) :
    List (Action ι I ε) → System S ι W ε α → Option (System S ι W ε α) :=
  System.runWhile engine fun _ _ => true

/-- What one action does, by the kind of the step. -/
inductive Step (engine : Engine S ι I W ε) (system : System S ι W ε α) (action : Action ι I ε) :
    System S ι W ε α → Prop
  /-- An exception from outside, or a statement that fails. -/
  | fault {program : Program S ε α} {transaction : Option (List (Event S))} (error : ε)
      (located : system.thread action.agent = ⟨program, transaction⟩)
      (running : ∀ value, program ≠ .done value)
      (cause : action.fault = some error ∨ ∃ stmt next, program = .call stmt next ∧
        engine.exec action.agent action.input stmt system.world = some (.error error)) :
      Step engine system action (system.setThread action.agent ⟨.raise error, transaction⟩)
  /-- The transaction an exception has left open is rolled back. -/
  | rollback {error : ε} {events : List (Event S)}
      (located : system.thread action.agent = ⟨.raise error, some events⟩) :
      Step engine system action
        { system.setThread action.agent ⟨.raise error, none⟩ with
          world := engine.rollback action.agent system.world }
  | begin {rest : Program S ε α} {transaction : Option (List (Event S))}
      (located : system.thread action.agent = ⟨.begin rest, transaction⟩) :
      Step engine system action (system.setThread action.agent ⟨rest, some []⟩)
  | commit {rest : Program S ε α} {transaction : Option (List (Event S))}
      (located : system.thread action.agent = ⟨.commit rest, transaction⟩)
      (unharmed : action.fault = none) :
      Step engine system action
        { system.setThread action.agent ⟨rest, none⟩ with
          world := engine.commit action.agent system.world
          log := system.log ++ (transaction.getD []).map (action.agent, ·) }
  /-- A statement outside a transaction is its own commit. -/
  | auto {stmt : S.Stmt} {next : S.Res stmt → Program S ε α} {answer : S.Res stmt} {world : W}
      (located : system.thread action.agent = ⟨.call stmt next, none⟩)
      (unharmed : action.fault = none)
      (result : engine.exec action.agent action.input stmt system.world
        = some (.ok (answer, world))) :
      Step engine system action
        { system.setThread action.agent ⟨next answer, none⟩ with
          world := engine.commit action.agent world
          log := system.log ++ [(action.agent, ⟨stmt, answer⟩)] }
  | stmt {stmt : S.Stmt} {next : S.Res stmt → Program S ε α} {events : List (Event S)}
      {answer : S.Res stmt} {world : W}
      (located : system.thread action.agent = ⟨.call stmt next, some events⟩)
      (unharmed : action.fault = none)
      (result : engine.exec action.agent action.input stmt system.world
        = some (.ok (answer, world))) :
      Step engine system action
        { system.setThread action.agent ⟨next answer, some (events ++ [⟨stmt, answer⟩])⟩ with
          world := world }

/-- Every action is a step of one of these kinds. -/
theorem System.step_sound {engine : Engine S ι I W ε} {action : Action ι I ε}
    {system system' : System S ι W ε α} (stepped : system.step engine action = some system') :
    Step engine system action system' := by
  obtain ⟨agent, input, fault⟩ := action
  rcases located : system.thread agent with ⟨program, transaction⟩
  simp only [System.step, located] at stepped
  cases fault with
  | some error =>
      cases program with
      | done value => cases stepped
      | raise error' => cases stepped
      | begin rest => cases stepped; exact .fault error located nofun (.inl rfl)
      | commit rest => cases stepped; exact .fault error located nofun (.inl rfl)
      | call stmt next => cases stepped; exact .fault error located nofun (.inl rfl)
  | none =>
      cases program with
      | done value => cases stepped
      | raise error =>
          cases transaction with
          | none => cases stepped
          | some events => cases stepped; exact .rollback located
      | begin rest => cases stepped; exact .begin located
      | commit rest => cases stepped; exact .commit located rfl
      | call stmt next =>
          simp only at stepped
          cases result : engine.exec agent input stmt system.world with
          | none => simp [result] at stepped
          | some outcome =>
              cases outcome with
              | error error =>
                  simp only [result, Option.some.injEq] at stepped
                  subst stepped
                  exact .fault error located nofun (.inr ⟨stmt, next, rfl, result⟩)
              | ok pair =>
                  obtain ⟨answer, world⟩ := pair
                  cases transaction with
                  | none =>
                      simp only [result, Option.some.injEq] at stepped
                      subst stepped
                      exact .auto located rfl result
                  | some events =>
                      simp only [result, Option.some.injEq] at stepped
                      subst stepped
                      exact .stmt located rfl result

/-- The systems reached from `start` by runs whose actions all meet `Meets`. -/
inductive Reaches (engine : Engine S ι I W ε) (Meets : System S ι W ε α → Action ι I ε → Prop)
    (start : System S ι W ε α) : System S ι W ε α → Prop
  | refl : Reaches engine Meets start start
  | tail {system system' : System S ι W ε α} {action : Action ι I ε}
      (reached : Reaches engine Meets start system) (meets : Meets system action)
      (stepped : system.step engine action = some system') : Reaches engine Meets start system'

/-- The runs without a condition. -/
abbrev Unrestricted : System S ι W ε α → Action ι I ε → Prop := fun _ _ => True

section Reaches

variable {engine : Engine S ι I W ε} {Meets : System S ι W ε α → Action ι I ε → Prop}
variable {start system : System S ι W ε α}

/-- **Invariant rule.**  What holds at the start and is preserved by every
action that meets the condition holds in every system reached. -/
theorem Reaches.invariant (Inv : System S ι W ε α → Prop) (initial : Inv start)
    (preserved : ∀ {before after : System S ι W ε α} {action : Action ι I ε},
      Inv before → Meets before action → before.step engine action = some after → Inv after)
    (reached : Reaches engine Meets start system) : Inv system := by
  induction reached with
  | refl => exact initial
  | tail _ meets stepped ih => exact preserved ih meets stepped

/-- What is invariant may be assumed of the state in front of every action. -/
theorem Reaches.strengthen (Inv : System S ι W ε α → Prop) (initial : Inv start)
    (preserved : ∀ {before after : System S ι W ε α} {action : Action ι I ε},
      Inv before → Meets before action → before.step engine action = some after → Inv after)
    (reached : Reaches engine Meets start system) :
    Reaches engine (fun system action => Meets system action ∧ Inv system) start system := by
  suffices both : Reaches engine (fun system action => Meets system action ∧ Inv system) start
      system ∧ Inv system from both.1
  induction reached with
  | refl => exact ⟨.refl, initial⟩
  | tail _ meets stepped ih =>
      exact ⟨.tail ih.1 ⟨meets, ih.2⟩ stepped, preserved ih.2 meets stepped⟩

/-- A schedule that can be executed, each of its actions passing a check that
implies the condition, reaches its last system. -/
theorem reaches_of_runWhile {check : System S ι W ε α → Action ι I ε → Bool}
    (sound : ∀ system action, check system action = true → Meets system action)
    {actions : List (Action ι I ε)}
    (executed : start.runWhile engine check actions = some system) :
    Reaches engine Meets start system := by
  -- the schedule continues from where a run has got to
  suffices extend : ∀ (actions : List (Action ι I ε)) (middle : System S ι W ε α),
      Reaches engine Meets start middle → middle.runWhile engine check actions = some system →
        Reaches engine Meets start system from extend actions start .refl executed
  intro actions
  induction actions with
  | nil =>
      intro middle reached executed
      exact (Option.some.inj executed) ▸ reached
  | cons action rest ih =>
      intro middle reached executed
      simp only [System.runWhile] at executed
      split at executed
      · rename_i passes
        obtain ⟨next, stepped, executed⟩ := Option.bind_eq_some_iff.mp executed
        exact ih next (.tail reached (sound _ _ passes) stepped) executed
      · cases executed

/-- A schedule that can be executed reaches its last system. -/
theorem reaches_of_run {actions : List (Action ι I ε)}
    (executed : start.run engine actions = some system) :
    Reaches engine Unrestricted start system :=
  reaches_of_runWhile (fun _ _ _ => trivial) executed

/-- A schedule without exceptions from outside is one for every choice of those that may hit
somebody. -/
theorem reaches_of_unharmed {actions : List (Action ι I ε)}
    (executed : start.runWhile engine (fun _ action => action.fault.isNone) actions = some system)
    (cut : ι → ε → Prop) :
    Reaches engine (fun _ action => ∀ error, action.fault = some error → cut action.agent error)
      start system := by
  refine reaches_of_runWhile (fun _ action passes error harmed => ?_) executed
  rw [harmed] at passes
  cases passes

end Reaches

/-! ### Stages -/

section Stages

variable {P : Type}

/-- An assignment of stages to the clients fits what is left of their programs. -/
def Staged (Stage : ι → P → Program S ε α → Prop) (progress : ι → P)
    (system : System S ι W ε α) : Prop :=
  ∀ agent, Stage agent (progress agent) (system.thread agent).program

/-- At most one client is at a stage that claims something. -/
def Exclusive (claims : P → Prop) (progress : ι → P) : Prop :=
  ∀ first second, claims (progress first) → claims (progress second) → first = second

/-- One client moves on to its next stage. -/
theorem Staged.update {Stage : ι → P → Program S ε α → Prop} {progress : ι → P}
    {system system' : System S ι W ε α} (staged : Staged Stage progress system)
    {agent : ι} {new : P}
    (others : ∀ other, other ≠ agent → system'.thread other = system.thread other)
    (stage : Stage agent new (system'.thread agent).program) :
    Staged Stage (Function.update progress agent new) system' := by
  intro other
  by_cases same : other = agent
  · subst same
    rwa [Function.update_self]
  · rw [Function.update_of_ne same, others other same]
    exact staged other

/-- The client that moves on finds the others without a claim, or makes none. -/
theorem Exclusive.update {claims : P → Prop} {progress : ι → P}
    (exclusive : Exclusive claims progress) {agent : ι} {new : P}
    (alone : claims new → ∀ other, other ≠ agent → ¬ claims (progress other)) :
    Exclusive claims (Function.update progress agent new) := by
  intro first second
  by_cases isFirst : first = agent
  · by_cases isSecond : second = agent
    · exact fun _ _ => isFirst.trans isSecond.symm
    · subst isFirst
      rw [Function.update_self, Function.update_of_ne isSecond]
      exact fun claiming other => absurd other (alone claiming second isSecond)
  · by_cases isSecond : second = agent
    · subst isSecond
      rw [Function.update_self, Function.update_of_ne isFirst]
      exact fun other claiming => absurd other (alone claiming first isFirst)
    · rw [Function.update_of_ne isFirst, Function.update_of_ne isSecond]
      exact exclusive first second

omit [DecidableEq ι] in
/-- A client with a claim is the only one. -/
theorem Exclusive.not_of_ne {claims : P → Prop} {progress : ι → P}
    (exclusive : Exclusive claims progress) {agent other : ι} (claiming : claims (progress agent))
    (different : other ≠ agent) : ¬ claims (progress other) :=
  fun claiming' => different (exclusive other agent claiming' claiming)

end Stages

end Steps

/-! ## One client at a time -/

/-- What is private to each client of an engine, and what all of them see.  A
statement changes neither the private part of another client nor the shared
state; only a commit publishes. -/
structure Isolation {S : Signature} {ι I W ε : Type} (engine : Engine S ι I W ε)
    (O B : Type) where
  /-- What a client owns. -/
  own : ι → W → O
  /-- Owning nothing. -/
  nothing : O
  /-- The committed state. -/
  shared : W → B
  own_exec_of_ne : ∀ {agent other : ι} {input : I} {stmt : S.Stmt} {answer : S.Res stmt}
    {world world' : W}, engine.exec agent input stmt world = some (.ok (answer, world')) →
    other ≠ agent → own other world' = own other world
  shared_exec : ∀ {agent : ι} {input : I} {stmt : S.Stmt} {answer : S.Res stmt}
    {world world' : W}, engine.exec agent input stmt world = some (.ok (answer, world')) →
    shared world' = shared world
  own_commit_self : ∀ (agent : ι) (world : W), own agent (engine.commit agent world) = nothing
  own_commit_of_ne : ∀ {agent other : ι} (world : W), other ≠ agent →
    own other (engine.commit agent world) = own other world
  own_rollback_self : ∀ (agent : ι) (world : W), own agent (engine.rollback agent world) = nothing
  own_rollback_of_ne : ∀ {agent other : ι} (world : W), other ≠ agent →
    own other (engine.rollback agent world) = own other world
  shared_rollback : ∀ (agent : ι) (world : W), shared (engine.rollback agent world) = shared world

/-- The durable statements of one client. -/
def durable {S : Signature} {ι : Type} [DecidableEq ι] (agent : ι) (log : List (ι × Event S)) :
    List (Event S) :=
  (log.filter (·.1 = agent)).map Prod.snd

section Durable

variable {S : Signature} {ι : Type} [DecidableEq ι]

@[simp] theorem durable_nil (agent : ι) : durable agent ([] : List (ι × Event S)) = [] := rfl

theorem mem_durable {agent : ι} {log : List (ι × Event S)} {event : Event S} :
    event ∈ durable agent log ↔ (agent, event) ∈ log := by
  simp [durable]

@[simp] theorem durable_append_self (agent : ι) (log : List (ι × Event S))
    (events : List (Event S)) :
    durable agent (log ++ events.map (agent, ·)) = durable agent log ++ events := by
  simp [durable, List.filter_map, Function.comp_def]

theorem durable_append_of_ne {agent other : ι} (log : List (ι × Event S))
    (events : List (Event S)) (different : other ≠ agent) :
    durable other (log ++ events.map (agent, ·)) = durable other log := by
  simp [durable, List.filter_map, Function.comp_def, different.symm]

/-- A count over a log is at most another when this is so for every client. -/
theorem countP_le_of_durable {first second : Event S → Bool} (log : List (ι × Event S))
    (each : ∀ agent, (durable agent log).countP first ≤ (durable agent log).countP second) :
    (log.map Prod.snd).countP first ≤ (log.map Prod.snd).countP second := by
  -- induction on the length: split off everything of the first client
  induction size : log.length using Nat.strong_induction_on generalizing log with
  | _ size ih =>
      cases log with
      | nil => simp
      | cons head rest =>
          obtain ⟨agent, event⟩ := head
          set log := (agent, event) :: rest with logEq
          have others : ((log.filter (·.1 ≠ agent)).map Prod.snd).countP first
              ≤ ((log.filter (·.1 ≠ agent)).map Prod.snd).countP second := by
            refine ih _ ?_ _ (fun other => ?_) rfl
            · have shorter : (log.filter (·.1 ≠ agent)).length ≤ rest.length := by
                simpa [logEq] using List.length_filter_le _ rest
              have longer : log.length = rest.length + 1 := rfl
              omega
            · by_cases same : other = agent
              · subst same
                simp [durable, List.filter_filter]
              · have kept : durable other (log.filter (·.1 ≠ agent)) = durable other log := by
                  unfold durable
                  rw [List.filter_filter]
                  refine congrArg (List.map Prod.snd) (List.filter_congr fun entry _ => ?_)
                  by_cases is_other : entry.1 = other
                  · simp [is_other, same]
                  · simp [is_other]
                rw [kept]
                exact each other
          have split (count : Event S → Bool) : (log.map Prod.snd).countP count
              = (durable agent log).countP count
                + ((log.filter (·.1 ≠ agent)).map Prod.snd).countP count := by
            simp only [durable, List.countP_map]
            rw [List.countP_eq_countP_filter_add log _ (·.1 = agent)]
            simp
          rw [split first, split second]
          exact Nat.add_le_add (each agent) others

end Durable

/-! ### Programs without transactions -/

section Autocommit

variable {S : Signature} {ι I W ε α : Type} [DecidableEq ι] {engine : Engine S ι I W ε}

/-- Places in programs that open no transaction, of a client that only the exceptions of `cut`
end.  `At history program`: a client that has executed `history` has `program` left. -/
structure Autocommit (cut : ε → Prop) (At : List (Event S) → Program S ε α → Prop) : Prop where
  not_begin : ∀ {history rest}, ¬ At history (.begin rest)
  not_commit : ∀ {history rest}, ¬ At history (.commit rest)
  raise : ∀ {history program error}, cut error → At history program → At history (.raise error)
  call : ∀ {history stmt next}, At history (.call stmt next) →
    ∀ answer, At (history ++ [⟨stmt, answer⟩]) (next answer)

/-- Every client is outside a transaction, at one of its places. -/
def AllAt (At : ι → List (Event S) → Program S ε α → Prop) (system : System S ι W ε α) : Prop :=
  ∀ agent, (system.thread agent).transaction = none ∧
    At agent (durable agent system.log) (system.thread agent).program

variable {cut : ι → ε → Prop} {At : ι → List (Event S) → Program S ε α → Prop}
variable {system system' : System S ι W ε α} {action : Action ι I ε}

/-- **A step of such a client** raises, or executes one statement, which is durable. -/
theorem Step.autocommit (auto : ∀ agent, Autocommit (cut agent) (At agent))
    (allowed : ∀ error, action.fault = some error → cut action.agent error)
    (fails : ∀ {stmt next error}, At action.agent (durable action.agent system.log)
        (.call stmt next) →
      engine.exec action.agent action.input stmt system.world = some (.error error) →
        cut action.agent error)
    (step : Step engine system action system') (all : AllAt At system) :
    AllAt At system' ∧
      ((system'.world = system.world ∧ system'.log = system.log) ∨
        ∃ stmt next answer world, At action.agent (durable action.agent system.log)
            (.call stmt next) ∧
          engine.exec action.agent action.input stmt system.world = some (.ok (answer, world)) ∧
          system'.world = engine.commit action.agent world ∧
          system'.log = system.log ++ [(action.agent, ⟨stmt, answer⟩)]) := by
  obtain ⟨outside, place⟩ := all action.agent
  cases step with
  | @fault program transaction error located running cause =>
      rw [located] at outside place
      have hit : cut action.agent error := by
        rcases cause with harmed | ⟨stmt, next, rfl, failed⟩
        · exact allowed error harmed
        · exact fails place failed
      refine ⟨fun other => ?_, .inl ⟨rfl, rfl⟩⟩
      by_cases same : other = action.agent
      · subst same
        rw [System.setThread_self]
        exact ⟨outside, (auto _).raise hit place⟩
      · rw [System.setThread_of_ne other same]
        exact all other
  | rollback located =>
      rw [located] at outside
      cases outside
  | begin located =>
      rw [located] at place
      exact absurd place (auto _).not_begin
  | commit located unharmed =>
      rw [located] at place
      exact absurd place (auto _).not_commit
  | @auto stmt next answer world located unharmed result =>
      rw [located] at place
      refine ⟨fun other => ?_, .inr ⟨stmt, next, answer, world, place, result, rfl, rfl⟩⟩
      have mine := durable_append_self action.agent system.log [⟨stmt, answer⟩]
      have others := @durable_append_of_ne S ι _ action.agent other system.log [⟨stmt, answer⟩]
      rw [List.map_singleton] at mine others
      by_cases same : other = action.agent
      · subst same
        show ((system.setThread _ _).thread _).transaction = none ∧
          At _ (durable _ (_ ++ [_])) ((system.setThread _ _).thread _).program
        rw [System.setThread_self, mine]
        exact ⟨rfl, (auto _).call place answer⟩
      · show ((system.setThread _ _).thread other).transaction = none ∧
          At other (durable other (_ ++ [_])) ((system.setThread _ _).thread other).program
        rw [System.setThread_of_ne other same, others same]
        exact all other
  | stmt located unharmed result =>
      rw [located] at outside
      cases outside

/-- **Invariant rule without transactions.**  Every client stays at its places, and an
invariant of the world and the log only has to survive the statements sent from there, each
of which is durable at once. -/
theorem Reaches.invariant_of_autocommit {Meets : System S ι W ε α → Action ι I ε → Prop}
    {start : System S ι W ε α} (Inv : W → List (ι × Event S) → Prop)
    (auto : ∀ agent, Autocommit (cut agent) (At agent)) (all : AllAt At start)
    (initial : Inv start.world start.log)
    (allowed : ∀ {system action}, Meets system action → ∀ error, action.fault = some error →
      cut action.agent error)
    (fails : ∀ {agent : ι} {input : I} {stmt : S.Stmt} {next : S.Res stmt → Program S ε α}
      {error : ε} {world : W} {log : List (ι × Event S)},
      At agent (durable agent log) (.call stmt next) →
        engine.exec agent input stmt world = some (.error error) → cut agent error)
    (preserved : ∀ {agent : ι} {input : I} {stmt : S.Stmt} {next : S.Res stmt → Program S ε α}
      {answer : S.Res stmt} {world world' : W} {log : List (ι × Event S)}, Inv world log →
      At agent (durable agent log) (.call stmt next) →
      engine.exec agent input stmt world = some (.ok (answer, world')) →
        Inv (engine.commit agent world') (log ++ [(agent, ⟨stmt, answer⟩)]))
    (reached : Reaches engine Meets start system) :
    AllAt At system ∧ Inv system.world system.log := by
  refine reached.invariant (fun system => AllAt At system ∧ Inv system.world system.log)
    ⟨all, initial⟩ fun before meets stepped => ?_
  obtain ⟨allAfter, effect⟩ := (System.step_sound stepped).autocommit auto (allowed meets)
    fails before.1
  refine ⟨allAfter, ?_⟩
  rcases effect with ⟨worldEq, logEq⟩ | ⟨stmt, next, answer, world, place, result, worldEq, logEq⟩
  · rw [worldEq, logEq]
    exact before.2
  · rw [worldEq, logEq]
    exact preserved before.2 place result

end Autocommit

/-- What one client guarantees about its own part of the world, whatever the
others do.  `Local stmt own answer own'` bounds what a statement can do to it. -/
structure Contract (S : Signature) (O : Type) where
  /-- Assumed of every statement. -/
  Local : (stmt : S.Stmt) → O → S.Res stmt → O → Prop
  /-- Holds in front of every statement, given those of the open transaction. -/
  Pre : List (Event S) → S.Stmt → O → Prop
  /-- Holds of every commit, given the client's durable statements before it and
  the statements it makes durable. -/
  Post : List (Event S) → List (Event S) → O → Prop
  /-- Holds of the durable statements of a client that has not returned. -/
  Unfinished : List (Event S) → Prop

namespace Program

variable {S : Signature} {ε α O : Type}

/-- A program keeps a contract from where it stands: with its durable statements,
those of its open transaction, and what it owns. -/
def Safe (nothing : O) (contract : Contract S O) :
    Program S ε α → List (Event S) → Option (List (Event S)) → O → Prop
  | done _, _, _, _ => True
  | raise _, history, _, _ => contract.Unfinished history
  | begin rest, history, _, own =>
      contract.Unfinished history ∧ rest.Safe nothing contract history (some []) own
  | commit rest, history, transaction, own =>
      contract.Unfinished history ∧ contract.Post history (transaction.getD []) own ∧
        rest.Safe nothing contract (history ++ transaction.getD []) none nothing
  | call stmt next, history, none, own =>
      contract.Unfinished history ∧ contract.Pre [] stmt own ∧
        ∀ answer own', contract.Local stmt own answer own' →
          contract.Post history [⟨stmt, answer⟩] own' ∧
            (next answer).Safe nothing contract (history ++ [⟨stmt, answer⟩]) none nothing
  | call stmt next, history, some events, own =>
      contract.Unfinished history ∧ contract.Pre events stmt own ∧
        ∀ answer own', contract.Local stmt own answer own' →
          (next answer).Safe nothing contract history (some (events ++ [⟨stmt, answer⟩])) own'

/-- A client that has not returned is unfinished. -/
theorem Safe.unfinished {nothing : O} {contract : Contract S O} {program : Program S ε α}
    {history : List (Event S)} {transaction : Option (List (Event S))} {own : O}
    (safe : program.Safe nothing contract history transaction own)
    (running : ∀ value, program ≠ done value) : contract.Unfinished history := by
  cases program with
  | done value => exact absurd rfl (running value)
  | raise error => exact safe
  | begin rest => exact safe.1
  | commit rest => exact safe.1
  | call stmt next => cases transaction <;> exact safe.1

/-- A client whose durable statements are not those of an unfinished one has returned. -/
theorem Safe.returned {nothing : O} {contract : Contract S O} {program : Program S ε α}
    {history : List (Event S)} {transaction : Option (List (Event S))} {own : O}
    (safe : program.Safe nothing contract history transaction own)
    (finished : ¬ contract.Unfinished history) : ∃ value, program = done value := by
  by_contra running
  exact finished (safe.unfinished fun value eq => running ⟨value, eq⟩)

/-- Dropping the value keeps the contract. -/
theorem Safe.discard {nothing : O} {contract : Contract S O} {program : Program S ε α}
    {history : List (Event S)} {transaction : Option (List (Event S))} {own : O}
    (safe : program.Safe nothing contract history transaction own) :
    program.discard.Safe nothing contract history transaction own := by
  unfold Program.discard
  induction program generalizing history transaction own with
  | done value => trivial
  | raise error => exact safe
  | begin rest ih => exact ⟨safe.1, ih safe.2⟩
  | commit rest ih => exact ⟨safe.1, safe.2.1, ih safe.2.2⟩
  | call stmt next ih =>
      cases transaction with
      | none =>
          refine ⟨safe.1, safe.2.1, fun answer own' moved => ?_⟩
          have rest := safe.2.2 answer own' moved
          exact ⟨rest.1, ih answer rest.2⟩
      | some events =>
          exact ⟨safe.1, safe.2.1, fun answer own' moved => ih answer (safe.2.2 answer own' moved)⟩

/-- A program that keeps a contract keeps every weaker one. -/
theorem Safe.mono {nothing : O} {strong weak : Contract S O} {program : Program S ε α}
    (localLe : ∀ {stmt own answer own'}, weak.Local stmt own answer own' →
      strong.Local stmt own answer own')
    (preLe : ∀ {events stmt own}, strong.Pre events stmt own → weak.Pre events stmt own)
    (postLe : ∀ {history events own}, strong.Post history events own →
      weak.Post history events own)
    (unfinishedLe : ∀ {history}, strong.Unfinished history → weak.Unfinished history)
    {history : List (Event S)} {transaction : Option (List (Event S))} {own : O}
    (safe : program.Safe nothing strong history transaction own) :
    program.Safe nothing weak history transaction own := by
  induction program generalizing history transaction own with
  | done value => trivial
  | raise error => exact unfinishedLe safe
  | begin rest ih => exact ⟨unfinishedLe safe.1, ih safe.2⟩
  | commit rest ih => exact ⟨unfinishedLe safe.1, postLe safe.2.1, ih safe.2.2⟩
  | call stmt next ih =>
      cases transaction with
      | none =>
          refine ⟨unfinishedLe safe.1, preLe safe.2.1, fun answer own' moved => ?_⟩
          have rest := safe.2.2 answer own' (localLe moved)
          exact ⟨postLe rest.1, ih answer rest.2⟩
      | some events =>
          exact ⟨unfinishedLe safe.1, preLe safe.2.1, fun answer own' moved =>
            ih answer (safe.2.2 answer own' (localLe moved))⟩

end Program

section Modular

variable {S : Signature} {ι I W ε α O B : Type} [DecidableEq ι] {engine : Engine S ι I W ε}
variable (iso : Isolation engine O B) (contract : Contract S O)

/-- Every client keeps the contract from where it stands. -/
def AllSafe (system : System S ι W ε α) : Prop :=
  ∀ agent, (system.thread agent).program.Safe iso.nothing contract (durable agent system.log)
    (system.thread agent).transaction (iso.own agent system.world)

/-- The statement that `action` executes in `system`, if any, stays within the contract. -/
def LocalAt (system : System S ι W ε α) (action : Action ι I ε) : Prop :=
  ∀ {stmt : S.Stmt} {answer : S.Res stmt} {world : W}, action.fault = none →
    (system.thread action.agent).program.nextStmt = some stmt →
    engine.exec action.agent action.input stmt system.world = some (.ok (answer, world)) →
    contract.Local stmt (iso.own action.agent system.world) answer (iso.own action.agent world)

variable {iso contract}
variable {system system' : System S ι W ε α} {agent : ι} {action : Action ι I ε}

/-- Clients that own nothing and whose programs keep the contract are safe. -/
theorem AllSafe.start {world : W} {program : ι → Program S ε α}
    (clean : ∀ agent, iso.own agent world = iso.nothing)
    (safe : ∀ agent, (program agent).Safe iso.nothing contract [] none iso.nothing) :
    AllSafe iso contract (System.start world program) := by
  intro agent
  rw [show iso.own agent (System.start world program).world = iso.nothing from clean agent]
  exact safe agent

/-- A step that gives `agent` a safe continuation and leaves the others alone
leaves everybody safe. -/
theorem AllSafe.update {thread : Thread S ε α} {world : W} (safe : AllSafe iso contract system)
    (events : List (Event S))
    (self : thread.program.Safe iso.nothing contract (durable agent system.log ++ events)
      thread.transaction (iso.own agent world))
    (others : ∀ other, other ≠ agent → iso.own other world = iso.own other system.world) :
    AllSafe iso contract
      { system.setThread agent thread with
        world := world
        log := system.log ++ events.map (agent, ·) } := by
  intro other
  by_cases same : other = agent
  · subst same
    simpa [System.setThread] using self
  · simpa [System.setThread, same, others other same, durable_append_of_ne _ _ same]
      using safe other

/-- The same for a step that makes nothing durable. -/
theorem AllSafe.update_silent {thread : Thread S ε α} {world : W}
    (safe : AllSafe iso contract system)
    (self : thread.program.Safe iso.nothing contract (durable agent system.log)
      thread.transaction (iso.own agent world))
    (others : ∀ other, other ≠ agent → iso.own other world = iso.own other system.world) :
    AllSafe iso contract { system.setThread agent thread with world := world } := by
  have updated := safe.update [] (by simpa using self) others
  simpa [System.setThread] using updated

/-- **Safety of every client survives every step.** -/
theorem Step.safe (step : Step engine system action system')
    (safe : AllSafe iso contract system) (stays : LocalAt iso contract system action) :
    AllSafe iso contract system' := by
  have own := safe action.agent
  cases step with
  | fault error located running =>
      refine safe.update_silent (own.unfinished ?_) fun _ _ => rfl
      rw [located]
      exact running
  | rollback located =>
      rw [located] at own
      exact safe.update_silent own fun other different => iso.own_rollback_of_ne _ different
  | begin located =>
      rw [located] at own
      exact safe.update_silent own.2 fun _ _ => rfl
  | commit located unharmed =>
      rw [located] at own
      refine safe.update _ ?_ fun other different => iso.own_commit_of_ne _ different
      rw [iso.own_commit_self]
      exact own.2.2
  | auto located unharmed result =>
      rw [located] at own
      have moved := stays unharmed (by rw [located]; rfl) result
      refine safe.update [_] ?_ fun other different => ?_
      · rw [iso.own_commit_self]
        exact (own.2.2 _ _ moved).2
      · rw [iso.own_commit_of_ne _ different, iso.own_exec_of_ne result different]
  | stmt located unharmed result =>
      rw [located] at own
      have moved := stays unharmed (by rw [located]; rfl) result
      exact safe.update_silent (own.2.2 _ _ moved) fun other different =>
        iso.own_exec_of_ne result different

/-- **What a step publishes.**  A step of a safe client leaves the committed
state and the log alone, or it is a commit of what the client then owns, and
that satisfies `Post`. -/
theorem Step.publishes (step : Step engine system action system')
    (safe : AllSafe iso contract system) (stays : LocalAt iso contract system action) :
    (iso.shared system'.world = iso.shared system.world ∧ system'.log = system.log) ∨
      ∃ events world,
        contract.Post (durable action.agent system.log) events (iso.own action.agent world) ∧
        iso.shared world = iso.shared system.world ∧
        (∀ other, other ≠ action.agent → iso.own other world = iso.own other system.world) ∧
        system'.world = engine.commit action.agent world ∧
        system'.log = system.log ++ events.map (action.agent, ·) := by
  have own := safe action.agent
  cases step with
  | fault error located running => exact .inl ⟨rfl, rfl⟩
  | rollback located => exact .inl ⟨iso.shared_rollback _ _, rfl⟩
  | begin located => exact .inl ⟨rfl, rfl⟩
  | commit located unharmed =>
      rw [located] at own
      exact .inr ⟨_, system.world, own.2.1, rfl, fun _ _ => rfl, rfl, rfl⟩
  | auto located unharmed result =>
      rw [located] at own
      have moved := stays unharmed (by rw [located]; rfl) result
      exact .inr ⟨_, _, (own.2.2 _ _ moved).1, iso.shared_exec result,
        fun other different => iso.own_exec_of_ne result different, rfl, rfl⟩
  | stmt located unharmed result => exact .inl ⟨iso.shared_exec result, rfl⟩

/-- **Invariant rule for safe clients.**  When everybody starts safe and the
condition on the actions bounds their statements, everybody stays safe, and an
invariant only has to survive the steps of safe clients. -/
theorem Reaches.invariant_of_safe {Meets : System S ι W ε α → Action ι I ε → Prop}
    {start : System S ι W ε α} (Inv : System S ι W ε α → Prop) (safe : AllSafe iso contract start)
    (stays : ∀ {system action}, Meets system action → LocalAt iso contract system action)
    (initial : Inv start)
    (preserved : ∀ {before after : System S ι W ε α} {action : Action ι I ε},
      AllSafe iso contract before → Inv before → Meets before action →
        Step engine before action after → Inv after)
    (reached : Reaches engine Meets start system) : AllSafe iso contract system ∧ Inv system := by
  refine reached.invariant (fun system => AllSafe iso contract system ∧ Inv system)
    ⟨safe, initial⟩ fun before meets stepped => ?_
  have step := System.step_sound stepped
  exact ⟨step.safe before.1 (stays meets), preserved before.1 before.2 meets step⟩

end Modular

end Transactional
