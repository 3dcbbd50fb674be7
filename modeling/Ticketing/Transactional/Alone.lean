import Ticketing.Transactional.Interleaving

/-!
# A client that runs as if alone

Inside its transaction a client sees the shared world through a view of its own.  As long as its
statements do to the view what they do to the store of a single client, the rest of its program
comes to the same end as if nobody else were there.

## Main Definitions

* `Viewed` — an engine whose statements act on views as on a store
* `Program.Closes` — the rest of a transaction, up to its commit at the end of the program
* `Program.RunsTo` — what a program does alone, whatever its inputs
* `Inside` — a client in its transaction, and the end it is going to come to

## Main Results

* `Step.inside` — a step of such a client, and what it leaves where the transaction ends
* `System.moves` — a client that has come to no end has a step, unless it has to wait
-/

namespace Transactional

section Views

variable {S : Signature} {ι I W V ε α : Type}

/-- A statement does to what its client sees what it does to a store of its own. -/
structure Viewed (engine : Engine S ι I W ε) (store : Store S I V ε) where
  view : ι → W → V
  exec_ok : ∀ {agent : ι} {input : I} {stmt : S.Stmt} {answer : S.Res stmt} {world world' : W},
    engine.exec agent input stmt world = some (.ok (answer, world')) →
    store.exec input stmt (view agent world) = .ok (answer, view agent world')
  exec_error : ∀ {agent : ι} {input : I} {stmt : S.Stmt} {error : ε} {world : W},
    engine.exec agent input stmt world = some (.error error) →
    store.exec input stmt (view agent world) = .error error

namespace Program

/-- What is left of a program inside its transaction: statements, and the commit at its end. -/
def Closes : Program S ε α → Prop
  | done _ => False
  | raise _ => True
  | begin _ => False
  | commit rest => ∃ value, rest = done value
  | call _ next => ∀ answer, (next answer).Closes

/-- Whatever its inputs, the program comes to `result` alone. -/
def RunsTo (store : Store S I V ε) (program : Program S ε α) (saved : Option V) (world : V)
    (result : Outcome ε α × V) : Prop :=
  ∀ inputs, program.run store none inputs saved world = result

variable {store : Store S I V ε} {saved : Option V} {world world' : V}
  {result : Outcome ε α × V} {stmt : S.Stmt} {next : S.Res stmt → Program S ε α}

/-- A statement that succeeds is the first of the run. -/
theorem RunsTo.call_ok {input : I} {answer : S.Res stmt}
    (runs : RunsTo store (call stmt next) saved world result)
    (executed : store.exec input stmt world = .ok (answer, world')) :
    RunsTo store (next answer) saved world' result := by
  intro inputs
  have ran := runs (Nat.rec input fun n _ => inputs n)
  rw [run_call, show Nat.rec input (fun n _ => inputs n) 0 = input from rfl, executed] at ran
  exact ran

/-- A statement that fails ends the run. -/
theorem RunsTo.call_error {input : I} {error : ε}
    (runs : RunsTo store (call stmt next) saved world result)
    (executed : store.exec input stmt world = .error error) :
    RunsTo store (raise error) saved world result := by
  intro inputs
  have ran := runs fun _ => input
  rw [run_call, executed] at ran
  exact ran

end Program

end Views

section Inside

variable {S : Signature} {ι I W V ε α : Type} [DecidableEq ι] {engine : Engine S ι I W ε}
variable {store : Store S I V ε} (viewed : Viewed engine store) (saved : V)
  (result : Outcome ε α × V) {system system' : System S ι W ε α} {action : Action ι I ε}

/-- `agent` is in the transaction it has begun in `saved`, and alone it would come to `result`. -/
def Inside (agent : ι) (system : System S ι W ε α) : Prop :=
  ∃ program events, system.thread agent = ⟨program, some events⟩ ∧ program.Closes ∧
    program.RunsTo store (some saved) (viewed.view agent system.world) result

variable {viewed saved result}

/-- Nobody else notices a step of one client but in the shared world. -/
theorem Step.thread_of_ne (step : Step engine system action system') {other : ι}
    (different : other ≠ action.agent) : system'.thread other = system.thread other := by
  cases step <;> exact System.setThread_of_ne other different

/-- **A step inside a transaction.**  The client stays inside, or it commits what it came to
alone, or it rolls back after the exception it came to alone. -/
theorem Step.inside (step : Step engine system action system')
    (inside : Inside viewed saved result action.agent system) (unharmed : action.fault = none) :
    (Inside viewed saved result action.agent system' ∧ system'.log = system.log ∧
        (system'.world = system.world ∨ ∃ stmt answer,
          engine.exec action.agent action.input stmt system.world
            = some (.ok (answer, system'.world)))) ∨
      (∃ value, ∃ events : List (Event S), system'.thread action.agent = ⟨.done value, none⟩ ∧
        system'.world = engine.commit action.agent system.world ∧
        system'.log = system.log ++ events.map (action.agent, ·) ∧
        result = (.returned value, viewed.view action.agent system.world)) ∨
      ∃ error, system'.thread action.agent = ⟨.raise error, none⟩ ∧
        system'.world = engine.rollback action.agent system.world ∧
        system'.log = system.log ∧
        result = (.raised error, store.rollback saved (viewed.view action.agent system.world)) := by
  obtain ⟨program, events, isAt, closes, runs⟩ := inside
  cases step with
  | @fault program' transaction error located running cause =>
      obtain ⟨rfl, rfl⟩ := Thread.mk.inj (located.symm.trans isAt)
      rcases cause with harmed | ⟨stmt, next, rfl, failed⟩
      · rw [unharmed] at harmed
        cases harmed
      · exact .inl ⟨⟨.raise error, events, System.setThread_self, trivial,
          runs.call_error (viewed.exec_error failed)⟩, rfl, .inl rfl⟩
  | @rollback error events' located =>
      obtain ⟨rfl, -⟩ := Thread.mk.inj (located.symm.trans isAt)
      exact .inr (.inr ⟨error, System.setThread_self, rfl, rfl,
        (runs fun _ => action.input).symm⟩)
  | begin located =>
      obtain ⟨rfl, -⟩ := Thread.mk.inj (located.symm.trans isAt)
      exact closes.elim
  | @commit rest transaction located =>
      obtain ⟨rfl, -⟩ := Thread.mk.inj (located.symm.trans isAt)
      obtain ⟨value, rfl⟩ := closes
      exact .inr (.inl ⟨value, _, System.setThread_self, rfl, rfl,
        (runs fun _ => action.input).symm⟩)
  | auto located =>
      cases (Thread.mk.inj (located.symm.trans isAt)).2
  | @stmt stmt next events' answer world located _ executed =>
      obtain ⟨rfl, -⟩ := Thread.mk.inj (located.symm.trans isAt)
      exact .inl ⟨⟨next answer, _, System.setThread_self, closes answer,
        runs.call_ok (viewed.exec_ok executed)⟩, rfl, .inr ⟨stmt, answer, executed⟩⟩

/-- A client that has come to no end can go on, unless its next statement has to wait. -/
theorem System.moves {agent : ι} {input : I}
    (free : ∀ stmt, engine.exec agent input stmt system.world ≠ none)
    (notDone : ∀ value, (system.thread agent).program ≠ .done value)
    (notRaised : ∀ error, system.thread agent ≠ ⟨.raise error, none⟩) :
    ∃ after, system.step engine ⟨agent, input, none⟩ = some after := by
  rcases isAt : system.thread agent with ⟨program, transaction⟩
  rw [isAt] at notDone notRaised
  simp only [System.step, isAt]
  cases program with
  | done value => exact absurd rfl (notDone value)
  | raise error =>
      cases transaction with
      | none => exact absurd rfl (notRaised error)
      | some events => exact ⟨_, rfl⟩
  | begin rest => exact ⟨_, rfl⟩
  | commit rest => exact ⟨_, rfl⟩
  | call stmt next =>
      cases executed : engine.exec agent input stmt system.world with
      | none => exact absurd executed (free stmt)
      | some outcome =>
          simp only [executed]
          cases outcome with
          | error error => exact ⟨_, rfl⟩
          | ok answer => cases transaction <;> exact ⟨_, rfl⟩

/-- So can a client inside its transaction. -/
theorem Inside.moves {agent : ι} (inside : Inside viewed saved result agent system) (input : I)
    (free : ∀ stmt, engine.exec agent input stmt system.world ≠ none) :
    ∃ after, system.step engine ⟨agent, input, none⟩ = some after := by
  obtain ⟨program, events, isAt, closes, -⟩ := inside
  refine System.moves free (fun value ended => ?_) fun error ended => ?_
  · rw [isAt] at ended
    cases ended
    exact closes
  · cases isAt.symm.trans ended

end Inside

end Transactional
