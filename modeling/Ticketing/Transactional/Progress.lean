import Ticketing.Transactional.Interleaving
import Ticketing.Transactional.SingleTransaction

/-!
# Clients that come to an end

Clients wait for each other's locks.  When what they own can be ranked so that
whoever waits waits for a client of higher rank, nobody waits for ever.

## Main Definitions

* `Thread.Ended` — the client has returned, or has raised and rolled back
* `Thread.Next` — the threads a step can leave
* `Tidy` — outside a transaction clients own nothing
* `LockOrder` — a rank of what a client owns that waiting clients look up to

## Main Results

* `wellFounded_steps` — finitely many clients do not run for ever
* `LockOrder.moves` — as long as one client has not ended, one of them can move
* `completes` — so there is always a way to the end

## Design Notes

A program is a finite tree below each answer, but the number of its steps is not
bounded (a loop may run over the rows of a query), so what decreases along a run
is a well-founded relation and not a number.
-/

namespace Transactional

variable {S : Signature} {ι I W ε α O B : Type}

/-! ## Steps of one client -/

/-- The client has returned, or has raised and rolled back. -/
def Thread.Ended (thread : Thread S ε α) : Prop :=
  (∃ value, thread.program = .done value) ∨ ∃ error, thread = ⟨.raise error, none⟩

/-- `Next after before`: a step can leave the client at `after`. -/
inductive Thread.Next : Thread S ε α → Thread S ε α → Prop
  | begin {rest : Program S ε α} {transaction : Option (List (Event S))} :
      Next ⟨rest, some []⟩ ⟨.begin rest, transaction⟩
  | commit {rest : Program S ε α} {transaction : Option (List (Event S))} :
      Next ⟨rest, none⟩ ⟨.commit rest, transaction⟩
  | call {stmt : S.Stmt} {next : S.Res stmt → Program S ε α} (answer : S.Res stmt)
      (transaction transaction' : Option (List (Event S))) :
      Next ⟨next answer, transaction'⟩ ⟨.call stmt next, transaction⟩
  | fault {program : Program S ε α} {transaction : Option (List (Event S))} (error : ε)
      (running : ∀ error', program ≠ .raise error') :
      Next ⟨.raise error, transaction⟩ ⟨program, transaction⟩
  | rollback {error : ε} {events : List (Event S)} :
      Next ⟨.raise error, none⟩ ⟨.raise error, some events⟩

/-- No client runs for ever. -/
theorem Thread.wellFounded_next : WellFounded (Thread.Next (S := S) (ε := ε) (α := α)) := by
  have raised (error : ε) (transaction : Option (List (Event S))) :
      Acc Thread.Next (⟨.raise error, transaction⟩ : Thread S ε α) := by
    have ended : Acc Thread.Next (⟨.raise error, none⟩ : Thread S ε α) := by
      refine ⟨_, fun after next => ?_⟩
      cases next with
      | fault _ running => exact absurd rfl (running error)
    refine ⟨_, fun after next => ?_⟩
    cases next with
    | fault _ running => exact absurd rfl (running error)
    | rollback => exact ended
  -- a step goes to a part of the program, or to the exception
  have all (program : Program S ε α) (transaction : Option (List (Event S))) :
      Acc Thread.Next ⟨program, transaction⟩ := by
    induction program generalizing transaction with
    | done value =>
        refine ⟨_, fun after next => ?_⟩
        cases next with
        | fault error _ => exact raised error transaction
    | raise error => exact raised error transaction
    | begin rest ih =>
        refine ⟨_, fun after next => ?_⟩
        cases next with
        | begin => exact ih _
        | fault error _ => exact raised error transaction
    | commit rest ih =>
        refine ⟨_, fun after next => ?_⟩
        cases next with
        | commit => exact ih _
        | fault error _ => exact raised error transaction
    | call stmt next ih =>
        refine ⟨_, fun after stepped => ?_⟩
        cases stepped with
        | call answer => exact ih answer _
        | fault error _ => exact raised error transaction
  exact ⟨fun thread => all thread.program thread.transaction⟩

section Steps

variable [DecidableEq ι] {engine : Engine S ι I W ε} {system system' : System S ι W ε α}
  {action : Action ι I ε}

/-- A step takes its client on, and leaves the others where they are. -/
theorem System.step_next (stepped : system.step engine action = some system') :
    ∃ thread, system'.thread = Function.update system.thread action.agent thread ∧
      Thread.Next thread (system.thread action.agent) := by
  obtain ⟨agent, input, fault⟩ := action
  rcases located : system.thread agent with ⟨program, transaction⟩
  simp only [System.step, located] at stepped ⊢
  cases fault with
  | some error =>
      cases program with
      | done value => cases stepped
      | raise error' => cases stepped
      | begin rest =>
          cases stepped
          refine ⟨_, rfl, .fault error fun error' same => ?_⟩
          cases same
      | commit rest =>
          cases stepped
          refine ⟨_, rfl, .fault error fun error' same => ?_⟩
          cases same
      | call stmt next =>
          cases stepped
          refine ⟨_, rfl, .fault error fun error' same => ?_⟩
          cases same
  | none =>
      cases program with
      | done value => cases stepped
      | raise error =>
          cases transaction with
          | none => cases stepped
          | some events => cases stepped; exact ⟨_, rfl, .rollback⟩
      | begin rest => cases stepped; exact ⟨_, rfl, .begin⟩
      | commit rest => cases stepped; exact ⟨_, rfl, .commit⟩
      | call stmt next =>
          simp only at stepped
          cases result : engine.exec agent input stmt system.world with
          | none => simp [result] at stepped
          | some outcome =>
              cases outcome with
              | error error =>
                  simp only [result, Option.some.injEq] at stepped
                  subst stepped
                  refine ⟨_, rfl, .fault error fun error' same => ?_⟩
                  cases same
              | ok pair =>
                  cases transaction with
                  | none =>
                      simp only [result, Option.some.injEq] at stepped
                      subst stepped
                      exact ⟨_, rfl, .call pair.1 none none⟩
                  | some events =>
                      simp only [result, Option.some.injEq] at stepped
                      subst stepped
                      exact ⟨_, rfl, .call pair.1 _ _⟩

/-- **Finitely many clients do not run for ever**, whatever happens to them. -/
theorem wellFounded_steps [Finite ι] (engine : Engine S ι I W ε) :
    WellFounded fun after before : System S ι W ε α =>
      ∃ action, before.step engine action = some after := by
  have wf := Thread.wellFounded_next (S := S) (ε := ε) (α := α)
  have ranks : WellFounded ((· < ·) : (ι → Ordinal) → (ι → Ordinal) → Prop) :=
    Pi.wellFoundedLT.wf
  refine Subrelation.wf ?_ (InvImage.wf (fun system : System S ι W ε α =>
    fun agent => (wf.apply (system.thread agent)).rank) ranks)
  rintro after before ⟨action, stepped⟩
  obtain ⟨thread, threads, next⟩ := System.step_next stepped
  have less := (wf.apply (before.thread action.agent)).rank_lt_of_rel next
  refine Pi.lt_def.mpr ⟨fun agent => ?_, action.agent, ?_⟩
  · by_cases same : agent = action.agent
    · subst same
      simpa [threads] using less.le
    · simp [threads, same]
  · simpa [threads] using less

/-- **A way to the end.**  Where an invariant makes sure that some client can move
as long as one has not ended, every client can be brought to its end. -/
theorem completes [Finite ι] (Inv : System S ι W ε α → Prop)
    (preserved : ∀ {before after : System S ι W ε α} {action : Action ι I ε},
      Inv before → action.fault = none → before.step engine action = some after → Inv after)
    (moves : ∀ {system : System S ι W ε α}, Inv system →
      (∃ agent, ¬ (system.thread agent).Ended) →
      ∃ action after, action.fault = none ∧ system.step engine action = some after)
    (holds : Inv system) :
    ∃ schedule after, (∀ action ∈ schedule, action.fault = none) ∧
      system.run engine schedule = some after ∧ ∀ agent, (after.thread agent).Ended := by
  induction system using (wellFounded_steps engine).induction with
  | _ system ih =>
      by_cases running : ∃ agent, ¬ (system.thread agent).Ended
      · obtain ⟨action, next, unharmed, stepped⟩ := moves holds running
        obtain ⟨schedule, after, unharmed', executed, ended⟩ :=
          ih next ⟨action, stepped⟩ (preserved holds unharmed stepped)
        refine ⟨action :: schedule, after, ?_, ?_, ended⟩
        · exact List.forall_mem_cons.mpr ⟨unharmed, unharmed'⟩
        · rw [System.run, System.runWhile, if_pos rfl, stepped]
          exact executed
      · exact ⟨[], system, List.forall_mem_nil _, rfl, not_exists_not.mp running⟩

/-! ## Tidy clients -/

/-- Every client is in a program with at most one transaction, at its end, and
owns nothing while it is not open. -/
def Tidy (iso : Isolation engine O B) (system : System S ι W ε α) : Prop :=
  ∀ agent, (system.thread agent).program.SingleTransaction (fun _ => True)
      (system.thread agent).transaction.isSome ∧
    ((system.thread agent).transaction = none → iso.own agent system.world = iso.nothing)

variable {iso : Isolation engine O B}

omit [DecidableEq ι] in
theorem Tidy.start {world : W} {program : ι → Program S ε α}
    (clean : ∀ agent, iso.own agent world = iso.nothing)
    (shape : ∀ agent, (program agent).SingleTransaction (fun _ => True) false) :
    Tidy iso (System.start world program) :=
  fun agent => ⟨shape agent, fun _ => clean agent⟩

omit [DecidableEq ι] in
/-- A client that has ended owns nothing. -/
theorem Tidy.nothing_of_ended (tidy : Tidy iso system) {agent : ι}
    (ended : (system.thread agent).Ended) : iso.own agent system.world = iso.nothing := by
  obtain ⟨shape, outside⟩ := tidy agent
  rcases isAt : system.thread agent with ⟨program, transaction⟩
  rw [isAt] at shape outside ended
  rcases ended with ⟨value, rfl⟩ | ⟨error, same⟩
  · cases transaction with
    | none => exact outside rfl
    | some events => cases shape
  · cases same
    exact outside rfl

/-- One client's step keeps the others tidy. -/
theorem Tidy.update (tidy : Tidy iso system) {agent : ι} {thread : Thread S ε α}
    (threads : system'.thread = Function.update system.thread agent thread)
    (self : thread.program.SingleTransaction (fun _ => True) thread.transaction.isSome ∧
      (thread.transaction = none → iso.own agent system'.world = iso.nothing))
    (others : ∀ other, other ≠ agent →
      iso.own other system'.world = iso.own other system.world) : Tidy iso system' := by
  intro other
  rw [threads]
  by_cases same : other = agent
  · subst same
    rw [Function.update_self]
    exact self
  · rw [Function.update_of_ne same, others other same]
    exact tidy other

/-- Clients stay tidy. -/
theorem Tidy.step (tidy : Tidy iso system) (stepped : system.step engine action = some system') :
    Tidy iso system' := by
  obtain ⟨shape, outside⟩ := tidy action.agent
  cases System.step_sound stepped with
  | fault error located running cause =>
      rw [located] at shape outside
      exact tidy.update rfl ⟨.raise _ error, outside⟩ fun _ _ => rfl
  | rollback located =>
      exact tidy.update rfl ⟨.raise false _, fun _ => iso.own_rollback_self ..⟩
        fun other different => iso.own_rollback_of_ne _ different
  | begin located =>
      rw [located] at shape
      refine tidy.update rfl ⟨?_, nofun⟩ fun _ _ => rfl
      generalize flag : (Option.isSome _) = opened at shape
      cases shape with
      | begin body => exact body
  | commit located unharmed =>
      rw [located] at shape
      refine tidy.update rfl ⟨?_, fun _ => iso.own_commit_self ..⟩
        fun other different => iso.own_commit_of_ne _ different
      generalize flag : (Option.isSome _) = opened at shape
      cases shape with
      | commit value => exact .done value
  | auto located unharmed result =>
      rw [located] at shape
      refine tidy.update rfl ⟨?_, fun _ => iso.own_commit_self ..⟩ fun other different => ?_
      · cases shape with
        | before still body => exact body _
      · exact (iso.own_commit_of_ne _ different).trans (iso.own_exec_of_ne result different)
  | stmt located unharmed result =>
      rw [located] at shape
      refine tidy.update rfl ⟨?_, nofun⟩ fun other different => iso.own_exec_of_ne result different
      cases shape with
      | inside body => exact body _

/-! ## Lock orders -/

/-- What clients own has a rank below `bound`; a client that has to wait, with
what `pre` says of it, waits for one of higher rank. -/
structure LockOrder (iso : Isolation engine O B) (pre : S.Stmt → O → Prop) where
  rank : O → ℕ
  bound : ℕ
  rank_le : ∀ own, rank own ≤ bound
  rank_nothing : rank iso.nothing = 0
  waits : ∀ {agent : ι} {input : I} {stmt : S.Stmt} {world : W}, pre stmt (iso.own agent world) →
    engine.exec agent input stmt world = none →
    ∃ other, rank (iso.own agent world) < rank (iso.own other world)

/-- A client that has not ended can move, unless its next statement has to wait. -/
theorem System.step_or_waits (engine : Engine S ι I W ε) {agent : ι} (input : I)
    (running : ¬ (system.thread agent).Ended) :
    (∃ after, system.step engine ⟨agent, input, none⟩ = some after) ∨
      ∃ stmt, (system.thread agent).program.nextStmt = some stmt ∧
        engine.exec agent input stmt system.world = none := by
  rcases isAt : system.thread agent with ⟨program, transaction⟩
  rw [isAt] at running
  simp only [System.step, isAt]
  cases program with
  | done value => exact absurd (.inl ⟨value, rfl⟩) running
  | raise error =>
      cases transaction with
      | none => exact absurd (.inr ⟨error, rfl⟩) running
      | some events => exact .inl ⟨_, rfl⟩
  | begin rest => exact .inl ⟨_, rfl⟩
  | commit rest => exact .inl ⟨_, rfl⟩
  | call stmt next =>
      cases result : engine.exec agent input stmt system.world with
      | none => exact .inr ⟨stmt, rfl, result⟩
      | some outcome =>
          refine .inl ?_
          simp only [result]
          cases outcome with
          | error error => exact ⟨_, rfl⟩
          | ok pair => cases transaction <;> exact ⟨_, rfl⟩

/-- **No deadlock.**  Where waiting clients look up to a client of higher rank, one
of the clients that have not ended can move, whatever it takes from its surroundings. -/
theorem LockOrder.moves {pre : S.Stmt → O → Prop} (order : LockOrder iso pre)
    (tidy : Tidy iso system)
    (meets : ∀ agent stmt, (system.thread agent).program.nextStmt = some stmt →
      pre stmt (iso.own agent system.world))
    (running : ∃ agent, ¬ (system.thread agent).Ended) (input : ι → I) :
    ∃ agent, ¬ (system.thread agent).Ended ∧
      ∃ after, system.step engine ⟨agent, input agent, none⟩ = some after := by
  -- follow the clients upwards until one of them does not wait
  suffices climb : ∀ room agent, ¬ (system.thread agent).Ended →
      order.bound - order.rank (iso.own agent system.world) = room →
      ∃ agent, ¬ (system.thread agent).Ended ∧
        ∃ after, system.step engine ⟨agent, input agent, none⟩ = some after by
    obtain ⟨agent, notEnded⟩ := running
    exact climb _ agent notEnded rfl
  intro room
  induction room using Nat.strong_induction_on with
  | _ room ih =>
      intro agent notEnded roomEq
      rcases System.step_or_waits engine (input agent) notEnded with
        moves | ⟨stmt, next, waiting⟩
      · exact ⟨agent, notEnded, moves⟩
      · obtain ⟨other, higher⟩ := order.waits (meets agent stmt next) waiting
        have top := order.rank_le (iso.own other system.world)
        refine ih _ ?_ other (fun ended => ?_) rfl
        · omega
        · rw [tidy.nothing_of_ended ended, order.rank_nothing] at higher
          omega

end Steps

end Transactional
