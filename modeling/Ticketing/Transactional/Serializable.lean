import Ticketing.Transactional.Alone
import Ticketing.Transactional.Progress

/-!
# Transactions that take a common lock are serializable

Clients that each run one transaction, and whose transactions all begin with the same lock,
work one at a time: whoever has the lock sees the state that the last one has left, and
nobody else can do more than wait.  Every interleaving is then a serial run of the same
transactions, in the order in which they give the lock back.

## Main Definitions

* `Program.CanEnd` — what a program can come to alone, whatever its inputs and wherever it
  is cut off
* `SerialRun` — calls run one after another, with their outcomes
* `CommonLock` — an engine with a lock that makes the clients work one at a time
* `Serializes` — an interleaving, seen as a serial run

## Main Results

* `Serializes.step` — one step of the interleaving is nothing or one call of the serial run
* `CommonLock.serializes` — every run, with everything between two of its moments

## Design Notes

A call that fails without the lock is put into the serial run at the step that decides its
fate: it leaves no trace, so any place between two calls would do.
-/

namespace Transactional

/-! ## Serial runs -/

section Serial

variable {S : Signature} {ι I V ε α : Type}

/-- Alone, the program can come to `result`; where `cut` holds, an exception from outside
may have cut it off. -/
def Program.CanEnd (store : Store S I V ε) (cut : Prop) (program : Program S ε α)
    (saved : Option V) (value : V) (result : Outcome ε α × V) : Prop :=
  ∃ fault inputs, (fault = none ∨ cut) ∧ program.run store fault inputs saved value = result

/-- Calls run one after another, and how each of them has ended.  `cut` says which exceptions
from outside may have hit which of them. -/
inductive SerialRun (store : Store S I V ε) (program : ι → Program S ε α) (cut : ι → ε → Prop)
    (start : V) : List (ι × Outcome ε α) → V → Prop
  | nil : SerialRun store program cut start [] start
  | call {ended : List (ι × Outcome ε α)} {value value' : V} {outcome : Outcome ε α}
      (before : SerialRun store program cut start ended value) (agent : ι)
      (ends : (program agent).CanEnd store (∃ error, cut agent error) none value
        (outcome, value')) :
      SerialRun store program cut start (ended ++ [(agent, outcome)]) value'

namespace Program

variable {store : Store S I V ε} {cut : Prop} {saved : Option V} {value value' : V}
  {result : Outcome ε α × V} {stmt : S.Stmt} {next : S.Res stmt → Program S ε α}

/-- What the body of a transaction comes to, the transaction comes to. -/
theorem CanEnd.begin {rest : Program S ε α}
    (ends : rest.CanEnd store cut (some value) value result) :
    (begin rest).CanEnd store cut none value result := by
  obtain ⟨fault, inputs, allowed, ran⟩ := ends
  cases fault with
  | none => exact ⟨none, inputs, allowed, ran⟩
  | some n =>
      refine ⟨some (n + 1), inputs, .inr (allowed.resolve_left (Option.some_ne_none n)), ?_⟩
      rw [run_begin_succ]
      exact ran

/-- A statement that succeeds is the first of the run. -/
theorem CanEnd.call_ok {input : I} {answer : S.Res stmt}
    (executed : store.exec input stmt value = .ok (answer, value'))
    (ends : (next answer).CanEnd store cut saved value' result) :
    (call stmt next).CanEnd store cut saved value result := by
  obtain ⟨fault, inputs, allowed, ran⟩ := ends
  let all : ℕ → I := fun n => n.casesOn input inputs
  cases fault with
  | none =>
      refine ⟨none, all, allowed, ?_⟩
      rw [run_call, show all 0 = input from rfl, executed]
      exact ran
  | some n =>
      refine ⟨some (n + 1), all, .inr (allowed.resolve_left (Option.some_ne_none n)), ?_⟩
      rw [run_call_succ, show all 0 = input from rfl, executed]
      exact ran

/-- A statement that fails ends the run. -/
theorem canEnd_call_error {input : I} {error : ε}
    (executed : store.exec input stmt value = .error error) :
    (call stmt next).CanEnd store cut saved value (.raised error, store.abort saved value) := by
  refine ⟨none, fun _ => input, .inl rfl, ?_⟩
  rw [run_call, executed]

theorem canEnd_raise (input : I) (error : ε) :
    (raise error : Program S ε α).CanEnd store cut saved value
      (.raised error, store.abort saved value) :=
  ⟨none, fun _ => input, .inl rfl, rfl⟩

theorem canEnd_commit (input : I) (returned : α) :
    (commit (done returned) : Program S ε α).CanEnd store cut saved value
      (.returned returned, value) :=
  ⟨none, fun _ => input, .inl rfl, rfl⟩

/-- A program that has not come to its end can be cut off where it is. -/
theorem canEnd_interrupted (input : I) {program : Program S ε α} (cutting : cut)
    (notDone : ∀ value, program ≠ done value) (notRaised : ∀ error, program ≠ raise error) :
    program.CanEnd store cut saved value (.interrupted, store.abort saved value) := by
  refine ⟨some 0, fun _ => input, .inr cutting, ?_⟩
  cases program with
  | done value => exact absurd rfl (notDone value)
  | raise error => exact absurd rfl (notRaised error)
  | begin rest => simp only [run, if_true]
  | commit rest => simp only [run, if_true]
  | call stmt next => exact run_call_interrupted ..

/-- The raise that an exception leaves comes to its own end only. -/
theorem CanEnd.of_raise {error : ε}
    (ends : (raise error : Program S ε α).CanEnd store cut saved value result) :
    result = (.raised error, store.abort saved value) := by
  obtain ⟨fault, inputs, -, ran⟩ := ends
  exact ran.symm

end Program

end Serial

/-! ## A common lock -/

section CommonLock

variable {S : Signature} {ι I W V ε α : Type} [DecidableEq ι]

/-- An engine with a lock that lets one client work at a time.  `Settled` says what everybody
sees while nobody has any lock; `Working` leaves one client alone with what was settled. -/
structure CommonLock (engine : Engine S ι I W ε) (store : Store S I V ε) extends
    Viewed engine store where
  Settled : W → V → Prop
  Working : ι → V → W → Prop
  /-- The client has the lock. -/
  Holds : ι → W → Prop
  /-- The statement takes the lock. -/
  Takes : S.Stmt → Prop
  /-- The answer of a statement that has found nothing to lock. -/
  Misses : (stmt : S.Stmt) → S.Res stmt → Prop
  rollback_self : ∀ value, store.rollback value value = value
  view_of_settled : ∀ {world value} (agent : ι), Settled world value → view agent world = value
  working : ∀ {world value} (agent : ι), Settled world value → Working agent value world
  working_exec : ∀ {agent : ι} {saved : V} {input : I} {stmt : S.Stmt} {answer : S.Res stmt}
    {world world' : W}, Working agent saved world →
    engine.exec agent input stmt world = some (.ok (answer, world')) → Working agent saved world'
  holds_exec : ∀ {agent : ι} {input : I} {stmt : S.Stmt} {answer : S.Res stmt} {world world' : W},
    Holds agent world →
    engine.exec agent input stmt world = some (.ok (answer, world')) → Holds agent world'
  settled_commit : ∀ {agent : ι} {saved : V} {world : W}, Working agent saved world →
    Settled (engine.commit agent world) (view agent world)
  settled_rollback : ∀ {agent : ι} {saved : V} {world : W}, Working agent saved world →
    Settled (engine.rollback agent world) (store.rollback saved (view agent world))
  rollback_settled : ∀ {world value} (agent : ι), Settled world value →
    engine.rollback agent world = world
  rollback_of_ne : ∀ {agent other : ι} {saved : V} {world : W}, Working agent saved world →
    other ≠ agent → engine.rollback other world = world
  takes : ∀ {agent : ι} {value : V} {input : I} {stmt : S.Stmt} {answer : S.Res stmt}
    {world world' : W}, Takes stmt → Settled world value →
    engine.exec agent input stmt world = some (.ok (answer, world')) →
    Holds agent world' ∨ world' = world ∧ Misses stmt answer
  waits : ∀ {agent other : ι} {input : I} {stmt : S.Stmt} {world : W}, Takes stmt →
    Holds agent world → other ≠ agent → engine.exec other input stmt world = none

variable {engine : Engine S ι I W ε} {store : Store S I V ε} (lock : CommonLock engine store)

/-- The program is one transaction that takes the lock first, and fails without it. -/
def CommonLock.Guards (program : Program S ε α) : Prop :=
  ∃ stmt next, program = .begin (.call stmt next) ∧ lock.Takes stmt ∧
    (∀ answer, (next answer).Closes) ∧
    ∀ answer, lock.Misses stmt answer → ∃ error, next answer = .raise error

/-- A client that has not asked for the lock. -/
def Waiting (program : Program S ε α) (thread : Thread S ε α) : Prop :=
  thread = .start program ∨ ∃ rest, program = .begin rest ∧ thread = ⟨rest, some []⟩

/-- How what is left of a program shows its outcome; it has been interrupted where it raises
an exception that `cut` has hit it with. -/
inductive EndsAs (cut : ε → Prop) : Program S ε α → Outcome ε α → Prop
  | returned (value : α) : EndsAs cut (.done value) (.returned value)
  | raised (error : ε) : EndsAs cut (.raise error) (.raised error)
  | interrupted {error : ε} (hit : cut error) : EndsAs cut (.raise error) .interrupted

variable (program : ι → Program S ε α) (cut : ι → ε → Prop)

/-- The client has the lock, and whatever the rest of its program can come to, its whole
program can come to from what was settled. -/
structure Busy (agent : ι) (value : V) (system : System S ι W ε α) : Prop where
  working : lock.Working agent value system.world
  holds : lock.Holds agent system.world
  doing : ∃ rest events, system.thread agent = ⟨rest, some events⟩ ∧ rest.Closes ∧
    ((∀ result, rest.CanEnd store (∃ error, cut agent error) (some value)
          (lock.view agent system.world) result →
        (program agent).CanEnd store (∃ error, cut agent error) none value result) ∨
      ∃ error, cut agent error ∧ rest = .raise error ∧
        (program agent).CanEnd store (∃ error, cut agent error) none value
          (.interrupted, store.rollback value (lock.view agent system.world)))

/-- Nobody has the lock, or the client inside is busy. -/
def Stage (value : V) (system : System S ι W ε α) : Option ι → Prop
  | none => lock.Settled system.world value
  | some agent => Busy lock program cut agent value system

/-- The system, seen as a serial run of the calls that are over and perhaps one that is not. -/
structure Serializes (start : V) (ended : List (ι × Outcome ε α)) (value : V) (inside : Option ι)
    (system : System S ι W ε α) : Prop where
  serial : SerialRun store program cut start ended value
  nodup : (ended.map Prod.fst).Nodup
  shown : ∀ agent outcome, (agent, outcome) ∈ ended →
    EndsAs (cut agent) (system.thread agent).program outcome
  stage : Stage lock program cut value system inside
  new : ∀ agent, inside = some agent → agent ∉ ended.map Prod.fst
  waiting : ∀ agent, inside ≠ some agent → agent ∉ ended.map Prod.fst →
    Waiting (program agent) (system.thread agent)

variable {lock program cut}
variable {start value : V} {ended : List (ι × Outcome ε α)} {inside : Option ι}
variable {system system' : System S ι W ε α} {action : Action ι I ε}

/-- A client that has raised can roll back at most. -/
theorem System.step_raise {error : ε}
    (raised : (system.thread action.agent).program = .raise error)
    (stepped : system.step engine action = some system') :
    system' = { system.setThread action.agent ⟨.raise error, none⟩ with
      world := engine.rollback action.agent system.world } := by
  obtain ⟨agent, input, fault⟩ := action
  rcases located : system.thread agent with ⟨rest, transaction⟩
  rw [located] at raised
  subst raised
  simp only [System.step, located] at stepped
  cases fault with
  | some error => cases stepped
  | none =>
      cases transaction with
      | none => cases stepped
      | some events =>
          cases stepped
          rfl

theorem System.step_done {returned : α}
    (isDone : (system.thread action.agent).program = .done returned) :
    system.step engine action = none := by
  obtain ⟨agent, input, fault⟩ := action
  rcases located : system.thread agent with ⟨rest, transaction⟩
  rw [located] at isDone
  subst isDone
  simp only [System.step, located]

omit [DecidableEq ι] in
/-- A client that is not inside has nothing to roll back. -/
theorem Stage.rollback (stage : Stage lock program cut value system inside) {agent : ι}
    (outside : inside ≠ some agent) : engine.rollback agent system.world = system.world := by
  cases inside with
  | none => exact lock.rollback_settled agent stage
  | some other =>
      exact lock.rollback_of_ne stage.working fun same => outside (congrArg some same.symm)

/-- Another client's thread says nothing about the stage. -/
theorem Stage.setThread (stage : Stage lock program cut value system inside) {agent : ι}
    (outside : inside ≠ some agent) (thread : Thread S ε α) :
    Stage lock program cut value (system.setThread agent thread) inside := by
  cases inside with
  | none => exact stage
  | some other =>
      have different : other ≠ agent := fun same => outside (congrArg some same)
      obtain ⟨rest, events, located, doing⟩ := stage.doing
      exact ⟨stage.working, stage.holds, rest, events,
        (System.setThread_of_ne other different).trans located, doing⟩

namespace Serializes

omit [DecidableEq ι] in
/-- A client whose call is over is not inside. -/
theorem outside_of_ended (serializes : Serializes lock program cut start ended value inside system)
    {agent : ι} (isEnded : agent ∈ ended.map Prod.fst) : inside ≠ some agent :=
  fun same => serializes.new agent same isEnded

/-- A call that leaves no trace is over. -/
theorem serve (serializes : Serializes lock program cut start ended value inside system)
    {agent : ι} (outside : inside ≠ some agent) (waiting : agent ∉ ended.map Prod.fst)
    {thread : Thread S ε α} {outcome : Outcome ε α}
    (ends : (program agent).CanEnd store (∃ error, cut agent error) none value (outcome, value))
    (shows : EndsAs (cut agent) thread.program outcome) :
    Serializes lock program cut start (ended ++ [(agent, outcome)]) value inside
      (system.setThread agent thread) where
  serial := .call serializes.serial agent ends
  nodup := by
    rw [List.map_append, List.nodup_append]
    refine ⟨serializes.nodup, List.nodup_singleton _, ?_⟩
    rintro first found second last rfl
    obtain rfl : first = agent := List.mem_singleton.mp last
    exact waiting found
  shown other outcome' found := by
    by_cases same : other = agent
    · subst same
      rw [System.setThread_self]
      rcases List.mem_append.mp found with before | last
      · exact absurd (List.mem_map_of_mem before) waiting
      · obtain rfl : outcome' = outcome :=
          congrArg Prod.snd (List.mem_singleton.mp last)
        exact shows
    · rw [System.setThread_of_ne other same]
      rcases List.mem_append.mp found with before | last
      · exact serializes.shown other outcome' before
      · exact absurd (congrArg Prod.fst (List.mem_singleton.mp last)) same
  stage := serializes.stage.setThread outside thread
  new other isInside found := by
    rcases List.mem_append.mp ((List.map_append ..) ▸ found) with before | last
    · exact serializes.new other isInside before
    · obtain rfl : other = agent := List.mem_singleton.mp last
      exact outside isInside
  waiting other otherOutside others := by
    rw [List.map_append, List.mem_append, not_or] at others
    have same : other ≠ agent := fun same => others.2 (List.mem_singleton.mpr same)
    rw [System.setThread_of_ne other same]
    exact serializes.waiting other otherOutside others.1

/-- The step of a client whose call is over. -/
theorem step_ended (serializes : Serializes lock program cut start ended value inside system)
    (isEnded : action.agent ∈ ended.map Prod.fst)
    (stepped : system.step engine action = some system') :
    Serializes lock program cut start ended value inside system' := by
  have outside := serializes.outside_of_ended isEnded
  obtain ⟨⟨agent, outcome⟩, found, same⟩ := List.mem_map.mp isEnded
  obtain rfl : agent = action.agent := same
  have shows := serializes.shown _ _ found
  cases left : (system.thread action.agent).program with
  | done returned =>
      rw [System.step_done left] at stepped
      cases stepped
  | begin rest => rw [left] at shows; cases shows
  | commit rest => rw [left] at shows; cases shows
  | call stmt next => rw [left] at shows; cases shows
  | raise error =>
      obtain rfl := System.step_raise left stepped
      rw [serializes.stage.rollback outside]
      rw [left] at shows
      refine ⟨serializes.serial, serializes.nodup, fun other outcome' found' => ?_,
        serializes.stage.setThread outside _, serializes.new, fun other otherOutside others => ?_⟩
      · have before := serializes.shown other outcome' found'
        by_cases same : other = action.agent
        · subst same
          rw [left] at before
          change EndsAs _ ((system.setThread _ _).thread _).program _
          rwa [System.setThread_self]
        · change EndsAs _ ((system.setThread _ _).thread _).program _
          rwa [System.setThread_of_ne other same]
      · have different : other ≠ action.agent := fun same => others (same ▸ isEnded)
        change Waiting _ ((system.setThread _ _).thread _)
        rw [System.setThread_of_ne other different]
        exact serializes.waiting other otherOutside others

/-- A client that opens its transaction still waits. -/
theorem openTransaction (serializes : Serializes lock program cut start ended value inside system)
    {agent : ι} (outside : inside ≠ some agent) (unserved : agent ∉ ended.map Prod.fst)
    {rest : Program S ε α} (opens : program agent = .begin rest) :
    Serializes lock program cut start ended value inside
      (system.setThread agent ⟨rest, some []⟩) where
  serial := serializes.serial
  nodup := serializes.nodup
  shown other outcome found := by
    have different : other ≠ agent := fun same =>
      unserved (same ▸ List.mem_map_of_mem found)
    rw [System.setThread_of_ne other different]
    exact serializes.shown other outcome found
  stage := serializes.stage.setThread outside _
  new := serializes.new
  waiting other otherOutside others := by
    by_cases same : other = agent
    · subst same
      exact .inr ⟨rest, opens, System.setThread_self⟩
    · rw [System.setThread_of_ne other same]
      exact serializes.waiting other otherOutside others

/-- The client that gets the lock is busy, and so is the one that keeps it. -/
theorem enter (serializes : Serializes lock program cut start ended value inside system)
    {agent : ι} (alone : ∀ other, inside = some other → other = agent)
    (unserved : agent ∉ ended.map Prod.fst) {rest : Program S ε α} {events : List (Event S)}
    {world : W} (working : lock.Working agent value world) (holds : lock.Holds agent world)
    (closes : rest.Closes)
    (comes : (∀ result, rest.CanEnd store (∃ error, cut agent error) (some value)
          (lock.view agent world) result →
        (program agent).CanEnd store (∃ error, cut agent error) none value result) ∨
      ∃ error, cut agent error ∧ rest = .raise error ∧
        (program agent).CanEnd store (∃ error, cut agent error) none value
          (.interrupted, store.rollback value (lock.view agent world))) :
    Serializes lock program cut start ended value (some agent)
      { system.setThread agent ⟨rest, some events⟩ with world := world } where
  serial := serializes.serial
  nodup := serializes.nodup
  shown other outcome found := by
    have different : other ≠ agent := fun same =>
      unserved (same ▸ List.mem_map_of_mem found)
    change EndsAs _ ((system.setThread _ _).thread _).program _
    rw [System.setThread_of_ne other different]
    exact serializes.shown other outcome found
  stage := ⟨working, holds, rest, events, System.setThread_self, closes, comes⟩
  new other isInside := by
    obtain rfl := Option.some.inj isInside
    exact unserved
  waiting other otherOutside others := by
    have different : other ≠ agent := fun same => otherOutside (congrArg some same.symm)
    change Waiting _ ((system.setThread _ _).thread _)
    rw [System.setThread_of_ne other different]
    exact serializes.waiting other (fun isInside => different (alone other isInside)) others

/-- The client that gives the lock back is over. -/
theorem leave {agent : ι}
    (serializes : Serializes lock program cut start ended value (some agent) system)
    {thread : Thread S ε α} {world : W} {log : List (ι × Event S)} {value' : V}
    {outcome : Outcome ε α} (settled : lock.Settled world value')
    (ends : (program agent).CanEnd store (∃ error, cut agent error) none value (outcome, value'))
    (shows : EndsAs (cut agent) thread.program outcome) :
    Serializes lock program cut start (ended ++ [(agent, outcome)]) value' none
      { system.setThread agent thread with world := world, log := log } := by
  have unserved := serializes.new agent rfl
  refine ⟨.call serializes.serial agent ends, ?_, fun other outcome' found => ?_, settled,
    fun other isInside => ?_, fun other _ others => ?_⟩
  · rw [List.map_append, List.nodup_append]
    refine ⟨serializes.nodup, List.nodup_singleton _, ?_⟩
    rintro first found second last rfl
    obtain rfl : first = agent := List.mem_singleton.mp last
    exact unserved found
  · change EndsAs _ ((system.setThread _ _).thread _).program _
    by_cases same : other = agent
    · subst same
      rw [System.setThread_self]
      rcases List.mem_append.mp found with before | last
      · exact absurd (List.mem_map_of_mem before) unserved
      · obtain rfl : outcome' = outcome :=
          congrArg Prod.snd (List.mem_singleton.mp last)
        exact shows
    · rw [System.setThread_of_ne other same]
      rcases List.mem_append.mp found with before | last
      · exact serializes.shown other outcome' before
      · exact absurd (congrArg Prod.fst (List.mem_singleton.mp last)) same
  · cases isInside
  · rw [List.map_append, List.mem_append, not_or] at others
    have different : other ≠ agent := fun same => others.2 (List.mem_singleton.mpr same)
    change Waiting _ ((system.setThread _ _).thread _)
    rw [System.setThread_of_ne other different]
    exact serializes.waiting other (fun same => different (Option.some.inj same).symm) others.1

/-- The step of a client that waits: it opens its transaction, gets the lock, or fails
without a trace. -/
theorem step_waiting (serializes : Serializes lock program cut start ended value inside system)
    (guards : lock.Guards (program action.agent)) (outside : inside ≠ some action.agent)
    (unserved : action.agent ∉ ended.map Prod.fst)
    (hits : ∀ error, action.fault = some error → cut action.agent error)
    (stepped : system.step engine action = some system') :
    ∃ more inside', Serializes lock program cut start (ended ++ more) value inside' system' := by
  obtain ⟨stmt, next, isProgram, takes, closes, misses⟩ := guards
  -- whatever cuts the call off, or fails in it, leaves the state that was settled
  have abort : store.abort (some value) value = value := lock.rollback_self value
  rcases serializes.waiting _ outside unserved with located | ⟨rest, opens, located⟩
  · rw [isProgram] at located
    cases harmed : action.fault with
    | some error =>
        simp only [System.step, harmed, located, Thread.start, Option.some.injEq] at stepped
        subst stepped
        have hit := hits error harmed
        refine ⟨_, inside, serializes.serve outside unserved (isProgram ▸ ?_) (.interrupted hit)⟩
        refine Program.canEnd_interrupted action.input ⟨error, hit⟩ ?_ ?_
        · intro _ same
          cases same
        · intro _ same
          cases same
    | none =>
        simp only [System.step, harmed, located, Thread.start, Option.some.injEq] at stepped
        subst stepped
        exact ⟨[], inside, (List.append_nil ended).symm ▸
          serializes.openTransaction outside unserved isProgram⟩
  · obtain rfl : rest = .call stmt next := by
      rw [isProgram] at opens
      exact (Program.begin.inj opens).symm
    cases harmed : action.fault with
    | some error =>
        simp only [System.step, harmed, located, Option.some.injEq] at stepped
        subst stepped
        have hit := hits error harmed
        refine ⟨_, inside, serializes.serve outside unserved (isProgram ▸ .begin ?_)
          (.interrupted hit)⟩
        have ends := @Program.canEnd_interrupted S I V ε α store (∃ error, cut action.agent error)
          (some value) value action.input (.call stmt next) ⟨error, hit⟩ (by rintro _ ⟨⟩)
          (by rintro _ ⟨⟩)
        rwa [abort] at ends
    | none =>
        cases executed : engine.exec action.agent action.input stmt system.world with
        | none => simp [System.step, harmed, located, executed] at stepped
        | some result =>
            cases inside with
            | some holder =>
                have different : action.agent ≠ holder :=
                  fun same => outside (congrArg some same.symm)
                have waits : engine.exec action.agent action.input stmt system.world = none :=
                  lock.waits takes serializes.stage.holds different
                rw [waits] at executed
                cases executed
            | none =>
                have settled : lock.Settled system.world value := serializes.stage
                have seen := lock.view_of_settled action.agent settled
                cases result with
                | error error =>
                    simp only [System.step, harmed, located, executed, Option.some.injEq] at stepped
                    subst stepped
                    have failed := lock.exec_error executed
                    rw [seen] at failed
                    refine ⟨_, none, serializes.serve outside unserved (isProgram ▸ .begin ?_)
                      (.raised error)⟩
                    have ends := @Program.canEnd_call_error S I V ε α store
                      (∃ error, cut action.agent error) (some value) value
                      stmt next action.input error failed
                    rwa [abort] at ends
                | ok pair =>
                    obtain ⟨answer, world⟩ := pair
                    simp only [System.step, harmed, located, executed, Option.some.injEq] at stepped
                    subst stepped
                    have ran := lock.exec_ok executed
                    rw [seen] at ran
                    rcases lock.takes takes settled executed with holds | ⟨rfl, missed⟩
                    · refine ⟨[], some action.agent, (List.append_nil ended).symm ▸
                        serializes.enter (by rintro _ ⟨⟩) unserved (lock.working_exec
                          (lock.working _ settled) executed) holds (closes answer)
                          (.inl fun result ends => ?_)⟩
                      rw [isProgram]
                      exact .begin (.call_ok ran ends)
                    · obtain ⟨error, fails⟩ := misses answer missed
                      rw [fails]
                      refine ⟨_, none, serializes.serve outside unserved (isProgram ▸ .begin ?_)
                        (.raised error)⟩
                      rw [seen] at ran
                      refine .call_ok ran ?_
                      rw [fails]
                      have ends := @Program.canEnd_raise S I V ε α store
                        (∃ error, cut action.agent error) (some value) value action.input error
                      rwa [abort] at ends

/-- The step of the client inside: it keeps the lock, or gives it back with the outcome it
could come to alone. -/
theorem step_inside
    (serializes : Serializes lock program cut start ended value (some action.agent) system)
    (hits : ∀ error, action.fault = some error → cut action.agent error)
    (stepped : system.step engine action = some system') :
    ∃ more value' inside',
      Serializes lock program cut start (ended ++ more) value' inside' system' := by
  have unserved := serializes.new _ rfl
  obtain ⟨working, holds, rest, events, located, closes, doing⟩ := serializes.stage
  have alone (other : ι) (isInside : some action.agent = some other) : other = action.agent :=
    (Option.some.inj isInside).symm
  -- where an exception from outside hits the client, it keeps the lock until its rollback
  have harm (error : ε) (harmed : action.fault = some error)
      (notDone : ∀ value, rest ≠ .done value) (notRaised : ∀ error, rest ≠ .raise error) :
      Serializes lock program cut start ended value (some action.agent)
        (system.setThread action.agent ⟨.raise error, some events⟩) := by
    have hit := hits error harmed
    refine serializes.enter alone unserved working holds trivial (.inr ⟨error, hit, rfl, ?_⟩)
    rcases doing with comes | ⟨error', -, isRaise, -⟩
    · exact comes _ (Program.canEnd_interrupted action.input ⟨error, hit⟩ notDone notRaised)
    · exact absurd isRaise (notRaised error')
  cases rest with
  | done returned => exact closes.elim
  | begin rest => exact closes.elim
  | raise error =>
      obtain rfl := System.step_raise (by rw [located]) stepped
      have settled := lock.settled_rollback working
      rcases doing with comes | ⟨error', hit, isRaise, interrupted⟩
      · exact ⟨_, _, none, serializes.leave settled
          (comes _ (Program.canEnd_raise action.input error)) (.raised error)⟩
      · cases isRaise
        exact ⟨_, _, none, serializes.leave settled interrupted (.interrupted hit)⟩
  | commit rest =>
      obtain ⟨returned, rfl⟩ := closes
      cases harmed : action.fault with
      | some error =>
          simp only [System.step, harmed, located, Option.some.injEq] at stepped
          subst stepped
          exact ⟨[], value, some action.agent, (List.append_nil ended).symm ▸
            harm error harmed (by rintro _ ⟨⟩) (by rintro _ ⟨⟩)⟩
      | none =>
          simp only [System.step, harmed, located, Option.some.injEq] at stepped
          subst stepped
          rcases doing with comes | ⟨error, -, isRaise, -⟩
          · exact ⟨_, _, none, serializes.leave (lock.settled_commit working)
              (comes _ (Program.canEnd_commit action.input returned)) (.returned returned)⟩
          · cases isRaise
  | call stmt next =>
      cases harmed : action.fault with
      | some error =>
          simp only [System.step, harmed, located, Option.some.injEq] at stepped
          subst stepped
          exact ⟨[], value, some action.agent, (List.append_nil ended).symm ▸
            harm error harmed (by rintro _ ⟨⟩) (by rintro _ ⟨⟩)⟩
      | none =>
          refine ⟨[], value, some action.agent, ?_⟩
          rw [List.append_nil]
          have comes := doing.resolve_right (by rintro ⟨error, -, ⟨⟩, -⟩)
          cases executed : engine.exec action.agent action.input stmt system.world with
          | none => simp [System.step, harmed, located, executed] at stepped
          | some result =>
              cases result with
              | error error =>
                  simp only [System.step, harmed, located, executed, Option.some.injEq] at stepped
                  subst stepped
                  refine serializes.enter alone unserved working holds trivial
                    (.inl fun result ends => ?_)
                  rw [Program.CanEnd.of_raise ends]
                  exact comes _ (Program.canEnd_call_error (lock.exec_error executed))
              | ok pair =>
                  obtain ⟨answer, world⟩ := pair
                  simp only [System.step, harmed, located, executed, Option.some.injEq] at stepped
                  subst stepped
                  exact serializes.enter alone unserved (lock.working_exec working executed)
                    (lock.holds_exec holds executed) (closes answer)
                    (.inl fun result ends => comes _ (.call_ok (lock.exec_ok executed) ends))

/-- **One step of an interleaving** adds at most one call to the serial run. -/
theorem step (serializes : Serializes lock program cut start ended value inside system)
    (guards : ∀ agent, lock.Guards (program agent))
    (hits : ∀ error, action.fault = some error → cut action.agent error)
    (stepped : system.step engine action = some system') :
    ∃ more value' inside',
      Serializes lock program cut start (ended ++ more) value' inside' system' := by
  by_cases isEnded : action.agent ∈ ended.map Prod.fst
  · exact ⟨[], value, inside, (List.append_nil ended).symm ▸
      serializes.step_ended isEnded stepped⟩
  · by_cases isInside : inside = some action.agent
    · subst isInside
      exact serializes.step_inside hits stepped
    · obtain ⟨more, inside', after⟩ :=
        serializes.step_waiting (guards _) isInside isEnded hits stepped
      exact ⟨more, value, inside', after⟩

omit [DecidableEq ι] in
/-- Every call that is over is one of the serial run. -/
theorem complete (serializes : Serializes lock program cut start ended value inside system)
    {agent : ι} (guards : lock.Guards (program agent)) (isOver : (system.thread agent).Ended) :
    agent ∈ ended.map Prod.fst := by
  by_contra unserved
  by_cases isInside : inside = some agent
  · subst isInside
    obtain ⟨rest, events, located, closes, -⟩ := serializes.stage.doing
    rw [located] at isOver
    rcases isOver with ⟨returned, isDone⟩ | ⟨error, raised⟩
    · obtain rfl : rest = .done returned := isDone
      exact closes
    · cases raised
  · obtain ⟨stmt, next, isProgram, -⟩ := guards
    rcases serializes.waiting agent isInside unserved with located | ⟨rest, opens, located⟩
    · rw [located, isProgram] at isOver
      rcases isOver with ⟨returned, isDone⟩ | ⟨error, raised⟩
      · cases isDone
      · cases raised
    · rw [isProgram] at opens
      obtain rfl := Program.begin.inj opens
      rw [located] at isOver
      rcases isOver with ⟨returned, isDone⟩ | ⟨error, raised⟩
      · cases isDone
      · cases raised

end Serializes

omit [DecidableEq ι] in
/-- Everybody is about to start. -/
theorem CommonLock.serializes_start {world : W} (settled : lock.Settled world start) :
    Serializes lock program cut start [] start none (System.start world program) where
  serial := .nil
  nodup := List.nodup_nil
  shown agent outcome found := by cases found
  stage := settled
  new agent isInside := by cases isInside
  waiting agent _ _ := .inl rfl

/-- A run meets every weaker condition. -/
theorem Reaches.mono {Meets Meets' : System S ι W ε α → Action ι I ε → Prop}
    {first : System S ι W ε α} (reached : Reaches engine Meets first system)
    (weaker : ∀ between action, Meets between action → Meets' between action) :
    Reaches engine Meets' first system := by
  induction reached with
  | refl => exact .refl
  | tail _ meets stepped ih => exact .tail ih (weaker _ _ meets) stepped

/-- **Serializability.**  Between two moments of an interleaving the serial run has grown by
the calls that have come to their end. -/
theorem CommonLock.serializes (guards : ∀ agent, lock.Guards (program agent)) {world : W}
    (settled : lock.Settled world start)
    (reached : Reaches engine (fun _ action => ∀ error, action.fault = some error →
      cut action.agent error) (System.start world program) system)
    (later : Reaches engine (fun _ action => ∀ error, action.fault = some error →
      cut action.agent error) system system') :
    ∃ ended value inside, Serializes lock program cut start ended value inside system ∧
      ∃ more value' inside',
        Serializes lock program cut start (ended ++ more) value' inside' system' := by
  obtain ⟨ended, value, inside, before⟩ := reached.invariant
    (fun system => ∃ ended value inside,
      Serializes lock program cut start ended value inside system)
    ⟨[], start, none, lock.serializes_start settled⟩ (by
      rintro between after action ⟨ended, value, inside, before⟩ hits stepped
      obtain ⟨more, value', inside', after⟩ := before.step guards hits stepped
      exact ⟨_, value', inside', after⟩)
  refine ⟨ended, value, inside, before, ?_⟩
  refine later.invariant (fun system => ∃ more value' inside',
    Serializes lock program cut start (ended ++ more) value' inside' system)
    ⟨[], value, inside, (List.append_nil ended).symm ▸ before⟩ ?_
  rintro between after action ⟨more, value', inside', before⟩ hits stepped
  obtain ⟨more', value'', inside'', after⟩ := before.step guards hits stepped
  exact ⟨more ++ more', value'', inside'', List.append_assoc ended more more' ▸ after⟩

end CommonLock

end Transactional
